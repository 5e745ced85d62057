import PresetBuild.Proofs.Text.Utf8
import PresetBuild.Text.Lowercase
import PresetBuild.Text.Pieces

/-!
# The lower case of ASCII

Below U+0080 the lower case of a character is one character, and core's `Char.toLower` knows it. A
text whose characters have ASCII lower cases in core's sense is ASCII itself: core changes no other
character, so none of the signs that look like a letter (the Kelvin sign is one) can slip in.

Beyond ASCII the lower case of a character has something in it that is not ASCII, but for that sign,
whose lower case is `k` (`foreign_of_beyond_ascii`). So a name that is ASCII and has no `k` in it is
the lower case of those texts alone whose characters say so in core's sense, whatever else there is
in Unicode (`takeWhile_lowerAfter_eq_iff`). That is said up to the first equals sign; since the
lower case of a text has an equals sign where the text has one and nowhere else, it comes to be true
of keywords as whole texts (`lowercase_eq_iff`) and with an equals sign behind them
(`assigns_lowercase_iff`).
-/

namespace PresetBuild.Text

/-- What holds of the first 128 characters, one by one, holds of every ASCII character. -/
theorem forall_ascii {P : Char → Prop} (table : ∀ n < 128, P (Char.ofNat n)) {c : Char}
    (h : c.toNat < 128) : P c := by
  have hc := table c.toNat h
  rwa [Char.ofNat_toNat] at hc

/-- The lower case of one ASCII character is the one that core knows. -/
theorem lowerOf_of_ascii {c : Char} (h : c.toNat < 128) : lowerOf c = [c.toLower] :=
  forall_ascii (P := fun c => lowerOf c = [c.toLower]) (by decide +kernel) h

/-- A character whose lower case is ASCII in core's sense is ASCII. -/
theorem ascii_of_toLower {c : Char} (h : c.toLower.toNat < 128) : c.toNat < 128 := by
  unfold Char.toLower at h
  split at h
  · next hupper =>
    have hle : c.toNat ≤ 'Z'.toNat := hupper.2
    exact Nat.lt_of_le_of_lt hle (by decide)
  · exact h

/-- A dash is the lower case of a dash alone. -/
theorem eq_dash_of_toLower {c : Char} (h : c.toLower = '-') : c = '-' :=
  forall_ascii (P := fun c => c.toLower = '-' → c = '-') (by decide +kernel)
    (ascii_of_toLower (h ▸ by decide)) h

/-- An equals sign is the lower case of an equals sign alone. -/
theorem eq_equals_of_toLower {c : Char} (h : c.toLower = '=') : c = '=' :=
  forall_ascii (P := fun c => c.toLower = '=' → c = '=') (by decide +kernel)
    (ascii_of_toLower (h ▸ by decide)) h

/-! ## Beyond ASCII -/

/-- No run leads into ASCII from beyond it, but for the Kelvin sign's. -/
theorem lowerRuns_beyond_ascii : ∀ r ∈ lowerRuns, r.last < 128 ∨
    (128 ≤ r.image ∧ ∀ n ≤ r.last - r.first, (r.image + n).isValidChar) ∨
    r.first = r.last ∧ r.image = 'k'.toNat := by
  decide +kernel

/-- **A character that the lower case of ASCII text without a `k` does not have.** -/
def Foreign (c : Char) : Prop :=
  128 ≤ c.toNat ∨ c = 'k'

instance : DecidablePred Foreign := fun c => inferInstanceAs (Decidable (128 ≤ c.toNat ∨ c = 'k'))

/-- **A keyword**: a name without foreign characters and without an equals sign. -/
structure IsKeyword (name : List Char) : Prop where
  native : ∀ c ∈ name, ¬Foreign c
  single : '=' ∉ name

/-- Decided along the name: there is a way to go through all characters, too, which takes long. -/
instance (name : List Char) : Decidable (IsKeyword name) :=
  have := List.decidableBAll (fun c => ¬Foreign c) name
  decidable_of_iff ((∀ c ∈ name, ¬Foreign c) ∧ '=' ∉ name)
    ⟨fun h => ⟨h.1, h.2⟩, fun h => ⟨h.native, h.single⟩⟩

/-- The characters of a keyword are ASCII, and so are those whose lower cases they are. -/
theorem IsKeyword.ascii {name text : List Char} (h : IsKeyword name)
    (spelled : text.map Char.toLower = name) : ∀ c ∈ text, c.toNat < 128 := by
  intro c hc
  apply ascii_of_toLower
  apply Nat.lt_of_not_le
  intro hle
  exact h.native _ (spelled ▸ List.mem_map_of_mem hc) (.inl hle)

/-- Where a run maps a character beyond ASCII to. -/
theorem foreign_target {r : CaseRun} {c : Char} (hr : r ∈ lowerRuns) (maps : r.maps c.toNat = true)
    (h : 128 ≤ c.toNat) : Foreign (Char.ofNat (r.target c.toNat)) := by
  simp only [CaseRun.maps, Bool.and_eq_true, decide_eq_true_eq] at maps
  obtain ⟨⟨hfirst, hlast⟩, -⟩ := maps
  rcases lowerRuns_beyond_ascii r hr with hascii | ⟨himage, hvalid⟩ | ⟨hsingle, himage⟩
  · omega
  · have htarget := hvalid (c.toNat - r.first) (by omega)
    refine .inl ?_
    rw [CaseRun.target, toNat_ofNat htarget]
    omega
  · refine .inr ?_
    have heq : r.target c.toNat = 'k'.toNat := by
      rw [CaseRun.target, himage]
      omega
    rw [heq]
    rfl

/-- What stands in the lower case of a text for its character between `before` and `after`. -/
def lowerBetween (before after : List Char) (c : Char) : List Char :=
  if c = 'Σ' then [lowerSigma before after] else lowerOf c

theorem lowerAfter_cons (before after : List Char) (c : Char) :
    lowerAfter before (c :: after) =
      lowerBetween before after c ++ lowerAfter (c :: before) after :=
  rfl

/-- **The lower case of a character beyond ASCII** has a foreign character, and no `=`. -/
theorem foreign_of_beyond_ascii {c : Char} (h : 128 ≤ c.toNat) (before after : List Char) :
    '=' ∉ lowerBetween before after c ∧ ∃ d ∈ lowerBetween before after c, Foreign d := by
  have single {d : Char} (hd : Foreign d) : '=' ∉ [d] ∧ ∃ e ∈ [d], Foreign e := by
    refine ⟨fun hmem => ?_, d, List.mem_singleton_self d, hd⟩
    rw [← List.mem_singleton.mp hmem] at hd
    exact absurd hd (by unfold Foreign; decide)
  unfold lowerBetween lowerSigma lowerOf
  split
  · split
    · exact single (.inl (by decide))
    · exact single (.inl (by decide))
  · split
    · exact ⟨by decide, '\u0307', by decide, .inl (by decide)⟩
    · split
      · next r hfind =>
        have maps : r.maps c.toNat = true :=
          List.find?_some (p := fun r : CaseRun => r.maps c.toNat) hfind
        exact single (foreign_target (List.mem_of_find?_eq_some hfind) maps h)
      · exact single (.inl h)

/-- What stands around an ASCII character does not matter to it. -/
theorem lowerBetween_of_ascii {c : Char} (h : c.toNat < 128) (before after : List Char) :
    lowerBetween before after c = [c.toLower] := by
  have hsigma : c ≠ 'Σ' := by
    rintro rfl
    exact absurd h (by decide)
  rw [lowerBetween, if_neg hsigma, lowerOf_of_ascii h]

/-- An equals sign stands for itself. -/
theorem lowerBetween_equals (before after : List Char) : lowerBetween before after '=' = ['='] :=
  lowerBetween_of_ascii (by decide) before after

/-- The lower case of a text with an equals sign has one. -/
theorem equals_mem_lowerAfter {text : List Char} (h : '=' ∈ text) (before : List Char) :
    '=' ∈ lowerAfter before text := by
  induction text generalizing before with
  | nil => exact absurd h List.not_mem_nil
  | cons c text ih =>
    rw [lowerAfter_cons]
    rcases List.mem_cons.mp h with rfl | h
    · rw [lowerBetween_equals]
      exact List.mem_append_left _ (List.mem_singleton_self _)
    · exact List.mem_append_right _ (ih h _)

/-- What stands before the first equals sign goes on with any other character. -/
theorem takeWhile_cons_of_ne {c : Char} (h : c ≠ '=') (text : List Char) :
    (c :: text).takeWhile (· != '=') = c :: text.takeWhile (· != '=') :=
  List.takeWhile_cons_of_pos (p := (· != '=')) (bne_iff_ne.mpr h)

/-- **The lower case up to the first equals sign** is a name without foreign characters exactly if
the characters up to that sign have the name for their lower cases, by induction on the text. -/
theorem takeWhile_lowerAfter_eq_iff {text name : List Char} (native : ∀ c ∈ name, ¬Foreign c)
    (before : List Char) :
    (lowerAfter before text).takeWhile (· != '=') = name ↔
      (text.takeWhile (· != '=')).map Char.toLower = name := by
  induction text generalizing name before with
  | nil => exact Iff.rfl
  | cons c text ih =>
    rw [lowerAfter_cons]
    by_cases hc : c = '='
    · rw [hc, lowerBetween_equals]
      exact Iff.rfl
    by_cases hascii : c.toNat < 128
    · have hequals : c.toLower ≠ '=' := fun h => hc (eq_equals_of_toLower h)
      rw [lowerBetween_of_ascii hascii, List.singleton_append, takeWhile_cons_of_ne hequals,
        takeWhile_cons_of_ne hc, List.map_cons]
      cases name with
      | nil => exact iff_of_false nofun nofun
      | cons n name =>
        rw [List.cons.injEq, List.cons.injEq, ih fun d hd => native d (List.mem_cons_of_mem n hd)]
    · -- neither side can be: the name has no foreign character
      have hbeyond : 128 ≤ c.toNat := Nat.le_of_not_lt hascii
      obtain ⟨hequals, d, hd, hforeign⟩ := foreign_of_beyond_ascii hbeyond before text
      refine iff_of_false (fun h => ?_) (fun h => ?_)
      · rw [List.takeWhile_append_of_pos (passes_of_not_mem hequals)] at h
        exact native d (h ▸ List.mem_append_left _ hd) hforeign
      · rw [takeWhile_cons_of_ne hc, List.map_cons] at h
        apply hascii
        apply ascii_of_toLower
        exact Nat.lt_of_not_le fun hle => native _ (h ▸ List.mem_cons_self) (.inl hle)

/-! ## Whole texts -/

variable {text name : List Char}

/-- The lower case of a text has an equals sign if, and only if, the text has one. -/
theorem equals_mem_lowerAfter_iff (before : List Char) :
    '=' ∈ lowerAfter before text ↔ '=' ∈ text := by
  refine ⟨fun h => ?_, fun h => equals_mem_lowerAfter h before⟩
  induction text generalizing before with
  | nil => exact h
  | cons c text ih =>
    rw [lowerAfter_cons, List.mem_append] at h
    rcases h with h | h
    · by_cases hascii : c.toNat < 128
      · rw [lowerBetween_of_ascii hascii, List.mem_singleton] at h
        simp [eq_equals_of_toLower h.symm]
      · exact absurd h (foreign_of_beyond_ascii (Nat.le_of_not_lt hascii) before text).1
    · exact List.mem_cons_of_mem c (ih _ h)

/-- **A whole text has a keyword for its lower case** exactly if its letters have, one by one. -/
theorem lowercase_eq_iff (keyword : IsKeyword name) :
    lowercase text = name ↔ text.map Char.toLower = name := by
  obtain ⟨hnative, hsingle⟩ := keyword
  have hname : _ ↔ (text.takeWhile (· != '=')).map Char.toLower = name :=
    takeWhile_lowerAfter_eq_iff hnative []
  constructor
  · intro h
    have htext : '=' ∉ text := fun hmem => hsingle (h ▸ equals_mem_lowerAfter hmem [])
    rwa [show lowerAfter [] text = name from h, takeWhile_eq_self hsingle, takeWhile_eq_self htext,
      eq_self, true_iff] at hname
  · intro h
    have htext : '=' ∉ text := fun hmem =>
      hsingle (h ▸ List.mem_map_of_mem (f := Char.toLower) hmem)
    have hlower : '=' ∉ lowerAfter [] text := fun hmem =>
      htext ((equals_mem_lowerAfter_iff []).mp hmem)
    rwa [takeWhile_eq_self htext, takeWhile_eq_self hlower, h, eq_self, iff_true] at hname

/-- **The lower case of a text begins with a keyword and an equals sign** exactly if the letters
before the first equals sign have the keyword for their lower cases. -/
theorem assigns_lowercase_iff (keyword : IsKeyword name) :
    name ++ ['='] <+: lowercase text ↔
      ∃ front value,
        text = front ++ '=' :: value ∧ '=' ∉ front ∧ front.map Char.toLower = name := by
  rw [concat_prefix_iff keyword.single, lowercase, takeWhile_lowerAfter_eq_iff keyword.native [],
    equals_mem_lowerAfter_iff []]
  constructor
  · rintro ⟨hname, hmem⟩
    obtain ⟨front, value, rfl, hfront⟩ := List.eq_append_cons_of_mem hmem
    rw [takeWhile_append_separator hfront] at hname
    exact ⟨front, value, rfl, hfront, hname⟩
  · rintro ⟨front, value, rfl, hfront, hname⟩
    exact ⟨by rwa [takeWhile_append_separator hfront], by simp⟩

end PresetBuild.Text
