import PresetBuild.Options
import PresetBuild.Proofs.Sifting

/-!
# What words come to

Words are heard one after another, and each of the three things that they settle is settled by a
rule of its own: whether to list by any `list` at all, the preset by the last word that names one,
and what to do behind the listing by the last word of all. None of the three looks at what the words
do to the others (`Wish.hear_eq`), so a whole list of words settles them apart (`foldl_hear`). The
clear switch is looked at when all words have been heard.

`texts_to_options` says that of the texts of a command line, which are sifted into words and texts
that mean nothing before any word is heard.
-/

namespace PresetBuild

/-! ## Words heard -/

/-- The preset that a word names, if it names one. -/
def Word.named? : Word → Option Preset
  | .preset name => some ⟨name⟩
  | _ => none

/-- What is done behind the listing if a word is the last. -/
def Word.action : Word → Action
  | .list => .none
  | .build => .build
  | .preset _ => .build

/-- **A word settles three things apart**: the action anew, the preset if it names one, and the
listing if it is `list`. -/
theorem Wish.hear_eq (wish : Wish) (w : Word) :
    wish.hear w = ⟨w.action, w.named?.or wish.preset, wish.listing || .list == w⟩ := by
  cases w <;> simp [hear, Word.action, Word.named?]

/-- **What a list of words settles**, by induction on the words, whatever was settled before. -/
theorem foldl_hear (words : List Word) (wish : Wish) :
    words.foldl Wish.hear wish =
      ⟨(words.getLast?.map Word.action).getD wish.action,
        (words.filterMap Word.named?).getLast?.or wish.preset,
        wish.listing || words.contains .list⟩ := by
  induction words generalizing wish with
  | nil => simp
  | cons w words ih =>
    rw [List.foldl_cons, ih, Wish.hear_eq]
    congr 1
    · cases hlast : words.getLast? <;> simp [List.getLast?_cons, hlast]
    · cases hnamed : w.named? with
      | none => simp [hnamed]
      | some p => cases hlast : (words.filterMap Word.named?).getLast? <;>
          simp [hnamed, List.getLast?_cons, hlast]
    · rw [List.contains_cons, Bool.or_assoc]

/-! ## Options -/

variable {words : List Word} {flags : Flags}

/-- **What a word list and the switches come to**, in one equation. -/
theorem ofWords_eq (words : List Word) (flags : Flags) :
    Options.ofWords words flags =
      { action := if flags.clear then .clear else (words.getLast?.map Word.action).getD .build
        preset := (words.filterMap Word.named?).getLast?
        listing := words.contains .list
        output := if flags.noOut then .silent else .inherit
        parallel := !flags.noParallel
        install := flags.install
        source := if flags.fromJson then .file else .listing } := by
  simp [Options.ofWords, foldl_hear]

/-- Nothing is done behind the listing if `list` is the last word, and a build if it is not. -/
theorem action_getLast? (words : List Word) :
    (words.getLast?.map Word.action).getD .build =
      if words.getLast? = some .list then .none else .build := by
  cases words.getLast? with
  | none => rfl
  | some w => cases w <;> simp [Word.action]

theorem named?_eq_some_iff {w : Word} {name : String} :
    w.named? = some ⟨name⟩ ↔ w = .preset name := by
  cases w <;> simp [Word.named?]

theorem named?_eq_none_iff {w : Word} : w.named? = none ↔ ∀ name, w ≠ .preset name := by
  cases w <;> simp [Word.named?]

/-- **The preset is the one that was named last.** -/
theorem ofWords_preset_eq_some_iff {name : String} :
    (Options.ofWords words flags).preset = some ⟨name⟩ ↔
      ∃ before after, words = before ++ .preset name :: after ∧ ∀ other, .preset other ∉ after := by
  rw [ofWords_eq]
  show (words.filterMap Word.named?).getLast? = some ⟨name⟩ ↔ _
  rw [getLast?_filterMap_eq_some_iff]
  constructor
  · rintro ⟨before, w, after, rfl, hw, hafter⟩
    rw [named?_eq_some_iff] at hw
    subst hw
    refine ⟨before, after, rfl, fun other hmem => ?_⟩
    exact named?_eq_none_iff.mp (hafter _ hmem) other rfl
  · rintro ⟨before, after, rfl, hafter⟩
    refine ⟨before, .preset name, after, rfl, rfl, fun w hw => ?_⟩
    apply named?_eq_none_iff.mpr
    rintro other rfl
    exact hafter other hw

/-- There is no preset where none is named. -/
theorem ofWords_preset_eq_none_iff :
    (Options.ofWords words flags).preset = none ↔ ∀ name, .preset name ∉ words := by
  rw [ofWords_eq]
  show (words.filterMap Word.named?).getLast? = none ↔ _
  rw [List.getLast?_eq_none_iff, List.filterMap_eq_nil_iff]
  constructor
  · intro h name hmem
    exact named?_eq_none_iff.mp (h _ hmem) name rfl
  · intro h w hw
    apply named?_eq_none_iff.mpr
    rintro name rfl
    exact h name hw

/-! ## Texts -/

/-- The words of some texts are those that the texts are, and the others mean nothing. -/
theorem split_sifted (texts : List String) :
    Sifted (fun t w => Word.parse t = .ok w) (fun t => Word.parse t = .error ⟨t⟩) texts
      (Word.split texts).1 (Word.split texts).2 := by
  apply sifted_filterMap
  · intro t w
    unfold Word.parse
    cases Word.ofString? t <;> simp
  · intro t
    unfold Word.parse
    cases Word.ofString? t <;> simp

/-- A word is among those of some texts if one of the texts is that word. -/
theorem mem_split_iff {texts : List String} {w : Word} :
    w ∈ (Word.split texts).1 ↔ ∃ t ∈ texts, Word.parse t = .ok w := by
  rw [Word.split, List.mem_filterMap]
  refine exists_congr fun t => and_congr_right fun _ => ?_
  unfold Word.parse
  cases Word.ofString? t <;> simp

/-- **From the texts of a command line to options.** The texts are sifted, in order, into words and
texts that mean nothing. The presets are listed if any text is `list`; the preset is the one that
the last word to name one names, if any does, whatever words stand around it; and the action is to
clear if that switch is set, nothing if the last word of all is `list`, and a build otherwise. The
other options are each that of one switch. So texts with the same words come to the same options. -/
theorem texts_to_options (texts : List String) (flags : Flags) :
    let words := (Word.split texts).1
    let o := Options.ofWords words flags
    Sifted (fun t w => Word.parse t = .ok w) (fun t => Word.parse t = .error ⟨t⟩) texts words
        (Word.split texts).2 ∧
      (o.listing = true ↔ ∃ t ∈ texts, Word.parse t = .ok .list) ∧
      (∀ name, o.preset = some ⟨name⟩ ↔
        ∃ before after, words = before ++ .preset name :: after ∧ ∀ other, .preset other ∉ after) ∧
      (o.preset = none ↔ ∀ name, .preset name ∉ words) ∧
      (o.action =
        if flags.clear then .clear else if words.getLast? = some .list then .none else .build) ∧
      o.output = (if flags.noOut then .silent else .inherit) ∧
      o.parallel = !flags.noParallel ∧
      o.install = flags.install ∧
      o.source = (if flags.fromJson then .file else .listing) ∧
      ∀ texts', (Word.split texts').1 = words →
        Options.ofWords (Word.split texts').1 flags = o := by
  intro words o
  have ho : o = _ := ofWords_eq words flags
  refine ⟨split_sifted texts, ?_, fun name => ofWords_preset_eq_some_iff,
    ofWords_preset_eq_none_iff, ?_, ?_, ?_, ?_, ?_, ?_⟩
  · rw [← mem_split_iff, ho]
    exact List.contains_iff_mem
  · rw [ho, ← action_getLast?]
  · rw [ho]
  · rw [ho]
  · rw [ho]
  · rw [ho]
  · intro texts' same
    rw [same]

/-- A preset is named, the listing comes last, and an unknown word stands between. -/
theorem texts_to_options_listing :
    let texts := ["preset=x64", "verbose", "LIST"]
    let o := Options.ofWords (Word.split texts).1 {}
    (Word.split ["Preset=x64", "list"]).1 = (Word.split texts).1 ∧
      Options.ofWords (Word.split ["Preset=x64", "list"]).1 {} = o ∧
      o.listing = true ∧ o.preset = some ⟨"x64"⟩ ∧ o.action = .none := by
  intro texts o
  have hwords : (Word.split texts).1 = [.preset "x64", .list] := by decide +kernel
  have hsame : (Word.split ["Preset=x64", "list"]).1 = (Word.split texts).1 := by decide +kernel
  obtain ⟨-, hlisting, hpreset, -, haction, -, -, -, -, hall⟩ := texts_to_options texts {}
  refine ⟨hsame, hall _ hsame, hlisting.mpr ?_, (hpreset "x64").mpr ?_, haction.trans ?_⟩
  · rw [← mem_split_iff, hwords]
    simp
  · exact ⟨[], [.list], hwords, by simp⟩
  · rw [hwords]
    rfl

end PresetBuild
