import PresetBuild.Proofs.Text.Lowercase

/-!
# Texts in lower case

The lower case of a text, taken once more, stays as it is (`lowercase_lowercase`), whatever the
text.

A character is small (`Small`) if no run of the case table maps it and it is not the dotted capital
I. Whatever stands in the lower case of a text is small (`small_of_mem_lowercase`), and a text of
small characters is its own lower case (`lowercase_of_small`). Neighbours are looked at for a
capital sigma alone, and that letter is mapped, so the second time there is nothing to look around
for.

That the table leads out of itself is checked on pairs of runs and not on single letters: the images
of a run are out of the reach of every other, or lie between the code points that it maps
(`lowerRuns_clear`).
-/

namespace PresetBuild.Text

/-- **A character that is its own lower case.** -/
structure Small (c : Char) : Prop where
  unmapped : ∀ r ∈ lowerRuns, r.maps c.toNat = false
  undotted : c ≠ 'İ'

instance : DecidablePred Small := fun c =>
  have := List.decidableBAll (fun r : CaseRun => r.maps c.toNat = false) lowerRuns
  decidable_of_iff ((∀ r ∈ lowerRuns, r.maps c.toNat = false) ∧ c ≠ 'İ')
    ⟨fun h => ⟨h.1, h.2⟩, fun h => ⟨h.unmapped, h.undotted⟩⟩

/-! ## The table -/

/-- The greatest image of a run. -/
def CaseRun.lastImage (r : CaseRun) : Nat :=
  r.image + (r.last - r.first)

/-- **Whether a run is clear of another**: the other maps none of its images, since they are out of
its reach or lie between code points of which it maps every second one. -/
def CaseRun.clearOf (r other : CaseRun) : Bool :=
  Nat.blt other.last r.image || Nat.blt r.lastImage other.first
    || (Nat.beq r.step 2 || Nat.beq r.first r.last) && Nat.beq other.step 2
      && !Nat.beq (r.image % 2) (other.first % 2)

/-- Every run is clear of every run, itself included. -/
theorem lowerRuns_clear : (lowerRuns.all fun r => lowerRuns.all r.clearOf) = true := by
  decide +kernel

/-- The images of a run are characters, and the dotted capital I is not one of them. -/
theorem lowerRuns_images : ∀ r ∈ lowerRuns,
    (r.lastImage < 0xD800 ∨ 0xDFFF < r.image ∧ r.lastImage < 0x110000) ∧
      (r.lastImage < 'İ'.toNat ∨ 'İ'.toNat < r.image) := by
  decide +kernel

variable {r other : CaseRun} {n : Nat}

theorem CaseRun.maps_iff :
    r.maps n = true ↔ (r.first ≤ n ∧ n ≤ r.last) ∧ (n - r.first) % r.step = 0 := by
  simp only [maps, Bool.and_eq_true, decide_eq_true_eq]

theorem CaseRun.clearOf_iff : r.clearOf other = true ↔
    (other.last < r.image ∨ r.lastImage < other.first) ∨
      ((r.step = 2 ∨ r.first = r.last) ∧ other.step = 2) ∧ r.image % 2 ≠ other.first % 2 := by
  simp only [clearOf, Bool.or_eq_true, Bool.and_eq_true, Bool.not_eq_true', Nat.blt_eq, Nat.beq_eq,
    ← Bool.not_eq_true, ne_eq]

/-- What one run maps to, a run that it is clear of does not map. -/
theorem CaseRun.maps_target (h : r.clearOf other = true) (maps : r.maps n = true) :
    other.maps (r.target n) = false := by
  obtain ⟨⟨hfirst, hlast⟩, hstep⟩ := maps_iff.mp maps
  rw [← Bool.not_eq_true, maps_iff]
  rintro ⟨⟨hofirst, holast⟩, hostep⟩
  rw [clearOf_iff, lastImage] at h
  unfold target at hofirst holast hostep
  rcases h with (hbelow | habove) | ⟨⟨htwo | hone, hotwo⟩, hparity⟩
  · omega
  · omega
  · rw [htwo] at hstep
    rw [hotwo] at hostep
    omega
  · rw [hotwo] at hostep
    omega

/-- **What a run maps to is small.** -/
theorem small_target (hr : r ∈ lowerRuns) (maps : r.maps n = true) :
    Small (Char.ofNat (r.target n)) := by
  obtain ⟨⟨hfirst, hlast⟩, -⟩ := CaseRun.maps_iff.mp maps
  obtain ⟨hvalid, hdotted⟩ := lowerRuns_images r hr
  unfold CaseRun.lastImage at hvalid hdotted
  have htarget : (Char.ofNat (r.target n)).toNat = r.target n := by
    apply toNat_ofNat
    unfold CaseRun.target Nat.isValidChar
    omega
  constructor
  · intro other hother
    rw [htarget]
    exact r.maps_target
      (List.all_eq_true.mp (List.all_eq_true.mp lowerRuns_clear r hr) other hother)
      maps
  · intro heq
    rw [heq] at htarget
    unfold CaseRun.target at htarget
    omega

/-! ## Texts -/

variable {c d : Char} {text : List Char}

/-- A capital sigma is mapped. -/
theorem Small.ne_sigma (h : Small c) : c ≠ 'Σ' := by
  rintro rfl
  exact absurd h (by decide)

/-- A small character stays as it is, whatever stands around it. -/
theorem Small.lowerBetween_eq (h : Small c) (before after : List Char) :
    lowerBetween before after c = [c] := by
  have hnone : lowerRuns.find? (·.maps c.toNat) = none := by
    rw [List.find?_eq_none]
    intro r hr
    rw [h.unmapped r hr]
    exact Bool.false_ne_true
  rw [lowerBetween, if_neg h.ne_sigma, lowerOf, if_neg h.undotted, hnone]

/-- **Whatever a character becomes is small**, in any surroundings. -/
theorem small_of_mem_lowerBetween {before after : List Char}
    (h : d ∈ lowerBetween before after c) : Small d := by
  unfold lowerBetween lowerSigma lowerOf at h
  split at h
  · split at h
    · rw [List.mem_singleton.mp h]
      decide +kernel
    · rw [List.mem_singleton.mp h]
      decide +kernel
  · split at h
    · simp only [List.mem_cons, List.not_mem_nil, or_false] at h
      rcases h with rfl | rfl
      · decide +kernel
      · decide +kernel
    · next hdotted =>
      split at h
      · next r hfind =>
        have maps : r.maps c.toNat = true :=
          List.find?_some (p := fun r : CaseRun => r.maps c.toNat) hfind
        rw [List.mem_singleton.mp h]
        exact small_target (List.mem_of_find?_eq_some hfind) maps
      · next hnone =>
        rw [List.mem_singleton.mp h]
        exact ⟨fun r hr => Bool.eq_false_iff.mpr (List.find?_eq_none.mp hnone r hr), hdotted⟩

theorem small_of_mem_lowerAfter {before : List Char} (h : d ∈ lowerAfter before text) :
    Small d := by
  induction text generalizing before with
  | nil => exact absurd h List.not_mem_nil
  | cons c text ih =>
    rw [lowerAfter_cons] at h
    rcases List.mem_append.mp h with h | h
    · exact small_of_mem_lowerBetween h
    · exact ih h

/-- The characters of a text in lower case are small. -/
theorem small_of_mem_lowercase (h : d ∈ lowercase text) : Small d :=
  small_of_mem_lowerAfter h

theorem lowerAfter_of_small (h : ∀ c ∈ text, Small c) (before : List Char) :
    lowerAfter before text = text := by
  induction text generalizing before with
  | nil => rfl
  | cons c text ih =>
    rw [lowerAfter_cons, (h c List.mem_cons_self).lowerBetween_eq,
      ih fun d hd => h d (List.mem_cons_of_mem c hd)]
    rfl

/-- A text of small characters is its own lower case. -/
theorem lowercase_of_small (h : ∀ c ∈ text, Small c) : lowercase text = text :=
  lowerAfter_of_small h []

/-- **A text in lower case is its own lower case.** -/
theorem lowercase_lowercase (text : List Char) : lowercase (lowercase text) = lowercase text :=
  lowercase_of_small fun _ h => small_of_mem_lowercase h

end PresetBuild.Text
