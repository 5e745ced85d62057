import Mathlib.Data.List.Forall2

/-!
# Lists sifted

A list is sifted when each of its elements in turn is either kept, as something, or set aside as it
is. Nothing is lost and nothing changes its place among its own kind: the relation (`Sifted`) takes
one position of the list at a time and says where it goes and why.

A partial function sifts a list by what it gives for each element. That is the relation exactly, if
the reasons for keeping and for setting aside are those of the function (`sifted_iff`). Where in the
list the elements stand that a partial function gives something for is said here as well: all of
them in order (`exists_places`), and the last (`getLast?_filterMap_eq_some_iff`).
-/

namespace PresetBuild

variable {α β : Type}

/-- **A list sifted**: the elements kept, as what they are kept, and the elements set aside, each in
order. -/
inductive Sifted (keptAs : α → β → Prop) (aside : α → Prop) : List α → List β → List α → Prop
  | nil : Sifted keptAs aside [] [] []
  | keep {x : α} {y : β} {xs : List α} {ys : List β} {zs : List α} (as : keptAs x y)
      (rest : Sifted keptAs aside xs ys zs) : Sifted keptAs aside (x :: xs) (y :: ys) zs
  | drop {x : α} {xs : List α} {ys : List β} {zs : List α} (out : aside x)
      (rest : Sifted keptAs aside xs ys zs) : Sifted keptAs aside (x :: xs) ys (x :: zs)

section Function

variable {f : α → Option β} {keptAs : α → β → Prop} {aside : α → Prop}

/-- A partial function sifts a list, by induction on the list. -/
theorem sifted_filterMap (kept : ∀ x y, keptAs x y ↔ f x = some y) (out : ∀ x, aside x ↔ f x = none)
    (xs : List α) : Sifted keptAs aside xs (xs.filterMap f) (xs.filter fun x => (f x).isNone) := by
  induction xs with
  | nil => exact .nil
  | cons x xs ih =>
    cases h : f x with
    | none => simpa [h] using Sifted.drop ((out x).mpr h) ih
    | some y => simpa [h] using Sifted.keep ((kept x y).mpr h) ih

/-- **A list is sifted by a partial function** in this way and in no other. -/
theorem sifted_iff (kept : ∀ x y, keptAs x y ↔ f x = some y) (out : ∀ x, aside x ↔ f x = none)
    {xs zs : List α} {ys : List β} :
    Sifted keptAs aside xs ys zs ↔
      xs.filterMap f = ys ∧ (xs.filter fun x => (f x).isNone) = zs := by
  constructor
  · intro h
    induction h with
    | nil => exact ⟨rfl, rfl⟩
    | keep as _ ih => simp [(kept _ _).mp as, ih]
    | drop gone _ ih => simp [(out _).mp gone, ih]
  · rintro ⟨rfl, rfl⟩
    exact sifted_filterMap kept out xs

/-- **The last element that a function gives something for**: it gives nothing for those behind. -/
theorem getLast?_filterMap_eq_some_iff {xs : List α} {y : β} :
    (xs.filterMap f).getLast? = some y ↔
      ∃ before x after, xs = before ++ x :: after ∧ f x = some y ∧ ∀ z ∈ after, f z = none := by
  rw [List.getLast?_filterMap, List.findSome?_eq_some_iff]
  constructor
  · rintro ⟨after, x, before, hxs, hx, hafter⟩
    refine ⟨before.reverse, x, after.reverse, ?_, hx, by simpa using hafter⟩
    simpa using congrArg List.reverse hxs
  · rintro ⟨before, x, after, rfl, hx, hafter⟩
    exact ⟨after.reverse, x, before.reverse, by simp, hx, by simpa using hafter⟩

/-- **The places of the elements that a function gives something for**, in order, and what it gives
for each. -/
theorem exists_places (f : α → Option β) (xs : List α) :
    ∃ places : List Nat, places.Pairwise (· < ·) ∧
      (∀ i, i ∈ places ↔ ∃ x, xs[i]? = some x ∧ (f x).isSome) ∧
      List.Forall₂ (fun i y => ∃ x, xs[i]? = some x ∧ f x = some y) places (xs.filterMap f) := by
  induction xs with
  | nil => exact ⟨[], .nil, by simp, .nil⟩
  | cons x xs ih =>
    obtain ⟨places, hsorted, hmem, hgiven⟩ := ih
    -- the places in the rest are one further on
    have hsorted' : (places.map (· + 1)).Pairwise (· < ·) :=
      hsorted.map _ fun _ _ h => Nat.succ_lt_succ h
    have hmem' : ∀ i, i + 1 ∈ places.map (· + 1) ↔ ∃ z, xs[i]? = some z ∧ (f z).isSome := by
      intro i
      rw [← hmem i]
      simp
    have hgiven' : List.Forall₂ (fun i y => ∃ z, (x :: xs)[i]? = some z ∧ f z = some y)
        (places.map (· + 1)) (xs.filterMap f) := by
      rw [List.forall₂_map_left_iff]
      exact hgiven
    cases hx : f x with
    | none =>
      rw [List.filterMap_cons_none hx]
      refine ⟨_, hsorted', fun i => ?_, hgiven'⟩
      cases i with
      | zero => simp [hx]
      | succ i => exact hmem' i
    | some y =>
      rw [List.filterMap_cons_some hx]
      refine ⟨0 :: places.map (· + 1), .cons (by simp) hsorted', fun i => ?_,
        .cons ⟨x, rfl, hx⟩ hgiven'⟩
      cases i with
      | zero => simp [hx]
      | succ i =>
        rw [List.mem_cons, or_iff_right (Nat.succ_ne_zero i)]
        exact hmem' i

end Function

end PresetBuild
