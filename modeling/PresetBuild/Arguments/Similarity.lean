import PresetBuild.Binary64

/-!
# How alike two texts are

The measure is Jaro's. A character of the one text is matched with the first equal character of the
other that is still free and stands no further away than a window, which is half the longer length
less one. The likeness is the mean of three ratios: the matched characters to each length, and to
the matched characters those that are not half of a pair out of order.

The ratios and their mean are computed in binary64, since texts are told apart at a threshold by
the last bit of it.
-/

namespace PresetBuild.Similarity

open Binary64 (nearest)

/-- How far apart two matched characters may stand. -/
def window (a b : List Char) : Nat :=
  (if a.length < b.length then b.length else a.length) / 2 - 1

/-- The first free place of a character in a text, near a place. -/
def place? (b : List Char) (window : Nat) (used : List Nat) (here : Nat) (c : Char) : Option Nat :=
  (List.range b.length).find? fun j =>
    decide (here ≤ j + window) && decide (j ≤ here + window) && b[j]? == some c && !used.contains j

/-- The matched characters of the first text, and the places they are matched with, from a place on,
where some places are used already. -/
def matched (b : List Char) (window : Nat) : List Nat → Nat → List Char → List Char × List Nat
  | used, _, [] => ([], used)
  | used, here, c :: rest =>
    match place? b window used here c with
    | none => matched b window used (here + 1) rest
    | some j =>
      let others := matched b window (j :: used) (here + 1) rest
      (c :: others.1, others.2)

/-- The characters at some places of a text, in the order of the text. -/
def charactersAt (b : List Char) (places : List Nat) : List Char :=
  ((List.range b.length).filter places.contains).filterMap fun j => b[j]?

/-- How many characters of two texts differ, place by place. -/
def differences (a b : List Char) : Nat :=
  ((a.zip b).filter fun p => p.1 != p.2).length

/-- The likeness of texts of two lengths with so many characters in common and so many pairs of them
out of order. -/
def likeness (first second common swaps : Nat) : Rat :=
  if common = 0 then 0
  else
    let ofFirst := nearest ((common : Rat) / (first : Rat))
    let ofSecond := nearest ((common : Rat) / (second : Rat))
    let inOrder := nearest (((common - swaps : Nat) : Rat) / (common : Rat))
    nearest (nearest (nearest (ofFirst + ofSecond) + inOrder) / 3)

/-- **The likeness of two texts**, between 0 and 1; two empty texts are alike. -/
def jaro (a b : List Char) : Rat :=
  if a.isEmpty && b.isEmpty then 1
  else
    let found := matched b (window a b) [] 0 a
    let swaps := differences found.1 (charactersAt b found.2) / 2
    likeness a.length b.length found.1.length swaps

/-- The likeness above which a text is worth pointing out. -/
def threshold : Rat :=
  nearest (7 / 10)

/-- The better of a choice and one more text; of two equally alike, the later. -/
def better (text : List Char) (best : Option (Rat × String)) (candidate : String) :
    Option (Rat × String) :=
  let likeness := jaro text candidate.toList
  if likeness ≤ threshold then best
  else match best with
    | none => some (likeness, candidate)
    | some (highest, _) => if likeness < highest then best else some (likeness, candidate)

/-- **The candidate most like a text**, if one is alike enough. -/
def closest? (text : List Char) (candidates : List String) : Option String :=
  (candidates.foldl (better text) none).map Prod.snd

end PresetBuild.Similarity
