import PresetBuild.Proofs.Text.Utf8

/-!
# Slices of texts

A text that is kept as its bytes is sliced by offsets. A slice is refused if its ends lie outside
the text or the wrong way round, or if one of them lies inside a character. Whether it does is seen
from one byte: a byte that goes on with a character begins none (`isBoundary`).

An offset is fit for slicing wherever the text is that of some characters before it and some behind
it (`isBoundary_encode`), and what is between two such offsets are the bytes of the characters
between them (`textSlice_encode`). The offset of an ASCII character is found by its byte, which has
no part in any other character (`mem_encode_iff`).
-/

namespace PresetBuild.Text

/-- **Why there is no such slice.** -/
inductive Misfit where
  /-- An end lies outside, or the ends lie the wrong way round. -/
  | outside
  /-- An end lies inside a character. -/
  | insideCharacter
  deriving DecidableEq, Repr

/-- **The elements of a list from one index up to another.** -/
def slice {α : Type} (first last : Nat) (xs : List α) : Except Misfit (List α) :=
  if first ≤ last ∧ last ≤ xs.length then .ok ((xs.take last).drop first) else .error .outside

/-- Whether a byte goes on with a character that another one has begun. -/
def isContinuation (b : UInt8) : Bool :=
  decide (0x80 ≤ b.toNat) && decide (b.toNat < 0xC0)

/-- **Whether a text can be cut at an offset** into its bytes: at either end, or where a character
begins. -/
def isBoundary (bytes : List UInt8) (offset : Nat) : Bool :=
  offset == 0 || offset == bytes.length || bytes[offset]?.any fun b => !isContinuation b

/-- **The bytes of a text from one offset up to another.** -/
def textSlice (first last : Nat) (bytes : List UInt8) : Except Misfit (List UInt8) :=
  match slice first last bytes with
  | .error misfit => .error misfit
  | .ok part =>
    if isBoundary bytes first && isBoundary bytes last then .ok part else .error .insideCharacter

/-- The offset of the last byte of a kind. -/
def lastOffset? (mark : UInt8) : List UInt8 → Option Nat
  | [] => none
  | b :: bytes =>
    match lastOffset? mark bytes with
    | some offset => some (offset + 1)
    | none => if b = mark then some 0 else none

/-! ## Offsets -/

section Offsets

variable {mark : UInt8} {front back : List UInt8}

theorem lastOffset?_eq_none (h : mark ∉ back) : lastOffset? mark back = none := by
  induction back with
  | nil => rfl
  | cons b back ih =>
    obtain ⟨hb, hback⟩ := not_or.mp fun hmem => h (List.mem_cons.mpr hmem)
    rw [lastOffset?, ih hback]
    exact if_neg (Ne.symm hb)

/-- The last byte of a kind is found behind all that stands before it. -/
theorem lastOffset?_append (h : mark ∉ back) (front : List UInt8) :
    lastOffset? mark (front ++ mark :: back) = some front.length := by
  induction front with
  | nil =>
    rw [List.nil_append, lastOffset?, lastOffset?_eq_none h]
    exact if_pos rfl
  | cons b front ih => rw [List.cons_append, lastOffset?, ih, List.length_cons]

end Offsets

/-! ## Bytes of characters -/

namespace Utf8

/-- The first byte of a character goes on with none. -/
theorem exists_first_byte (c : Char) :
    ∃ b bytes, String.utf8EncodeChar c = b :: bytes ∧ isContinuation b = false := by
  have hnumbers := map_toNat_utf8EncodeChar c
  cases hbytes : String.utf8EncodeChar c with
  | nil => exact absurd hbytes String.utf8EncodeChar_ne_nil
  | cons b bytes =>
    refine ⟨b, bytes, rfl, ?_⟩
    rw [hbytes, List.map_cons] at hnumbers
    unfold isContinuation
    rw [Bool.and_eq_false_iff, decide_eq_false_iff_not, decide_eq_false_iff_not]
    rcases byteNumbers_cases c.toNat with ⟨hascii, hone⟩ | ⟨first, others, hmany, hfirst, -⟩
    · have hhead := (List.cons.inj (hnumbers.trans hone)).1
      omega
    · have hhead := (List.cons.inj (hnumbers.trans hmany)).1
      omega

/-- An ASCII byte is in the bytes of its own character only. -/
theorem toNat_eq_of_mem {c : Char} {b : UInt8} (ascii : b.toNat < 0x80)
    (h : b ∈ String.utf8EncodeChar c) : c.toNat = b.toNat := by
  have hmem : b.toNat ∈ byteNumbers c.toNat := by
    rw [← map_toNat_utf8EncodeChar]
    exact List.mem_map_of_mem h
  rcases byteNumbers_cases c.toNat with ⟨-, hone⟩ | ⟨first, others, hmany, hfirst, hothers⟩
  · rw [hone] at hmem
    exact (List.mem_singleton.mp hmem).symm
  · rw [hmany] at hmem
    rcases List.mem_cons.mp hmem with heq | hmem
    · omega
    · exact absurd (hothers _ hmem) (Nat.not_le_of_lt ascii)

/-- The bytes of an ASCII character are one. -/
theorem utf8EncodeChar_eq {c : Char} {b : UInt8} (ascii : b.toNat < 0x80) (h : c.toNat = b.toNat) :
    String.utf8EncodeChar c = [b] := by
  apply map_toNat_inj
  rw [map_toNat_utf8EncodeChar, h, byteNumbers, if_pos ascii]
  rfl

/-- **The byte of an ASCII character is where the character is.** -/
theorem mem_encode_iff {c : Char} {b : UInt8} (ascii : b.toNat < 0x80) (h : c.toNat = b.toNat)
    (text : List Char) : b ∈ encode text ↔ c ∈ text := by
  constructor
  · intro hmem
    obtain ⟨d, hd, hb⟩ := List.mem_flatMap.mp hmem
    have hdc : d = c := Char.toNat_inj.mp ((toNat_eq_of_mem ascii hb).trans h.symm)
    exact hdc ▸ hd
  · intro hmem
    refine List.mem_flatMap.mpr ⟨c, hmem, ?_⟩
    rw [utf8EncodeChar_eq ascii h]
    exact List.mem_singleton_self b

end Utf8

/-! ## Slices -/

open Utf8 (encode encode_append encode_cons)

/-- **A text can be cut between any of its characters.** -/
theorem isBoundary_encode (front back : List Char) :
    isBoundary (encode (front ++ back)) (encode front).length = true := by
  rw [isBoundary, encode_append, Bool.or_eq_true, Bool.or_eq_true, beq_iff_eq, beq_iff_eq]
  cases back with
  | nil =>
    refine .inl (.inr ?_)
    exact (congrArg List.length (List.append_nil (encode front))).symm
  | cons c back =>
    obtain ⟨b, bytes, hbytes, hfirst⟩ := Utf8.exists_first_byte c
    refine .inr ?_
    rw [encode_cons, hbytes, List.cons_append, List.getElem?_append_right (Nat.le_refl _),
      Nat.sub_self, List.getElem?_cons_zero, Option.any_some, hfirst]
    rfl

theorem slice_append {α : Type} (front middle back : List α) :
    slice front.length (front ++ middle).length (front ++ middle ++ back) = .ok middle := by
  unfold slice
  rw [if_pos (by simp only [List.length_append]; omega), List.take_left, List.drop_left]

/-- **What is between two cuts of a text** are the bytes of the characters between them. -/
theorem textSlice_encode (front middle back : List Char) :
    textSlice (encode front).length (encode (front ++ middle)).length
      (encode (front ++ middle ++ back)) = .ok (encode middle) := by
  have hfirst := isBoundary_encode front (middle ++ back)
  rw [← List.append_assoc] at hfirst
  have hslice : slice (encode front).length (encode (front ++ middle)).length
      (encode (front ++ middle ++ back)) = .ok (encode middle) := by
    rw [encode_append (front ++ middle), encode_append front]
    exact slice_append _ _ _
  rw [textSlice, hslice]
  show (if _ then _ else _) = _
  rw [hfirst, isBoundary_encode]
  rfl

end PresetBuild.Text
