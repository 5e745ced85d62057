/-!
# UTF-8, strictly

`encode` writes characters as bytes and `decode` reads them back, refusing overlong forms,
surrogates and code points above U+10FFFF. The reader runs a machine one byte at a time: between
characters, or inside one with so many bytes still owed, of which only the first has bounds of its
own (`Pending`).

A refusal (`Malformed`) says how many bytes before the fault are whole characters, and how long the
faulty sequence is. It has no length where the bytes end inside a character: those bytes are only
incomplete, since more of them could have made it whole.
-/

namespace PresetBuild.Text.Utf8

/-- **A character that has begun**: the bytes of it taken, the bytes still owed, the least and the
greatest byte that may come next, and the bits gathered. -/
structure Pending where
  taken : Nat
  owed : Nat
  low : Nat
  high : Nat
  bits : Nat

/-- **Why bytes are no text.** -/
structure Malformed where
  /-- How many bytes before the fault are whole characters. -/
  valid : Nat
  /-- How many bytes the faulty sequence has, or none where the bytes end inside a character. -/
  length : Option Nat
  deriving DecidableEq, Repr

/-- The wording of a refusal. -/
def Malformed.message (m : Malformed) : String :=
  match m.length with
  | some n => "invalid utf-8 sequence of " ++ toString n ++ " bytes from index " ++ toString m.valid
  | none => "incomplete utf-8 byte sequence from index " ++ toString m.valid

/-- What the first byte of a longer character announces. -/
def lead (b : Nat) : Option Pending :=
  if b < 0xC2 then none
  else if b < 0xE0 then some ⟨1, 1, 0x80, 0xBF, b - 0xC0⟩
  else if b = 0xE0 then some ⟨1, 2, 0xA0, 0xBF, 0⟩
  else if b = 0xED then some ⟨1, 2, 0x80, 0x9F, 0xD⟩
  else if b < 0xF0 then some ⟨1, 2, 0x80, 0xBF, b - 0xE0⟩
  else if b = 0xF0 then some ⟨1, 3, 0x90, 0xBF, 0⟩
  else if b < 0xF4 then some ⟨1, 3, 0x80, 0xBF, b - 0xF0⟩
  else if b = 0xF4 then some ⟨1, 3, 0x80, 0x8F, 4⟩
  else none

/-- The bits of a character once its next byte is in. -/
def Pending.gather (p : Pending) (b : Nat) : Nat :=
  p.bits * 64 + (b - 0x80)

/-- A begun character once its next byte, not the last, is in. -/
def Pending.advance (p : Pending) (b : Nat) : Pending :=
  ⟨p.taken + 1, p.owed - 1, 0x80, 0xBF, p.gather b⟩

/-- **The reader**, with `valid` bytes of whole characters behind it and perhaps a character begun.
-/
def decodeFrom (valid : Nat) : Option Pending → List UInt8 → Except Malformed (List Char)
  | none, [] => .ok []
  | some _, [] => .error ⟨valid, none⟩
  | none, b :: bs =>
    if b.toNat < 0x80 then (decodeFrom (valid + 1) none bs).map (Char.ofNat b.toNat :: ·)
    else match lead b.toNat with
      | none => .error ⟨valid, some 1⟩
      | some p => decodeFrom valid (some p) bs
  | some p, b :: bs =>
    if p.low ≤ b.toNat ∧ b.toNat ≤ p.high then
      if p.owed ≤ 1 then
        (decodeFrom (valid + p.taken + 1) none bs).map (Char.ofNat (p.gather b.toNat) :: ·)
      else decodeFrom valid (some (p.advance b.toNat)) bs
    else .error ⟨valid, some p.taken⟩

/-- **The text that bytes encode**, or why they encode none. -/
def decode (bytes : List UInt8) : Except Malformed (List Char) :=
  decodeFrom 0 none bytes

/-- **The bytes of a text.** -/
def encode (text : List Char) : List UInt8 :=
  text.flatMap String.utf8EncodeChar

end PresetBuild.Text.Utf8
