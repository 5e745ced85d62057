/-!
# Strings as they are written in JSON

A string in a JSON text is a row of pieces: a character, written as itself or by a short escape, or
a four-digit escape, which names a unit of UTF-16. Two such units may stand for one character
together, and a surrogate that is not half of such a pair stands for none (`characters?`). Whether
that matters depends on who asks: a string whose value is never looked at may hold lone surrogates.
-/

namespace PresetBuild.Json

/-- **A piece of a written string.** -/
inductive Piece where
  | char (c : Char)
  /-- A unit of UTF-16, by a four-digit escape. -/
  | unit (u : UInt16)
  deriving DecidableEq, Repr

/-- A string as it is written. -/
abbrev Written := List Piece

/-- Whether a unit is the first half of a surrogate pair. -/
def isLeading (u : UInt16) : Bool :=
  decide (0xD800 ≤ u.toNat) && decide (u.toNat < 0xDC00)

/-- Whether a unit is the second half of a surrogate pair. -/
def isTrailing (u : UInt16) : Bool :=
  decide (0xDC00 ≤ u.toNat) && decide (u.toNat < 0xE000)

/-- The character of a surrogate pair. -/
def paired (leading trailing : UInt16) : Char :=
  Char.ofNat (0x10000 + (leading.toNat - 0xD800) * 0x400 + (trailing.toNat - 0xDC00))

/-- **The characters that a written string stands for**; none where a surrogate stands alone. -/
def characters? : Written → Option (List Char)
  | [] => some []
  | .char c :: rest => (characters? rest).map (c :: ·)
  | .unit u :: .unit v :: rest =>
    if isLeading u then
      if isTrailing v then (characters? rest).map (paired u v :: ·) else none
    else if isTrailing u then none
    else (characters? (.unit v :: rest)).map (Char.ofNat u.toNat :: ·)
  | .unit u :: rest =>
    if isLeading u || isTrailing u then none
    else (characters? rest).map (Char.ofNat u.toNat :: ·)

end PresetBuild.Json
