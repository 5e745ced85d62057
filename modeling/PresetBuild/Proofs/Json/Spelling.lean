import Mathlib.Data.List.Forall2
import PresetBuild.Json.Value

/-!
# How JSON is written

A grammar of JSON texts, apart from any scanner or reader. It says how a number, a string and every
other token are spelled, that a text is the tokens of a value with spaces between them (`JsonText`),
and which characters a written string stands for (`Denotes`).

The grammar is loose where JSON is: a value has a text for every choice of spaces, of digits for its
numbers, and of escapes for its strings. It is strict in everything else, and it holds of ignored
values as of all others.
-/

namespace PresetBuild.Json

/-- **Spaces**: characters that may stand between tokens, in any number. -/
def Spaces (text : List Char) : Prop :=
  ∀ c ∈ text, c = ' ' ∨ c = '\t' ∨ c = '\n' ∨ c = '\r'

/-! ## Numbers -/

/-- One digit or more. -/
def DigitsText (text : List Char) : Prop :=
  text ≠ [] ∧ ∀ c ∈ text, c.isDigit = true

/-- The sign of a number, or nothing. -/
def SignText (text : List Char) : Prop :=
  text = [] ∨ text = ['-']

/-- The whole part of a number: a zero, or digits that do not begin with one. -/
def WholeText (text : List Char) : Prop :=
  text = ['0'] ∨ DigitsText text ∧ text.head? ≠ some '0'

/-- The decimals of a number, behind a point, or nothing. -/
def FractionText (text : List Char) : Prop :=
  text = [] ∨ ∃ digits, DigitsText digits ∧ text = '.' :: digits

/-- The sign of an exponent, or nothing. -/
def ExponentSignText (text : List Char) : Prop :=
  text = [] ∨ text = ['+'] ∨ text = ['-']

/-- The exponent of a number, behind its mark, or nothing. -/
def ExponentText (text : List Char) : Prop :=
  text = [] ∨ ∃ mark sign digits, (mark = 'e' ∨ mark = 'E') ∧ ExponentSignText sign ∧
    DigitsText digits ∧ text = mark :: sign ++ digits

/-- **How a number is spelled**, of whatever size. -/
def NumberText (text : List Char) : Prop :=
  ∃ sign whole fraction exponent, SignText sign ∧ WholeText whole ∧ FractionText fraction ∧
    ExponentText exponent ∧ text = sign ++ whole ++ fraction ++ exponent

/-! ## Strings -/

/-- The letters of the short escapes, with the characters they stand for. -/
def shortEscapes : List (Char × Char) :=
  [('"', '"'), ('\\', '\\'), ('/', '/'), ('b', '\x08'), ('f', '\x0c'), ('n', '\n'), ('r', '\r'),
    ('t', '\t')]

/-- The hexadecimal digit of a value, in either case. -/
def HexDigit (value : Nat) (c : Char) : Prop :=
  "0123456789abcdef".toList[value]? = some c ∨ "0123456789ABCDEF".toList[value]? = some c

/-- The value of digits by theirs, in base sixteen, where digits of some value went before. -/
def hexValue (before : Nat) (digits : List Nat) : Nat :=
  digits.foldl (fun value digit => value * 16 + digit) before

/-- **How a piece of a string is spelled.** -/
inductive PieceText : Piece → List Char → Prop
  /-- As itself, unless it is a quotation mark, a backslash or a control character. -/
  | raw {c : Char} (quote : c ≠ '"') (backslash : c ≠ '\\') (control : 0x20 ≤ c.toNat) :
      PieceText (.char c) [c]
  | short {letter c : Char} (escape : (letter, c) ∈ shortEscapes) :
      PieceText (.char c) ['\\', letter]
  /-- By the four digits of a unit. -/
  | unit {values : List Nat} {digits : List Char} (four : digits.length = 4)
      (spelled : List.Forall₂ HexDigit values digits) :
      PieceText (.unit (UInt16.ofNat (hexValue 0 values))) ('\\' :: 'u' :: digits)

/-- **How a string is spelled**, between its quotation marks. -/
inductive WrittenText : Written → List Char → Prop
  | nil : WrittenText [] []
  | cons {p : Piece} {w : Written} {x y : List Char} (piece : PieceText p x)
      (rest : WrittenText w y) : WrittenText (p :: w) (x ++ y)

/-- **The units of UTF-16 of a character**: one, or a surrogate pair beyond U+FFFF. -/
def utf16 (c : Char) : List UInt16 :=
  if c.toNat < 0x10000 then [UInt16.ofNat c.toNat]
  else [UInt16.ofNat (0xD800 + (c.toNat - 0x10000) / 0x400),
    UInt16.ofNat (0xDC00 + (c.toNat - 0x10000) % 0x400)]

/-- **The text that a written string stands for.** Each of its characters is written as a character
or in its units. -/
inductive Denotes : Written → List Char → Prop
  | nil : Denotes [] []
  | char {c : Char} {w : Written} {text : List Char} (rest : Denotes w text) :
      Denotes (.char c :: w) (c :: text)
  | units {c : Char} {w : Written} {text : List Char} (rest : Denotes w text) :
      Denotes ((utf16 c).map Piece.unit ++ w) (c :: text)

/-! ## Texts -/

/-- **How a token is spelled.** -/
inductive TokenText : Token → List Char → Prop
  | openArray : TokenText .openArray ['[']
  | closeArray : TokenText .closeArray [']']
  | openObject : TokenText .openObject ['\x7b']
  | closeObject : TokenText .closeObject ['\x7d']
  | colon : TokenText .colon [':']
  | comma : TokenText .comma [',']
  | null : TokenText .null ['n', 'u', 'l', 'l']
  | true : TokenText (.bool true) ['t', 'r', 'u', 'e']
  | false : TokenText (.bool false) ['f', 'a', 'l', 's', 'e']
  | number {x : List Char} (spelled : NumberText x) : TokenText .number x
  | string {w : Written} {x : List Char} (spelled : WrittenText w x) :
      TokenText (.string w) ('"' :: x ++ ['"'])

/-- **How tokens are spelled one after another**, with spaces before, between and behind them. -/
inductive Spelled : List Token → List Char → Prop
  | nil {gap : List Char} (spaces : Spaces gap) : Spelled [] gap
  | cons {t : Token} {ts : List Token} {gap x y : List Char} (spaces : Spaces gap)
      (token : TokenText t x) (rest : Spelled ts y) : Spelled (t :: ts) (gap ++ x ++ y)

/-- **A JSON text of a value**: its tokens, spelled in any way. -/
def JsonText (v : Value) (text : List Char) : Prop :=
  Spelled v.tokens text

/-! ## Laws of the grammar -/

theorem spaces_nil : Spaces [] := nofun

theorem Spaces.cons {c : Char} {gap : List Char}
    (hc : c = ' ' ∨ c = '\t' ∨ c = '\n' ∨ c = '\r') (h : Spaces gap) : Spaces (c :: gap) :=
  List.forall_mem_cons.mpr ⟨hc, h⟩

/-- Another space may stand before any text. -/
theorem Spelled.space {ts : List Token} {c : Char} {text : List Char}
    (hc : c = ' ' ∨ c = '\t' ∨ c = '\n' ∨ c = '\r') (h : Spelled ts text) :
    Spelled ts (c :: text) := by
  cases h with
  | nil spaces => exact .nil (spaces.cons hc)
  | cons spaces token rest => exact .cons (spaces.cons hc) token rest

/-- A token may stand before any text with no space between them. -/
theorem Spelled.token {t : Token} {ts : List Token} {x text : List Char} (token : TokenText t x)
    (rest : Spelled ts text) : Spelled (t :: ts) (x ++ text) :=
  .cons spaces_nil token rest

theorem WrittenText.concat {w : Written} {p : Piece} {x y : List Char} (h : WrittenText w x)
    (piece : PieceText p y) : WrittenText (w ++ [p]) (x ++ y) := by
  induction h with
  | nil =>
    have hlast := WrittenText.cons piece .nil
    rw [List.append_nil] at hlast
    exact hlast
  | cons first _ ih =>
    rw [List.append_assoc]
    exact .cons first ih

end PresetBuild.Json
