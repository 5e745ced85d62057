import PresetBuild.Json.Written

/-!
# The tokens of a JSON text

A JSON text is cut into tokens by a scanner that takes one character at a time. Between tokens it
passes over the four characters that JSON allows there; inside a word, a number or a string it
remembers how far it has come (`Scanner`). Only a number ends at the first character that is no
longer its own, and that character is then scanned as if after the number.

The scanner checks how each token is written and nothing about their order, which is
`PresetBuild.Json.Value`'s matter. It refuses a character that can stand nowhere, a word other than
`null`, `true` and `false`, a number written otherwise than the grammar has it, and in strings a raw
control character or an unknown escape. The size of a number is never looked at, so a number leaves
nothing but the fact that it was there.
-/

namespace PresetBuild.Json

/-- **The tokens of JSON.** -/
inductive Token where
  | openArray
  | closeArray
  | openObject
  | closeObject
  | colon
  | comma
  | null
  | bool (b : Bool)
  | number
  | string (written : Written)
  deriving DecidableEq, Repr

/-- The characters that may stand between tokens. -/
def isSpace (c : Char) : Bool :=
  c == ' ' || c == '\t' || c == '\n' || c == '\r'

/-! ## Numbers -/

/-- **How far a number has come.** -/
inductive Digits where
  /-- After the minus sign. -/
  | minus
  /-- After a leading zero. -/
  | zero
  /-- Inside the whole part. -/
  | whole
  /-- After the point. -/
  | point
  /-- Inside the decimals. -/
  | decimals
  /-- After the exponent mark. -/
  | mark
  /-- After the sign of the exponent. -/
  | sign
  /-- Inside the exponent. -/
  | exponent
  deriving DecidableEq, Repr

/-- Whether a character marks an exponent. -/
def isMark (c : Char) : Bool :=
  c == 'e' || c == 'E'

/-- Where a number stands after one more character of it, if that character can be one. -/
def Digits.next? (d : Digits) (c : Char) : Option Digits :=
  match d with
  | .minus => if c = '0' then some .zero else if c.isDigit then some .whole else none
  | .zero => if c = '.' then some .point else if isMark c then some .mark else none
  | .whole =>
    if c.isDigit then some .whole
    else if c = '.' then some .point
    else if isMark c then some .mark
    else none
  | .point => if c.isDigit then some .decimals else none
  | .decimals => if c.isDigit then some .decimals else if isMark c then some .mark else none
  | .mark =>
    if c.isDigit then some .exponent
    else if c = '+' then some .sign
    else if c = '-' then some .sign
    else none
  | .sign => if c.isDigit then some .exponent else none
  | .exponent => if c.isDigit then some .exponent else none

/-- Whether a number may end where it stands. -/
def Digits.complete : Digits → Bool
  | .zero | .whole | .decimals | .exponent => true
  | .minus | .point | .mark | .sign => false

/-- Where a number stands that begins with a character, if a number can. -/
def Digits.start? (c : Char) : Option Digits :=
  if c = '-' then some .minus else Digits.next? .minus c

/-! ## Strings -/

/-- The value of a hexadecimal digit. -/
def hexDigit? (c : Char) : Option Nat :=
  if '0' ≤ c ∧ c ≤ '9' then some (c.toNat - '0'.toNat)
  else if 'a' ≤ c ∧ c ≤ 'f' then some (c.toNat - 'a'.toNat + 10)
  else if 'A' ≤ c ∧ c ≤ 'F' then some (c.toNat - 'A'.toNat + 10)
  else none

/-- The character that a short escape stands for. -/
def shortEscape? (c : Char) : Option Char :=
  match c with
  | '"' => some '"'
  | '\\' => some '\\'
  | '/' => some '/'
  | 'b' => some '\x08'
  | 'f' => some '\x0c'
  | 'n' => some '\n'
  | 'r' => some '\r'
  | 't' => some '\t'
  | _ => none

/-! ## The scanner -/

/-- **Where the scanner stands.** The pieces of a string are kept in reverse. -/
inductive Scanner where
  /-- Between tokens. -/
  | gap
  /-- Inside a word, with the characters of it that are still to come. -/
  | word (next : Char) (rest : List Char) (token : Token)
  | number (digits : Digits)
  | string (read : Written)
  /-- After a backslash. -/
  | escape (read : Written)
  /-- Inside a four-digit escape, with the digits still to come and the value so far. -/
  | hex (read : Written) (more : Nat) (value : Nat)
  deriving DecidableEq, Repr

namespace Scanner

/-- One character between tokens. -/
def begin? (c : Char) : Option (List Token × Scanner) :=
  if isSpace c then some ([], .gap)
  else match c with
    | '[' => some ([.openArray], .gap)
    | ']' => some ([.closeArray], .gap)
    | '\x7b' => some ([.openObject], .gap)
    | '\x7d' => some ([.closeObject], .gap)
    | ':' => some ([.colon], .gap)
    | ',' => some ([.comma], .gap)
    | '"' => some ([], .string [])
    | 'n' => some ([], .word 'u' ['l', 'l'] .null)
    | 't' => some ([], .word 'r' ['u', 'e'] (.bool true))
    | 'f' => some ([], .word 'a' ['l', 's', 'e'] (.bool false))
    | _ => (Digits.start? c).map fun d => ([], .number d)

/-- **One character**: the tokens it completes, and where the scanner then stands. -/
def step? : Scanner → Char → Option (List Token × Scanner)
  | .gap, c => begin? c
  | .word next rest token, c =>
    if c = next then
      match rest with
      | [] => some ([token], .gap)
      | after :: rest => some ([], .word after rest token)
    else none
  | .number d, c =>
    match d.next? c with
    | some d' => some ([], .number d')
    | none =>
      if d.complete then (begin? c).map fun r => (.number :: r.1, r.2)
      else none
  | .string read, c =>
    if c = '"' then some ([.string read.reverse], .gap)
    else if c = '\\' then some ([], .escape read)
    else if c.toNat < 0x20 then none
    else some ([], .string (.char c :: read))
  | .escape read, c =>
    if c = 'u' then some ([], .hex read 3 0)
    else (shortEscape? c).map fun e => ([], .string (.char e :: read))
  | .hex read more value, c =>
    match hexDigit? c with
    | none => none
    | some n =>
      let value := value * 16 + n
      match more with
      | 0 => some ([], .string (.unit (UInt16.ofNat value) :: read))
      | more + 1 => some ([], .hex read more value)

/-- The tokens that the end of the text completes. -/
def finish? : Scanner → Option (List Token)
  | .gap => some []
  | .number d => if d.complete then some [.number] else none
  | _ => none

/-- The scanner's run over a text, with the tokens found so far in reverse. -/
def run? : Scanner → List Token → List Char → Option (List Token)
  | s, found, [] => (finish? s).map fun last => found.reverse ++ last
  | s, found, c :: rest =>
    match step? s c with
    | none => none
    | some (tokens, s') => run? s' (tokens.reverse ++ found) rest

end Scanner

/-- **The tokens of a text**, if it is written as tokens are. -/
def tokens? (text : List Char) : Option (List Token) :=
  Scanner.run? .gap [] text

end PresetBuild.Json
