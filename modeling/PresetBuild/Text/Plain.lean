/-!
# Text without control sequences

A text from outside may hold sequences that a terminal obeys instead of showing. `plain` keeps of a
text what a terminal would show: no sequence, no control character but those that space text out.

A sequence begins at an escape character and its second character says how it goes on: to one final
character, to the end of a string, or to a bell. A substitute or cancel character ends any sequence,
another escape begins a new one, and what the text leaves unfinished is not shown.

A spacing character inside a sequence that is no string is shown all the same, and so is all that
follows it up to the next character that is never shown. There the sequence goes on where it was,
unless a character beyond ASCII came between, which ends it.
-/

namespace PresetBuild.Text

/-- **How far a control sequence has come.** -/
inductive Sequence where
  /-- There is none. -/
  | absent
  /-- The escape character has come. -/
  | escape
  /-- An escape that one more character ends. -/
  | escapeIntermediate
  /-- A control sequence, which a final character ends. -/
  | control
  /-- The head of a device control string. -/
  | deviceEntry
  /-- Parameters in the head of a device control string. -/
  | deviceParameter
  /-- Intermediate characters in the head of a device control string. -/
  | deviceIntermediate
  /-- A string, which the string terminator ends. -/
  | string
  /-- A command to the system, which a bell ends. -/
  | command
  deriving DecidableEq, Repr

/-- Whether a character lies between two others, these included. -/
def between (first last c : Char) : Bool :=
  decide (first.toNat ≤ c.toNat) && decide (c.toNat ≤ last.toNat)

/-- A character that asks for another. -/
def isIntermediate (c : Char) : Bool := between ' ' '/' c

/-- A character of a parameter. -/
def isParameter (c : Char) : Bool := between '0' '?' c

/-- A character of a parameter that is well placed only at the head. -/
def isPrivateMark (c : Char) : Bool := between '<' '?' c

/-- A character that ends a control sequence. -/
def isFinal (c : Char) : Bool := between '@' '~' c

/-- Whether a character spaces text out: a blank, a tab, a line or page break, or a return. -/
def isSpacing (c : Char) : Bool :=
  c = ' ' || c = '\t' || c = '\n' || c = '\x0c' || c = '\r'

/-- Whether a character is shown where there is no sequence. -/
def isShown (c : Char) : Bool :=
  isSpacing c || decide (' '.toNat < c.toNat) && c != '\x7f'

/-- Whether a character has the string terminator among its bytes. -/
def endsString (c : Char) : Bool :=
  (String.utf8EncodeChar c).contains 0x9C

namespace Sequence

/-- What the second character of a sequence makes of it. -/
def second (c : Char) : Sequence :=
  if c = '[' then .control
  else if c = ']' then .command
  else if c = 'P' then .deviceEntry
  else if c = 'X' ∨ c = '^' ∨ c = '_' then .string
  else if isIntermediate c then .escapeIntermediate
  else if isParameter c || isFinal c then .absent
  else .escape

/-- **How far a sequence has come after one more character** that is not shown. -/
def next (s : Sequence) (c : Char) : Sequence :=
  if c = '\x18' ∨ c = '\x1a' then .absent
  else if c = '\x1b' then .escape
  else match s with
    | .absent => .absent
    | .escape => second c
    | .escapeIntermediate => if isParameter c || isFinal c then .absent else s
    | .control => if isFinal c then .absent else s
    | .deviceEntry =>
      if isIntermediate c then .deviceIntermediate
      else if isParameter c then .deviceParameter
      else if isFinal c then .string
      else s
    | .deviceParameter =>
      if isIntermediate c then .deviceIntermediate
      else if isPrivateMark c || isFinal c then .string
      else s
    | .deviceIntermediate => if isParameter c || isFinal c then .string else s
    | .string => if endsString c then .absent else s
    | .command => if c = '\x07' then .absent else s

/-- Whether a character is shown although a sequence has come this far. -/
def shows : Sequence → Char → Bool
  | .absent, c => isShown c
  | .escape, c | .escapeIntermediate, c | .control, c => isSpacing c && c != ' '
  | _, _ => false

/-- The sequence that is left behind a character that is shown. -/
def behind (s : Sequence) (c : Char) : Sequence :=
  if c.toNat < 0x80 then s else .absent

end Sequence

/-- Whether a character is shown where a sequence has come so far and the character before was
shown or was not. -/
def revealed (s : Sequence) (showing : Bool) (c : Char) : Bool :=
  if showing then isShown c else s.shows c

/-- What is shown of a text, where a sequence has come so far and the character before was shown or
was not. -/
def shownFrom (s : Sequence) (showing : Bool) : List Char → List Char
  | [] => []
  | c :: rest =>
    if revealed s showing c then c :: shownFrom (s.behind c) true rest
    else shownFrom (s.next c) false rest

/-- **A text without control sequences.** -/
def plain (text : List Char) : List Char :=
  shownFrom .absent true text

end PresetBuild.Text
