import PresetBuild.Text.CaseTable

/-!
# The lower case of a text

Every character has a lower case of its own (`lowerOf`), which is one character for all but `İ`.
Only the capital sigma looks around: at the end of a word it becomes `ς` and elsewhere `σ`, and a
word's end is read off the nearest characters that have a case, past those that are case-ignorable.

The characters before the one at hand are carried along in reverse, so that both neighbours are at
the head of a list.
-/

namespace PresetBuild.Text

/-- Whether one of the spans holds a character. -/
def within (spans : List Span) (c : Char) : Bool :=
  spans.any (·.holds c.toNat)

/-- Whether a character has a case. -/
def isCased (c : Char) : Bool :=
  within casedSpans c

/-- Whether the search for a letter passes over a character. -/
def isCaseIgnorable (c : Char) : Bool :=
  within caseIgnorableSpans c

/-- **The lower case of one character**, whatever stands around it. -/
def lowerOf (c : Char) : List Char :=
  if c = 'İ' then ['i', '\u0307']
  else match lowerRuns.find? (·.maps c.toNat) with
    | some r => [Char.ofNat (r.target c.toNat)]
    | none => [c]

/-- Whether the first character that is not case-ignorable has a case. -/
def meetsLetter (cs : List Char) : Bool :=
  match cs.dropWhile isCaseIgnorable with
  | [] => false
  | c :: _ => isCased c

/-- **The lower case of a capital sigma** between the characters before it, in reverse, and the
characters after it: the final form where a word ends. -/
def lowerSigma (before after : List Char) : Char :=
  if meetsLetter before && !meetsLetter after then 'ς' else 'σ'

/-- The lower case of a text whose characters `before`, in reverse, have gone by. -/
def lowerAfter (before : List Char) : List Char → List Char
  | [] => []
  | c :: after =>
    (if c = 'Σ' then [lowerSigma before after] else lowerOf c) ++ lowerAfter (c :: before) after

/-- **The lower case of a text.** -/
def lowercase (text : List Char) : List Char :=
  lowerAfter [] text

end PresetBuild.Text
