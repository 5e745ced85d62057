/-!
# Coloured text

A terminal colours what stands between an opening sequence and the reset. Text from outside may
hold a reset of its own, after which it would fall back to the terminal's plain colour, so painting
opens the colour again after every reset inside (`reopen`). Empty text is painted too: it becomes an
opening and a reset.

Without colour, painting leaves text as it is.
-/

namespace PresetBuild.Text

/-- **The colours in use.** -/
inductive Ink where
  | red
  | green
  | yellow
  | cyan
  /-- Yellow, in bold. -/
  | boldYellow
  deriving DecidableEq, Repr

/-- The number that stands for a colour in an opening sequence. -/
def Ink.code : Ink → String
  | .red => "31"
  | .green => "32"
  | .yellow => "33"
  | .cyan => "36"
  | .boldYellow => "1;33"

/-- What switches a colour on. -/
def Ink.opening (ink : Ink) : List Char :=
  '\x1b' :: '[' :: ink.code.toList ++ ['m']

/-- What switches every colour off. -/
def reset : List Char :=
  ['\x1b', '[', '0', 'm']

/-- **A text with a colour opened again** after each reset inside it. -/
def Ink.reopen (ink : Ink) : List Char → List Char
  | '\x1b' :: '[' :: '0' :: 'm' :: rest => reset ++ ink.opening ++ ink.reopen rest
  | c :: rest => c :: ink.reopen rest
  | [] => []

/-- **A text painted**, where colour is wanted. -/
def Ink.paint (ink : Ink) (color : Bool) (text : List Char) : List Char :=
  if color then ink.opening ++ ink.reopen text ++ reset else text

end PresetBuild.Text
