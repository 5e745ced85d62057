import PresetBuild.Arguments.Argument

/-!
# The grammar of the command line

Arguments are read from left to right, and the reading ends at the first thing that cannot be or
that asks for something else than a build (`Stop`). Words may stand among the flags. Behind two
dashes alone everything is a word.

`--completions` takes the name of a shell, behind an `=` or as the next argument; no flag can be
that next argument. A single dash with letters behind it asks for help or for the version by its
first letter, and any other first letter is a mistake. A flag may be given once.

Words, and a shell that is the next argument, are not taken in as soon as they are read: they wait
(`Waiting`) until a flag comes, or another kind of word, or the end. A name that is no shell's is
therefore found wanting only there (`Reading.settled`). A letter that means nothing, and a value for
a flag that takes none, are mistakes before anything that waits is looked at.
-/

namespace PresetBuild

/-- **The shells that completions can be written for.** -/
inductive Shell where
  | bash
  | elvish
  | fish
  | powershell
  | zsh
  deriving DecidableEq, Repr

namespace Shell

/-- The name of a shell. -/
def name : Shell → String
  | .bash => "bash"
  | .elvish => "elvish"
  | .fish => "fish"
  | .powershell => "powershell"
  | .zsh => "zsh"

/-- The shells, in the order of their names. -/
def all : List Shell :=
  [.bash, .elvish, .fish, .powershell, .zsh]

/-- The shell of a name, spelled exactly. -/
def ofName? (name : String) : Option Shell :=
  all.find? fun s => s.name == name

end Shell

namespace Arguments

/-- **The mistakes in a command line.** -/
inductive UsageError where
  /-- A single dash with a letter that means nothing. -/
  | unexpectedLetter (letter : Char)
  /-- A flag given again. -/
  | repeated (flag : LongFlag)
  /-- A value for a flag that takes none, and whether anything was taken in before it. -/
  | unwantedValue (flag : LongFlag) (value : String) (given : Bool)
  /-- No shell named where one has to be. -/
  | missingShell
  | unknownShell (value : String)
  deriving DecidableEq, Repr

/-- **Why the reading of a command line ends** before its end. -/
inductive Stop where
  | help
  | version
  | mistake (error : UsageError)
  deriving DecidableEq, Repr

/-- **What a command line gives**: its words and switches in order, and a shell if one is named. -/
structure Given where
  words : List String := []
  switches : List Switch := []
  shell : Option Shell := none
  deriving DecidableEq, Repr

/-- **What has been read and not yet taken in.** -/
inductive Waiting where
  /-- Words, which more words may join. -/
  | words (words : List String)
  /-- The name of a shell, or the need of one. -/
  | shell (name : Option String)
  deriving DecidableEq, Repr

/-- **What the reading has come to.** -/
structure Reading where
  given : Given := {}
  waiting : Waiting := .words []
  /-- Whether all that follows is words. -/
  wordsOnly : Bool := false
  deriving DecidableEq, Repr

/-- **What a plain text looks like.** -/
inductive Look where
  /-- Two dashes alone. -/
  | separator
  /-- A dash, with this letter behind it. -/
  | letters (first : Char)
  | word
  deriving DecidableEq, Repr

/-- The look of a plain text. A single dash alone is a word, and so is the empty text. -/
def Look.of : List Char → Look
  | ['-', '-'] => .separator
  | '-' :: c :: _ => .letters c
  | _ => .word

/-- What is given, with more words. -/
def Given.addWords (g : Given) (words : List String) : Given :=
  { g with words := g.words ++ words }

/-- What is given, with one more switch. -/
def Given.addSwitch (s : Switch) (g : Given) : Except Stop Given :=
  if s ∈ g.switches then .error (.mistake (.repeated (.switch s)))
  else .ok { g with switches := g.switches ++ [s] }

/-- What is given, with a shell by name. -/
def Given.nameShell (name : String) (g : Given) : Except Stop Given :=
  if g.shell.isSome then .error (.mistake (.repeated .completions))
  else if name.isEmpty then .error (.mistake .missingShell)
  else match Shell.ofName? name with
    | some s => .ok { g with shell := some s }
    | none => .error (.mistake (.unknownShell name))

/-- What is given, with what waits taken in. -/
def Given.settle (g : Given) : Waiting → Except Stop Given
  | .words words => .ok (g.addWords words)
  | .shell none => .error (.mistake .missingShell)
  | .shell (some name) => g.nameShell name

namespace Reading

/-- **What is given once what waits is taken in.** -/
def settled (r : Reading) : Except Stop Given :=
  r.given.settle r.waiting

/-- A reading with what waits taken in, and something more given. -/
def giving (r : Reading) (more : Given → Except Stop Given) : Except Stop Reading :=
  match r.settled with
  | .error stop => .error stop
  | .ok g => (more g).map ({ given := · })

/-- Why a reading ends that is asked for something else, unless what waits is a mistake. -/
def asked (r : Reading) (stop : Stop) : Stop :=
  match r.settled with
  | .error earlier => earlier
  | .ok _ => stop

/-- A word, or the name of a shell where one is needed. -/
def word (r : Reading) (text : String) : Except Stop Reading :=
  match r.waiting with
  | .words words => .ok { r with waiting := .words (words ++ [text]) }
  | .shell none => .ok { r with waiting := .shell (some text) }
  | .shell (some _) => r.settled.map ({ r with given := ·, waiting := .words [text] })

/-- Two dashes alone, which name no shell. -/
def separator (r : Reading) : Except Stop Reading :=
  match r.waiting with
  | .shell none => .error (.mistake .missingShell)
  | _ => .ok { r with wordsOnly := true }

/-- A dash with a letter behind it. -/
def letter (r : Reading) (c : Char) : Stop :=
  if c = 'h' then r.asked .help
  else if c = 'V' then r.asked .version
  else .mistake (.unexpectedLetter c)

/-- A flag. -/
def flag (r : Reading) (f : LongFlag) (value : Option String) : Except Stop Reading :=
  match f, value with
  | .completions, none => r.settled.map ({ given := ·, waiting := .shell none })
  | .completions, some name => r.giving (Given.nameShell name)
  | .switch s, none => r.giving (Given.addSwitch s)
  | .help, none => .error (r.asked .help)
  | .version, none => .error (r.asked .version)
  | f, some value => .error (.mistake (.unwantedValue f value (decide (r.given ≠ {}))))

/-- **One argument.** -/
def read (r : Reading) (a : Argument) : Except Stop Reading :=
  if r.wordsOnly then r.word a.text
  else match a with
    | .flag f value => r.flag f value
    | .plain text =>
      match Look.of text.toList with
      | .separator => r.separator
      | .letters c => .error (r.letter c)
      | .word => r.word text

/-- The arguments read from where the reading has come to, up to their end. -/
def readFrom (r : Reading) : List Argument → Except Stop Given
  | [] => r.settled
  | a :: rest =>
    match r.read a with
    | .ok r' => r'.readFrom rest
    | .error stop => .error stop

end Reading

/-- **What arguments give**, or why the reading of them ends. -/
def parse (arguments : List Argument) : Except Stop Given :=
  ({} : Reading).readFrom arguments

end Arguments

end PresetBuild
