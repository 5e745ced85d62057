import PresetBuild.Fault.SystemText

/-!
# Faults

A fault is why a program could not be started or its output not be read. The system reports one by
number, and its wording is the system's own with the number behind it. A fault found before the
system is asked has a kind, and either a text of its own or the plain wording of the kind.
-/

namespace PresetBuild

/-- **The kinds of fault.** -/
inductive FaultKind where
  | notFound
  | permissionDenied
  | alreadyExists
  | wouldBlock
  | invalidInput
  | invalidData
  | timedOut
  | interrupted
  | unsupported
  | unexpectedEnd
  | brokenPipe
  | outOfMemory
  | notDirectory
  | invalidFilename
  | argumentsTooLong
  | other
  deriving DecidableEq, Repr

/-- The plain wording of a kind. -/
def FaultKind.message : FaultKind → String
  | .notFound => "entity not found"
  | .permissionDenied => "permission denied"
  | .alreadyExists => "entity already exists"
  | .wouldBlock => "operation would block"
  | .invalidInput => "invalid input parameter"
  | .invalidData => "invalid data"
  | .timedOut => "timed out"
  | .interrupted => "operation interrupted"
  | .unsupported => "unsupported"
  | .unexpectedEnd => "unexpected end of file"
  | .brokenPipe => "broken pipe"
  | .outOfMemory => "out of memory"
  | .notDirectory => "not a directory"
  | .invalidFilename => "invalid filename"
  | .argumentsTooLong => "argument list too long"
  | .other => "other error"

/-- **A fault.** -/
inductive Fault where
  /-- Reported by the system, by number. -/
  | system (number : Nat)
  /-- Of a kind, with nothing more to say. -/
  | plain (kind : FaultKind)
  /-- Of a kind, with a text of its own. -/
  | described (kind : FaultKind) (text : String)
  deriving DecidableEq, Repr

namespace Fault

/-- The kind behind an error number. -/
def kindOfNumber : Nat → FaultKind
  | 1 | 13 => .permissionDenied
  | 2 => .notFound
  | 4 => .interrupted
  | 7 => .argumentsTooLong
  | 11 => .wouldBlock
  | 12 => .outOfMemory
  | 17 => .alreadyExists
  | 20 => .notDirectory
  | 22 => .invalidInput
  | 32 => .brokenPipe
  | 36 => .invalidFilename
  | 38 | 95 => .unsupported
  | 110 => .timedOut
  | _ => .other

/-- The kind of a fault. -/
def kind : Fault → FaultKind
  | .system number => kindOfNumber number
  | .plain kind => kind
  | .described kind _ => kind

/-- **The wording of a fault.** -/
def message : Fault → String
  | .system number => systemText number ++ " (os error " ++ toString number ++ ")"
  | .plain kind => kind.message
  | .described _ text => text

/-- The system knows no such file. -/
def noSuchFile : Fault := .system 2

/-- The system does not take so long an argument. -/
def argumentTooLong : Fault := .system 7

/-- The system does not let the file be run. -/
def notPermitted : Fault := .system 13

/-- The system finds a file where a directory is needed. -/
def notDirectory : Fault := .system 20

/-- The system does not take so long a name. -/
def nameTooLong : Fault := .system 36

end Fault

end PresetBuild
