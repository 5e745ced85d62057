import PresetBuild.Binary64

/-!
# Elapsed time

A span of time is a whole number of nanoseconds. It is printed in milliseconds with two decimals,
from a binary64 computation whose four roundings are part of the format (`Elapsed.milliseconds`):
the seconds, the fraction of a second, their sum, and the product with a thousand. The two decimals
are then taken from that exact binary value, a half going to the even neighbour.

A span is measured by reading a clock that never runs backwards, once before and once after.
-/

namespace PresetBuild

open Binary64 (nearest roundEven)

/-- **A span of time.** -/
structure Elapsed where
  nanoseconds : Nat
  deriving DecidableEq, Repr

namespace Elapsed

/-- The span of so many seconds and nanoseconds. -/
def ofSeconds (seconds nanoseconds : Nat) : Elapsed :=
  ⟨seconds * 1000000000 + nanoseconds⟩

/-- The whole seconds of a span. -/
def seconds (e : Elapsed) : Nat :=
  e.nanoseconds / 1000000000

/-- The nanoseconds of a span beyond its whole seconds. -/
def subsecond (e : Elapsed) : Nat :=
  e.nanoseconds % 1000000000

/-- **The milliseconds of a span**, in binary64. -/
def milliseconds (e : Elapsed) : Rat :=
  nearest (nearest (nearest (e.seconds : Rat) + nearest ((e.subsecond : Rat) / 1000000000)) * 1000)

/-- The milliseconds of a span in hundredths, as they are printed. -/
def hundredths (e : Elapsed) : Nat :=
  (roundEven (e.milliseconds * 100)).toNat

/-- Two digits of a number below a hundred. -/
def twoDigits (n : Nat) : String :=
  if n < 10 then "0" ++ toString n else toString n

/-- **The text of a span**: milliseconds, a point, two decimals and the unit. -/
def text (e : Elapsed) : String :=
  toString (e.hundredths / 100) ++ "." ++ twoDigits (e.hundredths % 100) ++ "ms"

/-- The span from one reading of a clock to another; none if the second is the smaller. -/
def between (before after : Nat) : Elapsed :=
  ⟨after - before⟩

end Elapsed

/-- **An action timed**: it is done once, between two readings of the clock. -/
def timed {m : Type → Type} [Monad m] {α : Type} (clock : m Nat) (act : m α) : m (α × Elapsed) := do
  let before ← clock
  let answer ← act
  let after ← clock
  return (answer, .between before after)

end PresetBuild
