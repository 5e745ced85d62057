/-!
# Binary64 arithmetic, read exactly

A sum, product or quotient of binary64 numbers is the exact rational result rounded once, to 53
significant bits, to the nearest and to the even one of two equally near. `nearest` is that rounding
on rationals, so a computation in binary64 is written as the exact computation with `nearest` around
every step.

Exponents are unbounded here. What this library computes is zero or lies between `2 ^ (-30)` and
`2 ^ 75`, far inside the range of the format, so that overflow, gradual underflow, infinities and
the sign of zero have no part in it.
-/

namespace PresetBuild.Binary64

/-- **The nearest integer**, the even one of two equally near. -/
def roundEven (q : Rat) : Int :=
  let below := q.floor
  let rest := q - below
  if 2 * rest < 1 then below
  else if 1 < 2 * rest then below + 1
  else if below % 2 = 0 then below
  else below + 1

/-- **The binary exponent** of a positive rational: the greatest `e` with `2 ^ e ≤ q`. The lengths
of numerator and denominator leave two candidates. -/
def exponent (q : Rat) : Int :=
  let e : Int := (q.num.natAbs.log2 : Int) - (q.den.log2 : Int)
  if (2 : Rat) ^ e ≤ q then e else e - 1

/-- The step of the grid of 53-bit numbers around a positive rational. -/
def step (q : Rat) : Rat :=
  (2 : Rat) ^ (exponent q - 52)

/-- **The nearest number of 53 significant bits** to a rational that is not negative. -/
def nearest (q : Rat) : Rat :=
  if q ≤ 0 then 0 else roundEven (q / step q) * step q

end PresetBuild.Binary64
