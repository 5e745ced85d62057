/-!
# Blank characters

`isBlank` decides the property White_Space of the Unicode character database: five control
characters (tab to carriage return), the space, and nineteen characters beyond ASCII. It is wider
than core's `Char.isWhitespace`, which knows four characters.
-/

namespace PresetBuild.Text

/-- **Whether a character is white space**, in the sense of the Unicode property. -/
def isBlank (c : Char) : Bool :=
  let n := c.toNat
  decide (9 ≤ n ∧ n ≤ 13) || n == 0x20 || n == 0x85 || n == 0xA0 || n == 0x1680
    || decide (0x2000 ≤ n ∧ n ≤ 0x200A) || n == 0x2028 || n == 0x2029 || n == 0x202F || n == 0x205F
    || n == 0x3000

end PresetBuild.Text
