/-!
# UTF-16 code units

A character beyond the basic plane is a high half followed by a low half; any other character is one
unit, which is no half.
-/

namespace CiFront.Text.Utf16

/-- The units that open a surrogate pair. -/
def isHigh (unit : Nat) : Bool :=
  0xD800 ≤ unit && unit ≤ 0xDBFF

/-- The units that close a surrogate pair. -/
def isLow (unit : Nat) : Bool :=
  0xDC00 ≤ unit && unit ≤ 0xDFFF

/-- The character with the code point `n`; halves and numbers beyond the last plane are none. -/
def char? (n : Nat) : Option Char :=
  if n.isValidChar then some (Char.ofNat n) else none

/-- The character that a high half and a low half stand for, each by its last ten bits. -/
def pair? (high low : Nat) : Option Char :=
  char? (0x10000 + high % 0x400 * 0x400 + low % 0x400)

end CiFront.Text.Utf16
