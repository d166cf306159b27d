import LinkedQuery.Text

/-!
Contract: the digits that write numbers.

Owns:
- the value of a hexadecimal digit and of a run of decimal digits;
- the zero of each script's block of ten decimal digits, and the value of a
  digit of any script.

Does not own: the forms of numbers.
-/

namespace LinkedQuery.Text

/-- The value of a hexadecimal digit. -/
def hexValue? (code : CodePoint) : Option Nat :=
  if code.isDigit then
    some (code.toNat - '0'.toNat)
  else if 'a'.toNat ≤ code.toNat && code.toNat ≤ 'f'.toNat then
    some (code.toNat - 'a'.toNat + 10)
  else if 'A'.toNat ≤ code.toNat && code.toNat ≤ 'F'.toNat then
    some (code.toNat - 'A'.toNat + 10)
  else
    none

/-- The number that a run of decimal digits writes. -/
def digitsValue (digits : List CodePoint) : Nat :=
  digits.foldl (fun value digit => value * 10 + (digit.toNat - '0'.toNat)) 0

/-- The code points of the digit zero in each script, in increasing order. -/
def digitZeros : List Nat :=
  [0x30, 0x660, 0x6F0, 0x7C0, 0x966, 0x9E6, 0xA66, 0xAE6, 0xB66, 0xBE6,
   0xC66, 0xCE6, 0xD66, 0xDE6, 0xE50, 0xED0, 0xF20, 0x1040, 0x1090, 0x17E0,
   0x1810, 0x1946, 0x19D0, 0x1A80, 0x1A90, 0x1B50, 0x1BB0, 0x1C40, 0x1C50, 0xA620,
   0xA8D0, 0xA900, 0xA9D0, 0xA9F0, 0xAA50, 0xABF0, 0xFF10, 0x104A0, 0x10D30, 0x11066,
   0x110F0, 0x11136, 0x111D0, 0x112F0, 0x11450, 0x114D0, 0x11650, 0x116C0, 0x11730, 0x118E0,
   0x11950, 0x11C50, 0x11D50, 0x11DA0, 0x16A60, 0x16AC0, 0x16B50, 0x1D7CE, 0x1D7D8, 0x1D7E2,
   0x1D7EC, 0x1D7F6, 0x1E140, 0x1E2F0, 0x1E950, 0x1FBF0]

/-- The value of a decimal digit of any script. -/
def digitValue? (code : CodePoint) : Option Nat :=
  digitZeros.findSome? fun base =>
    if base ≤ code.toNat && code.toNat < base + 10 then
      some (code.toNat - base)
    else
      none

end LinkedQuery.Text
