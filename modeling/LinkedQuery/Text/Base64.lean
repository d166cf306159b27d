/-!
Contract: bytes written with sixty-four characters.

Owns:
- the decoder, which passes over characters outside the alphabet and stops at
  complete padding.

Does not own: line lengths and other alphabets.
-/

namespace LinkedQuery.Text

/-- The six bits of a character. -/
def sextet? (char : Char) : Option Nat :=
  if 'A' ≤ char && char ≤ 'Z' then
    some (char.toNat - 'A'.toNat)
  else if 'a' ≤ char && char ≤ 'z' then
    some (char.toNat - 'a'.toNat + 26)
  else if '0' ≤ char && char ≤ '9' then
    some (char.toNat - '0'.toNat + 52)
  else if char = '+' then
    some 62
  else if char = '/' then
    some 63
  else
    none

/-- Decode what follows, given the number of characters of the open group, the
bits they leave over, and the number of paddings just before; an open group at
the end is a fault. -/
def decodeGroups (place left pads : Nat) : List Char → Option (List UInt8)
  | [] => if place = 0 then some [] else none
  | char :: rest =>
      if char = '=' then
        if 2 ≤ place then
          if 4 ≤ place + pads + 1 then some [] else decodeGroups place left (pads + 1) rest
        else
          decodeGroups place left pads rest
      else
        match sextet? char with
        | none => decodeGroups place left pads rest
        | some bits =>
            match place with
            | 0 => decodeGroups 1 bits 0 rest
            | 1 =>
                (decodeGroups 2 (bits % 16) 0 rest).map
                  (UInt8.ofNat (left * 4 + bits / 16) :: ·)
            | 2 =>
                (decodeGroups 3 (bits % 4) 0 rest).map
                  (UInt8.ofNat (left * 16 + bits / 4) :: ·)
            | _ =>
                (decodeGroups 0 0 0 rest).map
                  (UInt8.ofNat (left * 64 + bits) :: ·)

/-- The bytes that a text denotes. -/
def decodeBase64? (chars : List Char) : Option (List UInt8) :=
  decodeGroups 0 0 0 chars

end LinkedQuery.Text
