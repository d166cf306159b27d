import LinkedQuery.Text

/-!
Contract: how long an integer may be as text.

Owns:
- the limit on decimal digits;
- the fault of an integer that is longer, when it is read and when it is
  written.

Does not own: the text of numbers.
-/

namespace LinkedQuery

/-- The most decimal digits with which an integer is read or written. -/
def maxDigits : Nat := 4300

/-- Whether an integer has too many digits to be written. -/
def isOverlong (value : Int) : Bool :=
  decide (Nat.pow 10 maxDigits ≤ value.natAbs)

theorem isOverlong_natCast_iff {value : Nat} :
    isOverlong value = true ↔ Nat.pow 10 maxDigits ≤ value := by
  rw [isOverlong, decide_eq_true_iff, Int.natAbs_natCast]

/-- An integer that is too long: the number of its digits is known when it is
read. -/
structure OverlongInteger where
  digits : Option Nat
deriving Repr, DecidableEq

namespace OverlongInteger

/-- The fault of writing an integer that is too long. -/
def written : OverlongInteger :=
  ⟨none⟩

/-- The fault of reading an integer of so many digits. -/
def read (digits : Nat) : OverlongInteger :=
  ⟨some digits⟩

/-- The wording of a fault. -/
def message (fault : OverlongInteger) : Text :=
  "Exceeds the limit (4300 digits) for integer string conversion" ++
    (match fault.digits with
      | some digits => ": value has " ++ toString digits ++ " digits"
      | none => "") ++
    "; use sys.set_int_max_str_digits() to increase the limit"

end OverlongInteger

end LinkedQuery
