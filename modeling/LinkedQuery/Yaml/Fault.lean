import LinkedQuery.Number.Limit
import LinkedQuery.Text.Literal
import LinkedQuery.Value.Calendar

/-!
Contract: what can be wrong with a YAML text.

Owns:
- malformed text as one fault, whatever broke its form;
- the faults of single scalars whose form promises a value that they do not
  have, and their wording.

Does not own: the name of the file that holds the text.
-/

namespace LinkedQuery.Yaml

/-- A scalar that does not have the value its form or its tag promises. -/
inductive ScalarFault
  /-- An escape beyond the last code point. -/
  | noCharacter
  /-- An escape beyond all numbers of characters. -/
  | characterTooLarge
  /-- A number without a digit to start with. -/
  | emptyNumeral
  | notInteger (base : Nat) (text : Text)
  | overlong (fault : OverlongInteger)
  | notDecimal (text : Text)
  /-- A place of base sixty beyond all floating-point numbers. -/
  | decimalTooLarge
  | notTruth (text : Text)
  | calendar (fault : CalendarFault)
  /-- A text that has not the form of a timestamp. -/
  | notTimestamp
  /-- A timestamp that is no text. -/
  | timestampOfMapping
  /-- A default value that leads back to itself. -/
  | endless
deriving Repr, DecidableEq

/-- The wording of a fault; a long literal is cut at two hundred characters. -/
def ScalarFault.message : ScalarFault → Text
  | .noCharacter => "chr() arg not in range(0x110000)"
  | .characterTooLarge => "Python int too large to convert to C int"
  | .emptyNumeral => "string index out of range"
  | .notInteger base text =>
      "invalid literal for int() with base " ++ toString base ++ ": " ++
        .ofList ((Text.literal text).toList.take 200)
  | .overlong fault => fault.message
  | .notDecimal text => "could not convert string to float: " ++ Text.literal text
  | .decimalTooLarge => "int too large to convert to float"
  | .notTruth text => Text.literal text
  | .calendar fault => fault.message
  | .notTimestamp => "'NoneType' object has no attribute 'groupdict'"
  | .timestampOfMapping => "expected string or bytes-like object, got 'list'"
  | .endless => "maximum recursion depth exceeded"

/-- Why a text denotes no value. -/
inductive Fault
  | malformed
  | scalar (fault : ScalarFault)
deriving Repr, DecidableEq

end LinkedQuery.Yaml
