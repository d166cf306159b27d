import LinkedQuery.Text.Base64
import LinkedQuery.Yaml.Node
import LinkedQuery.Yaml.Numeral
import LinkedQuery.Yaml.Timestamp

/-!
Contract: what YAML scalars mean.

Owns:
- the tag of an unmarked scalar, which its form decides;
- the value of a scalar under a tag.

Does not own: collections.
-/

namespace LinkedQuery.Yaml

/-- The words for truth values, in the three spellings that count. -/
def truthWords : List Text :=
  ["yes", "Yes", "YES", "no", "No", "NO", "true", "True", "TRUE", "false", "False", "FALSE",
   "on", "On", "ON", "off", "Off", "OFF"]

/-- The tag that the form of a text shows. -/
def formTag (codes : List CodePoint) : Tag :=
  if spells truthWords codes then
    .truth
  else if isDecimal codes then
    .decimal
  else if isInteger codes then
    .integer
  else if spells ["<<"] codes then
    .merge
  else if spells ["", "~", "null", "Null", "NULL"] codes then
    .null
  else if isTimestamp codes then
    .timestamp
  else if spells ["="] codes then
    .default
  else if spells ["!", "&", "*"] codes then
    .unknown
  else
    .text

/-- The tag of an unmarked scalar; a line break at its end does not count. -/
def Tag.ofPlain (text : Text) : Tag :=
  let codes := text.toList
  if 1 < codes.length && codes.getLast? = some (.char '\n') then
    formTag codes.dropLast
  else
    formTag codes

/-- The truth value of a word in any case. -/
def truthOf (text : Text) : Except ScalarFault Bool :=
  let word := Text.lower text
  if spells ["yes", "true", "on"] word.toList then
    .ok true
  else if spells ["no", "false", "off"] word.toList then
    .ok false
  else
    .error (.notTruth word)

/-- The bytes that a text in base sixty-four denotes. -/
def binaryOf (text : Text) : Except Fault (List UInt8) :=
  match Text.charsOf? text.toList with
  | none => .error .malformed
  | some chars =>
      if chars.all fun char => char.toNat < 128 then
        match Text.decodeBase64? chars with
        | some bytes => .ok bytes
        | none => .error .malformed
      else
        .error .malformed

/-- The label of a NaN: one for all that share a value, and another one for each
place. -/
def nanLabel (place : Nat) (text : Text) : Nat :=
  if isSharedNan text then 0 else place + 1

/-- The value of a scalar under a tag, given the number of its place in the
document. -/
def scalarOf (place : Nat) (tag : Tag) (text : Text) : Except Fault Scalar :=
  match tag with
  | .null => .ok .null
  | .truth => ((truthOf text).map Scalar.bool).mapError .scalar
  | .integer => ((integerOf text).map Scalar.int).mapError .scalar
  | .decimal =>
      ((decimalOfText text).map (Scalar.ofDouble (nanLabel place text))).mapError .scalar
  | .text => .ok (.text text)
  | .timestamp =>
      match taggedTimestamp? text.toList with
      | some written => written.scalar.mapError fun fault => .scalar (.calendar fault)
      | none => .error (.scalar .notTimestamp)
  | .binary => (binaryOf text).map Scalar.bytes
  | _ => .error .malformed

end LinkedQuery.Yaml
