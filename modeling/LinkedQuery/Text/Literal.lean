import LinkedQuery.Text.Blank
import LinkedQuery.Text.Printable

/-!
Contract: how a message shows a text, a list of texts or some bytes as a
quoted literal.

Owns:
- the choice of the quote and the escapes inside it;
- the same form for byte strings and for lists of literals.

Does not own: the messages that hold such literals.
-/

namespace LinkedQuery.Text

/-- Hexadecimal digits of a number, filled with zeros up to a width. -/
def hexDigits (width value : Nat) : List Char :=
  let digits := Nat.toDigits 16 value
  List.replicate (width - digits.length) '0' ++ digits

/-- The escape of a character by its code point, in the shortest form that
fits. -/
def escapeCode (code : Nat) : List Char :=
  if code < 0x100 then
    '\\' :: 'x' :: hexDigits 2 code
  else if code < 0x10000 then
    '\\' :: 'u' :: hexDigits 4 code
  else
    '\\' :: 'U' :: hexDigits 8 code

/-- One code point inside a literal with the given quote. -/
def literalCode (quote : Char) (code : CodePoint) : List CodePoint :=
  if code = quote || code = '\\' then
    ['\\', code]
  else if code = '\n' then
    ['\\', 'n']
  else if code = '\r' then
    ['\\', 'r']
  else if code = '\t' then
    ['\\', 't']
  else if isPrintable code then
    [code]
  else
    (escapeCode code.toNat).map CodePoint.char

/-- A single quote, unless the text holds one and no double quote. -/
def literalQuote (codes : List CodePoint) : Char :=
  if codes.contains '\'' && !codes.contains '"' then '"' else '\''

/-- A text as a quoted literal. -/
def literal (text : Text) : Text :=
  let quote := literalQuote text.toList
  .ofList (.char quote :: text.toList.flatMap (literalCode quote) ++ [.char quote])

/-- A list of texts as literals in square brackets. -/
def literalList (texts : List Text) : Text :=
  "[" ++ joinWith ", " (texts.map literal) ++ "]"

/-- One byte inside a byte literal with the given quote: everything outside
visible ASCII is escaped. -/
private def literalByte (quote : Char) (byte : UInt8) : List Char :=
  let char := Char.ofNat byte.toNat
  if char = quote || char = '\\' then
    ['\\', char]
  else if char = '\n' then
    ['\\', 'n']
  else if char = '\r' then
    ['\\', 'r']
  else if char = '\t' then
    ['\\', 't']
  else if 0x20 ≤ byte.toNat && byte.toNat < 0x7F then
    [char]
  else
    escapeCode byte.toNat

/-- Bytes as a literal marked with the letter b. -/
def bytesLiteral (bytes : List UInt8) : Text :=
  let quote := literalQuote (bytes.map fun byte => .char (Char.ofNat byte.toNat))
  .ofChars ('b' :: quote :: bytes.flatMap (literalByte quote) ++ [quote])

end LinkedQuery.Text
