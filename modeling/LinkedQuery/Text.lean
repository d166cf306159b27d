/-!
Contract: text as a sequence of code points.

Owns:
- code points: characters, and the halves of surrogate pairs, which escapes can
  write one at a time;
- text, its literals and its concatenation;
- the measures of text: code points, and bytes of UTF-8.

Does not own: encodings and classes of characters.
-/

namespace LinkedQuery

/-- A code point: a character, or a half of a surrogate pair by its place among
the halves. -/
inductive CodePoint
  | char (value : Char)
  | surrogate (place : Fin 2048)
deriving Repr, DecidableEq, Inhabited

instance : Coe Char CodePoint :=
  ⟨.char⟩

namespace CodePoint

/-- The number of a code point. -/
def toNat : CodePoint → Nat
  | .char value => value.toNat
  | .surrogate place => 0xD800 + place.val

/-- The code point with a number below `0x110000`. -/
def ofNat (code : Nat) : CodePoint :=
  if isHalf : 0xD800 ≤ code ∧ code < 0xE000 then
    .surrogate ⟨code - 0xD800, by omega⟩
  else
    .char (Char.ofNat code)

/-- The character that a code point is. -/
def char? : CodePoint → Option Char
  | .char value => some value
  | .surrogate _ => none

/-- Whether a code point is half of a surrogate pair. -/
def isSurrogate : CodePoint → Bool
  | .char _ => false
  | .surrogate _ => true

/-- Whether a code point is one of the ten decimal digits. -/
def isDigit (code : CodePoint) : Bool :=
  '0'.toNat ≤ code.toNat && code.toNat ≤ '9'.toNat

end CodePoint

/-- A text. -/
structure Text where
  ofList ::
  toList : List CodePoint
deriving Repr, DecidableEq, Inhabited

namespace Text

/-- The text of some characters. -/
def ofChars (chars : List Char) : Text :=
  ⟨chars.map CodePoint.char⟩

/-- The text of a string. -/
def ofString (string : String) : Text :=
  ofChars string.toList

end Text

instance : Coe String Text :=
  ⟨Text.ofString⟩

instance : Append Text :=
  ⟨fun left right => ⟨left.toList ++ right.toList⟩⟩

namespace Text

/-- Whether a text has no code point. -/
def isEmpty (text : Text) : Bool :=
  text.toList.isEmpty

/-- The number of code points. -/
def length (text : Text) : Nat :=
  text.toList.length

/-- The characters of code points, if all of them are characters. -/
def charsOf? : List CodePoint → Option (List Char)
  | [] => some []
  | .char value :: rest => (charsOf? rest).map (value :: ·)
  | .surrogate _ :: _ => none

/-- The string that a text is, if all its code points are characters. -/
def toString? (text : Text) : Option String :=
  (charsOf? text.toList).map String.ofList

/-- The number of bytes that a code point takes in UTF-8. -/
def utf8Width (code : CodePoint) : Nat :=
  if code.toNat < 0x80 then
    1
  else if code.toNat < 0x800 then
    2
  else if code.toNat < 0x10000 then
    3
  else
    4

/-- The number of bytes that a text takes in UTF-8. -/
def utf8Length (text : Text) : Nat :=
  text.toList.foldl (fun length code => length + utf8Width code) 0

/-- Put one text between each two of a list. -/
def joinWith (separator : Text) : List Text → Text
  | [] => ⟨[]⟩
  | [text] => text
  | text :: rest => text ++ separator ++ joinWith separator rest

end Text

end LinkedQuery
