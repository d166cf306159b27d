import LinkedQuery.Text.Digit
import LinkedQuery.Text.Utf8
import LinkedQuery.Yaml.Character
import LinkedQuery.Yaml.Fault
import LinkedQuery.Yaml.Token

/-!
Contract: the names in YAML text: anchors, tags and directives.

Owns:
- the names of anchors and what may follow them;
- tags: complete ones, those with a handle, and escapes of bytes in them;
- the lines of directives.

Does not own: what a tag handle stands for.
-/

namespace LinkedQuery.Yaml

/-- Whether the name of an anchor may end here. -/
def endsAnchor : List Char → Bool
  | [] => true
  | char :: rest =>
      atBlank (char :: rest) || "?:,]\x7d%@\x60".toList.contains char

/-- The name of an anchor and the text after it. -/
def anchorName (chars : List Char) : Except Fault (String × List Char) :=
  let name := chars.takeWhile isNameChar
  let rest := chars.dropWhile isNameChar
  if name.isEmpty || !endsAnchor rest then
    .error .malformed
  else
    .ok (String.ofList name, rest)

/-- Whether a character may stand in a tag. -/
def isTagChar (char : Char) : Bool :=
  isNameChar char || ";/?:@&=+$,.!~*'()[]%".toList.contains char

/-- The bytes of a run of escapes and the text after it. -/
def escapedBytes : List Char → Except Fault (List UInt8 × List Char)
  | '%' :: high :: low :: rest =>
      match Text.hexValue? high, Text.hexValue? low with
      | some upper, some lower => do
          let (bytes, rest) ← escapedBytes rest
          return (UInt8.ofNat (upper * 16 + lower) :: bytes, rest)
      | _, _ => .error .malformed
  | '%' :: _ => .error .malformed
  | chars => .ok ([], chars)

/-- The characters of a tag, escaped bytes read as UTF-8, and the text after
them.  Each step takes a character, and the first argument bounds the steps. -/
def tagChars : Nat → List Char → Except Fault (List Char × List Char)
  | 0, chars => .ok ([], chars)
  | _ + 1, [] => .ok ([], [])
  | steps + 1, char :: rest =>
      if char = '%' then do
        let (bytes, rest) ← escapedBytes (char :: rest)
        match Text.decodeUtf8 bytes with
        | .error _ => throw .malformed
        | .ok text =>
            let (more, rest) ← tagChars steps rest
            return (text ++ more, rest)
      else if isTagChar char then do
        let (more, rest) ← tagChars steps rest
        return (char :: more, rest)
      else
        .ok ([], char :: rest)

/-- The text of a tag, which is not empty, and the text after it. -/
def tagText (chars : List Char) : Except Fault (String × List Char) := do
  if !chars.head?.any isTagChar then
    throw .malformed
  let (text, rest) ← tagChars (chars.length + 1) chars
  return (String.ofList text, rest)

/-- A tag handle, from the character after its first exclamation mark on, and
the text after it. -/
def tagHandle (chars : List Char) : Except Fault (String × List Char) :=
  let name := chars.takeWhile isNameChar
  match chars.dropWhile isNameChar with
  | '!' :: rest => .ok (String.ofList ('!' :: name ++ ['!']), rest)
  | _ => .error .malformed

/-- The tag from the character after its first exclamation mark on, without a
look at what follows it. -/
def openTag (chars : List Char) : Except Fault (WrittenTag × List Char) :=
  match chars with
  | '<' :: rest => do
      let (text, rest) ← tagText rest
      match rest with
      | '>' :: rest => return (⟨none, text⟩, rest)
      | _ => throw .malformed
  | _ => do
      if atBlank chars then
        return (⟨none, "!"⟩, chars)
      let hasHandle := (chars.takeWhile fun char => !atGap [char]).contains '!'
      let (handle, rest) ← if hasHandle then tagHandle chars else pure ("!", chars)
      let (suffix, rest) ← tagText rest
      return (⟨some handle, suffix⟩, rest)

/-- A tag and the text after it, which starts with a gap. -/
def writtenTag (chars : List Char) : Except Fault (WrittenTag × List Char) := do
  let (tag, rest) ← openTag chars
  if atGap rest then
    return (tag, rest)
  else
    throw .malformed

/-- A number of base ten and the text after it. -/
def decimalNumber (chars : List Char) : Except Fault (Nat × List Char) :=
  let digits := chars.takeWhile Char.isDigit
  if digits.isEmpty then
    .error .malformed
  else if maxDigits < digits.length then
    .error (.scalar (.overlong (.read digits.length)))
  else
    .ok (Text.digitsValue (digits.map CodePoint.char), chars.dropWhile Char.isDigit)

/-- The version of a directive and the text after it. -/
def directiveVersion (chars : List Char) : Except Fault (Directive × List Char) := do
  let (major, rest) ← decimalNumber chars
  match rest with
  | '.' :: rest => do
      let (_, rest) ← decimalNumber rest
      if atGap rest then
        return (.version major, rest)
      else
        throw .malformed
  | _ => throw .malformed

/-- The tag handle of a directive, what it stands for, and the text after
them. -/
def directiveHandle (chars : List Char) : Except Fault (Directive × List Char) := do
  let (handle, rest) ←
    match chars with
    | '!' :: ' ' :: rest => pure ("!", ' ' :: rest)
    | '!' :: rest => tagHandle rest
    | _ => throw .malformed
  if rest.head? ≠ some ' ' then
    throw .malformed
  let (expansion, rest) ← tagText (rest.dropWhile (· == ' '))
  if atGap rest then
    return (.handle handle expansion, rest)
  else
    throw .malformed

/-- A directive, from the character after its percent sign on, and the text
after its line. -/
def directiveLine (chars : List Char) : Except Fault (Directive × List Char) := do
  let name := chars.takeWhile isNameChar
  let rest := chars.dropWhile isNameChar
  if name.isEmpty || !atGap rest then
    throw .malformed
  let argument := rest.dropWhile (· == ' ')
  let (directive, rest) ←
    if name = "YAML".toList then
      directiveVersion argument
    else if name = "TAG".toList then
      directiveHandle argument
    else
      pure (.reserved, rest.dropWhile fun char => !isBreak char)
  match restOfLine? rest with
  | some rest => return (directive, rest)
  | none => throw .malformed

end LinkedQuery.Yaml
