import LinkedQuery.Yaml.Layout
import LinkedQuery.Yaml.Lexeme.Block
import LinkedQuery.Yaml.Lexeme.Name
import LinkedQuery.Yaml.Lexeme.Plain

/-!
Contract: YAML text cut into tokens.

Owns:
- what may stand between tokens;
- which token starts with which character, and what each does to the layout;
- the tokens of a whole text, or those that are settled when a faulty scalar
  ends the search.

Does not own: which sequences of tokens make sense.
-/

namespace LinkedQuery.Yaml.Layout

/-- Skip the rest of the line, a comment and further lines; a new line outside
flow collections may start a key.  Each step ends a line, and the first argument
bounds the steps. -/
def skipLines : Nat → Layout → Layout
  | 0, layout => layout
  | steps + 1, layout =>
      let afterSpaces := layout.cursor.rest.dropWhile (· == ' ')
      let afterComment :=
        if afterSpaces.head? = some '#' then
          afterSpaces.dropWhile fun char => !isBreak char
        else
          afterSpaces
      match afterComment with
      | [] => { layout with cursor := layout.cursor.moveTo [] }
      | char :: rest =>
          if isBreak char then
            skipLines steps
              { layout with
                cursor := layout.cursor.moveTo rest
                mayStartKey := layout.mayStartKey || !layout.inFlow }
          else
            { layout with cursor := layout.cursor.moveTo (char :: rest) }

/-- Skip what stands before the next token; a byte order mark may start the
text. -/
def skipToToken (layout : Layout) : Layout :=
  let layout :=
    if layout.cursor.index = 0 && layout.cursor.rest.head? = some '\ufeff' then
      { layout with cursor := layout.cursor.next }
    else
      layout
  skipLines (layout.cursor.rest.length + 1) layout

/-- Whether a plain scalar may start here. -/
def startsPlain (layout : Layout) : List Char → Bool
  | [] => false
  | char :: rest =>
      let isIndicator := "-?:,[]\x7b\x7d#&*!|>'\"%@\x60".toList.contains char
      (!atBlank (char :: rest) && !isIndicator) ||
        (!atBlank rest && (char == '-' || (!layout.inFlow && (char == '?' || char == ':'))))

/-- A marker between documents, or a directive: nothing stays open. -/
def endDocument (layout : Layout) : Except Fault Layout := do
  let layout ← (layout.unwind (-1)).giveUpCandidate
  return { layout with mayStartKey := false }

/-- The start of a flow collection. -/
def startFlow (token : Token) (rest : List Char) (layout : Layout) :
    Except Fault Layout := do
  let layout ← layout.noteCandidate
  return { layout.emitUpTo token rest with
    flowLevel := layout.flowLevel + 1, mayStartKey := true }

/-- The end of a flow collection, of which one has to be open. -/
def endFlow (token : Token) (rest : List Char) (layout : Layout) :
    Except Fault Layout := do
  if !layout.inFlow then
    throw .malformed
  let layout ← layout.giveUpCandidate
  return { layout.emitUpTo token rest with
    flowLevel := layout.flowLevel - 1, mayStartKey := false }

/-- A comma between the entries of a flow collection. -/
def separateFlow (rest : List Char) (layout : Layout) : Except Fault Layout := do
  let layout ← layout.giveUpCandidate
  return { layout.emitUpTo .flowEntry rest with mayStartKey := true }

/-- A dash in front of the entry of a block sequence, or a question mark in
front of the key of a mapping. -/
def startEntry
    (opening token : Token)
    (mayStartKey : Bool)
    (rest : List Char)
    (layout : Layout) :
    Except Fault Layout := do
  if !layout.inFlow && !layout.mayStartKey then
    throw .malformed
  let layout := if layout.inFlow then layout else layout.openBlock opening
  let layout ← layout.giveUpCandidate
  return { layout.emitUpTo token rest with mayStartKey := mayStartKey }

/-- A colon in front of a value: a candidate at this depth is a key, otherwise a
key stands on its own. -/
def startValue (rest : List Char) (layout : Layout) : Except Fault Layout :=
  match layout.candidate? with
  | some candidate =>
      let layout := layout.forgetCandidate
      let opened := if layout.inFlow then none else layout.indentTo candidate.column
      let layout :=
        { opened.getD layout with
          keys := ⟨candidate.position, opened.isSome⟩ :: layout.keys, mayStartKey := false }
      .ok (layout.emitUpTo .value rest)
  | none => startEntry .blockMappingStart .value (!layout.inFlow) rest layout

/-- A token that may be a key or belong to one, up to a remainder. -/
def keyLike (token : Token) (rest : List Char) (layout : Layout) : Except Fault Layout := do
  let layout ← layout.noteCandidate
  return { layout.emitUpTo token rest with mayStartKey := false }

/-- A quoted scalar, which may be a key. -/
def addQuoted (quote : Char) (rest : List Char) (layout : Layout) : Except Fault Layout := do
  let layout ← layout.noteCandidate
  let (text, rest) ← quotedScalar quote rest
  return { layout.emitUpTo (.scalar text false) rest with mayStartKey := false }

/-- A block scalar, after which a key may start. -/
def addBlockScalar (isFolded : Bool) (rest : List Char) (layout : Layout) :
    Except Fault Layout := do
  let layout ← layout.giveUpCandidate
  let (text, rest) ← blockScalar isFolded layout.indent rest
  return { layout.emitUpTo (.scalar text false) rest with mayStartKey := true }

/-- A plain scalar; a key may start after it when its line has ended. -/
def addPlain (layout : Layout) : Except Fault Layout := do
  let layout ← layout.noteCandidate
  let plain := plainScalar layout.inFlow (layout.indent + 1) layout.cursor.rest
  return { layout.emitUpTo (.scalar (.ofChars plain.text) true) plain.rest with
    mayStartKey := plain.endsLine }

/-- The next token, given its first character and the text after it. -/
def addToken (layout : Layout) (char : Char) (rest : List Char) : Except Fault Layout := do
  let atLineStart := layout.cursor.column == 0
  let mayIndicate := layout.inFlow || atBlank rest
  if char = '%' && atLineStart then
    let layout ← layout.endDocument
    let (directive, rest) ← directiveLine rest
    return layout.emitUpTo (.directive directive) rest
  else if atLineStart && atMarker (char :: rest) then
    let layout ← layout.endDocument
    return layout.emitUpTo (if char = '-' then .documentStart else .documentEnd) (rest.drop 2)
  else if char = '[' then
    layout.startFlow .flowSequenceStart rest
  else if char = '\x7b' then
    layout.startFlow .flowMappingStart rest
  else if char = ']' then
    layout.endFlow .flowSequenceEnd rest
  else if char = '\x7d' then
    layout.endFlow .flowMappingEnd rest
  else if char = ',' then
    layout.separateFlow rest
  else if char = '-' && atBlank rest then
    layout.startEntry .blockSequenceStart .blockEntry true rest
  else if char = '?' && mayIndicate then
    layout.startEntry .blockMappingStart .key (!layout.inFlow) rest
  else if char = ':' && mayIndicate then
    layout.startValue rest
  else if char = '*' then
    let (name, rest) ← anchorName rest
    layout.keyLike (.reference name) rest
  else if char = '&' then
    let (name, rest) ← anchorName rest
    layout.keyLike (.anchor name) rest
  else if char = '!' then
    let (tag, rest) ← writtenTag rest
    layout.keyLike (.tag tag) rest
  else if (char = '|' || char = '>') && !layout.inFlow then
    layout.addBlockScalar (char == '>') rest
  else if char = '\x27' || char = '"' then
    layout.addQuoted char rest
  else if layout.startsPlain (char :: rest) then
    layout.addPlain
  else
    throw .malformed

/-- The layout after one more token; at the end of the text there is none. -/
def step (layout : Layout) : Except Fault (Layout × Bool) := do
  let layout ← layout.skipToToken.dropStale
  let layout := layout.unwind layout.cursor.column
  match layout.cursor.rest with
  | [] => return (← layout.endDocument, true)
  | char :: rest => return (← layout.addToken char rest, false)

/-- The tokens of the text, those found so far included.  Each step takes a
token, which is never empty, and the first argument bounds the steps. -/
def run : Nat → Layout → Except Fault TokenStream
  | 0, layout => .ok ⟨layout.tokens, none⟩
  | steps + 1, layout => do
      let layout ← layout.dropStale
      match layout.step with
      | .error .malformed => throw .malformed
      | .error (.scalar fault) => return ⟨layout.settledTokens, some fault⟩
      | .ok (layout, true) => return ⟨layout.tokens, none⟩
      | .ok (layout, false) => layout.run steps

end LinkedQuery.Yaml.Layout

namespace LinkedQuery.Yaml.TokenStream

/-- The tokens of a text. -/
def ofText (chars : List Char) : Except Fault TokenStream :=
  if chars.all isAdmitted then
    Layout.run (chars.length + 1) (.ofText chars)
  else
    .error .malformed

end LinkedQuery.Yaml.TokenStream
