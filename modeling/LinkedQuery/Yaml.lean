import LinkedQuery.Text.Lines
import LinkedQuery.Text.Utf8
import LinkedQuery.Yaml.Content.Unfolding
import LinkedQuery.Yaml.Node.Grammar
import LinkedQuery.Yaml.Token.Lexer

/-!
Contract: YAML text read as data.

Owns:
- the whole way from a text with unified line ends, or from the bytes of a
  file, to a value.

Does not own: where files are.
-/

namespace LinkedQuery.Yaml

/-- The value of a text that holds at most one document; without one it is
null. -/
def read (chars : List Char) : Except Fault Value := do
  let stream ← TokenStream.ofText chars
  match ← RootedGraph.ofTokens? stream with
  | none => return .scalar .null
  | some rooted => contentOf rooted.graph rooted.root

/-- Why the bytes of a file denote no value. -/
inductive BytesFault
  | undecodable (fault : Text.Utf8Fault)
  | malformed
  | scalar (fault : ScalarFault)
deriving Repr, DecidableEq

/-- The value of the bytes of a file. -/
def readBytes (bytes : List UInt8) : Except BytesFault Value :=
  match Text.decodeUtf8 bytes with
  | .error fault => .error (.undecodable fault)
  | .ok chars =>
      (read (Text.unifyNewlines chars)).mapError fun
        | .malformed => .malformed
        | .scalar fault => .scalar fault

end LinkedQuery.Yaml
