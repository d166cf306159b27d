import LinkedQuery.Yaml.Fault

/-!
Contract: the tokens of YAML text.

Owns:
- the token type; block structure, which the text shows by indentation, is
  written out as tokens of its own;
- the tokens of a text that a faulty scalar cuts off.

Does not own: the text and the positions of tokens.
-/

namespace LinkedQuery.Yaml

/-- What a directive declares. -/
inductive Directive
  /-- The major number of the language version. -/
  | version (major : Nat)
  /-- A tag handle and what it stands for. -/
  | handle (name expansion : String)
  /-- A directive that has no meaning here. -/
  | reserved
deriving Repr, DecidableEq

/-- A tag as it is written: a handle, unless the tag is complete, and a
suffix. -/
structure WrittenTag where
  handle : Option String
  suffix : String
deriving Repr, DecidableEq

/-- A token. -/
inductive Token
  | directive (directive : Directive)
  | documentStart
  | documentEnd
  | blockSequenceStart
  | blockMappingStart
  | blockEnd
  | flowSequenceStart
  | flowSequenceEnd
  | flowMappingStart
  | flowMappingEnd
  | blockEntry
  | flowEntry
  | key
  | value
  | reference (name : String)
  | anchor (name : String)
  | tag (tag : WrittenTag)
  | scalar (text : Text) (isPlain : Bool)
deriving Repr, DecidableEq

/-- The tokens of a text in order, and the fault that stands behind them if they
are not all. -/
structure TokenStream where
  tokens : List Token
  fault : Option ScalarFault
deriving Repr

end LinkedQuery.Yaml
