import LinkedQuery.KeyPath
import LinkedQuery.Link.Declaration

/-!
Contract: what can be wrong with settings.

Owns:
- the faults, each at its place, and their wording;
- which of them concern the type of a value.

Does not own: the reader that finds them.
-/

namespace LinkedQuery.Settings

/-- What kind of value a place wants. -/
inductive Wanted
  | object
  | text
  | truth
  | integer
  | list
deriving Repr, DecidableEq

/-- The wording of a kind. -/
def Wanted.phrase : Wanted → Text
  | .object => "an object"
  | .text => "a string"
  | .truth => "a boolean"
  | .integer => "an integer"
  | .list => "a list"

/-- A fault of settings. -/
inductive Fault
  /-- The whole is no mapping. -/
  | notMapping (typeName : Text)
  | missingSection (name : Text)
  | missing (place : KeyPath)
  | wrongType (place : KeyPath) (wanted : Wanted) (typeName : Text)
  | notObject (place : KeyPath)
  | blank (place : KeyPath)
  | badEntity (place : KeyPath) (fault : MalformedEntity)
  | badLink (place : KeyPath) (fault : LinkFault)
  | unknownLevel
  | blankLogDirectory
  | spacedDocType
  | negative (place : KeyPath)
  | unorderedBounds
  | negativeActive
  | noIndexes
  | nameTwice (position : Nat) (entity : Entity)
  | backendTwice (position : Nat) (backendName : Text)
  | undeclaredTarget (position linkPosition : Nat) (entity : Entity)
  | noFormats
  | unknownFormats (formats : List Text)
  | blankBaseDirectory
  | undeclaredRoot (entity : Entity)
deriving Repr, DecidableEq

namespace Fault

/-- Whether a fault concerns the type of a value. -/
def isTypeFault : Fault → Bool
  | .wrongType _ _ _ => true
  | .notObject _ => true
  | _ => false

/-- The levels in the order of messages. -/
def levelNames : List Text :=
  ["CRITICAL", "DEBUG", "ERROR", "INFO", "WARNING"]

private def indexPlace (position : Nat) : KeyPath :=
  (KeyPath.ofStart "indexes").index position

/-- The wording of a fault. -/
def message : Fault → Text
  | .notMapping typeName => "Config root must be a mapping, got " ++ typeName
  | .missingSection name => "Missing required config section: " ++ name
  | .missing place => "Missing required config: " ++ place.text
  | .wrongType place wanted typeName =>
      place.text ++ " must be " ++ wanted.phrase ++ ", got " ++ typeName
  | .notObject place => place.text ++ " must be an object"
  | .blank place => place.text ++ " must not be empty"
  | .badEntity place fault => place.text ++ ": " ++ fault.message
  | .badLink place fault => place.text ++ ": " ++ fault.message
  | .unknownLevel => "log.level must be one of " ++ Text.literalList levelNames
  | .blankLogDirectory => "log.dir must not be empty when log.to_file=true"
  | .spacedDocType => "compiler.doc_type must not contain whitespace"
  | .negative place => place.text ++ " must not be negative"
  | .unorderedBounds => "visibility.xmin must not exceed visibility.xmax"
  | .negativeActive => "visibility.active_xids must not contain negative ids"
  | .noIndexes => "indexes must declare at least one index"
  | .nameTwice position entity =>
      ((indexPlace position).key "name").text ++ " is declared twice: " ++ entity.text
  | .backendTwice position backendName =>
      ((indexPlace position).key "backend_name").text ++ " is declared twice: " ++ backendName
  | .undeclaredTarget position linkPosition entity =>
      (((indexPlace position).key "links").index linkPosition).text ++
        " targets an undeclared index: " ++ entity.text
  | .noFormats => "output.formats must include at least one format"
  | .unknownFormats formats =>
      "output.formats has unknown format(s): " ++ Text.literalList formats
  | .blankBaseDirectory =>
      "output.base_dir must not be empty when output.formats includes json"
  | .undeclaredRoot entity =>
      "compiler.root is not declared under indexes: " ++ entity.text

end Fault

end LinkedQuery.Settings
