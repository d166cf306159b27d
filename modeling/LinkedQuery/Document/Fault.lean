import LinkedQuery.KeyPath
import LinkedQuery.Link.Declaration
import LinkedQuery.Term

/-!
Contract: what can be wrong with a query document.

Owns:
- the kinds of terms a document can name, in the order of messages;
- the faults, each at its place, and their wording.

Does not own: the reader that finds them.
-/

namespace LinkedQuery.Document

/-- The kinds of terms by the key that names them. -/
inductive TermKind
  | null
  | matchAll
  | string
  | phrase
  | phraseWildcard
  | wildcard
  | fuzzy
  | range
  | regex
  | array
  | proximity
  | unparsedArray
deriving Repr, DecidableEq

namespace TermKind

/-- All kinds in the order of messages. -/
def all : List TermKind :=
  [.null, .matchAll, .string, .phrase, .phraseWildcard, .wildcard, .fuzzy, .range, .regex,
   .array, .proximity, .unparsedArray]

/-- The key of a kind. -/
def key : TermKind → Text
  | .null => "null"
  | .matchAll => "match_all"
  | .string => "string"
  | .phrase => "phrase"
  | .phraseWildcard => "phrase_wildcard"
  | .wildcard => "wildcard"
  | .fuzzy => "fuzzy"
  | .range => "range"
  | .regex => "regex"
  | .array => "array"
  | .proximity => "proximity"
  | .unparsedArray => "unparsed_array"

end TermKind

/-- A fault of a query document at a place. -/
inductive Fault
  | notSingleKey (place : KeyPath)
  | keyNotText (place : KeyPath)
  | notNonEmptyList (place : KeyPath)
  | unknownNode (place : KeyPath) (kind : Text)
  | notLinked (place : KeyPath)
  | notText (place : KeyPath)
  | badLink (place : KeyPath) (fault : LinkFault)
  | missing (place : KeyPath)
  | notObject (place : KeyPath)
  | blankField (place : KeyPath)
  | notOneTerm (place : KeyPath)
  | notNumber (place : KeyPath)
  | numberTooLarge
  | notTrue (place : KeyPath)
  | notInteger (place : KeyPath)
  | notRange (place : KeyPath)
  | notList (place : KeyPath)
  | notScalar (place : KeyPath)
  | badTerm (place : KeyPath) (fault : TermFault)
  | overlong (place : KeyPath)
  | endless
deriving Repr, DecidableEq

/-- The wording of a fault. -/
def Fault.message : Fault → Text
  | .notSingleKey place => place.text ++ " must be an object with exactly one key"
  | .keyNotText place => place.text ++ " keys must be strings"
  | .notNonEmptyList place => place.text ++ " must be a non-empty list"
  | .unknownNode place kind => place.text ++ " has unknown node: " ++ kind
  | .notLinked place => place.text ++ " must be an object with link and query"
  | .notText place => place.text ++ " must be a string"
  | .badLink place fault => place.text ++ ": " ++ fault.message
  | .missing place => "Missing required key: " ++ place.text
  | .notObject place => place.text ++ " must be an object"
  | .blankField place => place.text ++ " must be a non-empty string"
  | .notOneTerm place =>
      place.text ++ " must have exactly one of: " ++
        Text.joinWith ", " (TermKind.all.map TermKind.key)
  | .notNumber place => place.text ++ " must be a number"
  | .numberTooLarge => BoostFault.message .tooLarge
  | .notTrue place => place.text ++ " must be true"
  | .notInteger place => place.text ++ " must be an integer"
  | .notRange place => place.text ++ " must be a [start, end] list"
  | .notList place => place.text ++ " must be a list"
  | .notScalar place => place.text ++ " must be a string or number"
  | .badTerm place fault => place.text ++ ": " ++ fault.message
  | .overlong place => place.text ++ ": " ++ OverlongInteger.written.message
  | .endless => "maximum recursion depth exceeded in comparison"

end LinkedQuery.Document
