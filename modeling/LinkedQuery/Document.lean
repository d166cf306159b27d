import LinkedQuery.Document.Fault
import LinkedQuery.Expr
import LinkedQuery.Value
import LinkedQuery.Value.Text

/-!
Contract: query expressions read from structured documents.

Owns:
- the reader of expressions, in which the one key of a mapping names the node;
- the reader of terms, in which exactly one key names the kind;
- the order in which faults are found, a document without end being one of
  them.

Does not own: the text of documents.
-/

namespace LinkedQuery.Document

/-- The kinds of terms that a mapping names. -/
def presentKinds (entries : Entries) : List TermKind :=
  TermKind.all.filter fun kind => (entries.get? kind.key).isSome

/-- The text of a scalar; truth values, null and containers of values are no
scalars here.  A value that is too long to be shown is a fault of the whole
term. -/
def scalarText (term place : KeyPath) (value : Value) : Except Fault Text :=
  match value with
  | .scalar .null => .error (.notScalar place)
  | .scalar (.bool _) => .error (.notScalar place)
  | .list _ => .error (.notScalar place)
  | .map _ => .error (.notScalar place)
  | .again _ => .error (.notScalar place)
  | shown => if shown.isOverlong then .error (.overlong term) else .ok shown.plain

/-- The texts of scalars, counted from a position. -/
def scalarTexts (term place : KeyPath) : Nat → List Value → Except Fault (List Text)
  | _, [] => .ok []
  | position, value :: rest => do
      let text ← scalarText term (place.index position) value
      let texts ← scalarTexts term place (position + 1) rest
      return text :: texts

/-- The weight as it stands in a mapping, turned into binary64 at once. -/
def weight? (place : KeyPath) : Option Value → Except Fault (Option Double)
  | none => .ok none
  | some (.scalar .null) => .ok none
  | some (.scalar (.int value)) =>
      if (Double.ofInt value).isFinite then
        .ok (some (.ofInt value))
      else
        .error .numberTooLarge
  | some (.scalar value) =>
      match value.double? with
      | some weight => .ok (some weight)
      | none => .error (.notNumber place)
  | some _ => .error (.notNumber place)

/-- The weight of a term at a place. -/
def boost? (place : KeyPath) : Option Double → Except Fault (Option Boost)
  | none => .ok none
  | some weight =>
      match Boost.ofNumber (.float weight) with
      | .ok boost => .ok (some boost)
      | .error fault => .error (.badTerm place (.boost fault))

/-- A term without terms below it: its kind, the value under that kind's key,
the mapping around it and its weight. -/
def readSimple
    (kind : TermKind)
    (value : Value)
    (entries : Entries)
    (place : KeyPath)
    (weight : Option Double) :
    Except Fault Term :=
  let here := place.key kind.key
  let single (build : Text → Option Boost → Term) : Except Fault Term := do
    let text ← scalarText place here value
    return build text (← boost? place weight)
  match kind with
  | .null =>
      match value with
      | .scalar (.bool true) => .ok .null
      | _ => .error (.notTrue here)
  | .matchAll =>
      match value with
      | .scalar (.bool true) => .ok .matchAll
      | _ => .error (.notTrue here)
  | .string => single .string
  | .phrase => single .phrase
  | .phraseWildcard => single .phraseWildcard
  | .wildcard => single .wildcard
  | .regex => single .regex
  | .unparsedArray => single .unparsedArray
  | .fuzzy =>
      match (entries.get? "distance").getD (.scalar (.int 0)) with
      | .scalar (.int distance) => do
          let text ← scalarText place here value
          let boost ← boost? place weight
          match Term.ofDistance text distance boost with
          | .ok term => return term
          | .error fault => throw (.badTerm place fault)
      | _ => .error (.notInteger (place.key "distance"))
  | .range =>
      match value with
      | .list [start, stop] => do
          let start ← scalarText place (here.index 0) start
          let stop ← scalarText place (here.index 1) stop
          return .range start stop (← boost? place weight)
      | _ => .error (.notRange here)
  | .proximity =>
      match value with
      | .list parts => do
          let parts ← scalarTexts place here 0 parts
          return .proximity parts (← boost? place weight)
      | _ => .error (.notList here)
  | .array => .error (.notList here)

mutual

/-- Read the term that a mapping names. -/
def readTerm (entries : Entries) (place : KeyPath) : Except Fault Term :=
  match presentKinds entries with
  | [.array] =>
      match weight? (place.key "boost") (entries.get? "boost") with
      | .error fault => .error fault
      | .ok weight =>
          match _found : entries.get? "array" with
          | some (.list items) =>
              match readMembers place (place.key "array") 0 items with
              | .error fault => .error fault
              | .ok members => (boost? place weight).map (Term.array members)
          | some (.again .list) => .error .endless
          | _ => .error (.notList (place.key "array"))
  | [kind] => do
      let weight ← weight? (place.key "boost") (entries.get? "boost")
      readSimple kind ((entries.get? kind.key).getD (.scalar .null)) entries place weight
  | _ => .error (.notOneTerm place)
termination_by sizeOf entries
decreasing_by
  have smaller := Entries.sizeOf_lt_of_get? _found
  simp only [Value.list.sizeOf_spec] at smaller
  omega

/-- Read the members of an array term, counted from a position: mappings are
terms, anything else is the text of a string term.  A mapping that is met again stands
only behind the rounds in which data without end was written out, so a fault in any of
them is found first. -/
def readMembers (term place : KeyPath) (position : Nat) (items : List Value) :
    Except Fault (List Term) :=
  match items with
  | [] => .ok []
  | .map entries :: rest => do
      let member ← readTerm entries (place.index position)
      let members ← readMembers term place (position + 1) rest
      return member :: members
  | .again .map :: _ => .error .endless
  | item :: rest => do
      let text ← scalarText term (place.index position) item
      let members ← readMembers term place (position + 1) rest
      return .string text none :: members
termination_by sizeOf items

end

/-- The expression of a comparison's body.  A body that is met again stands only behind
the rounds in which data without end was written out. -/
def readComparison (operator : Operator) (body : Value) (place : KeyPath) :
    Except Fault Expr :=
  match body with
  | .map entries =>
      match Entries.get? "field" entries with
      | some (.scalar (.text name)) =>
          if Text.isAllBlank name then
            .error (.blankField (place.key "field"))
          else
            (readTerm entries place).map fun term =>
              .comparison operator ⟨Text.trimmed name⟩ term
      | _ => .error (.blankField (place.key "field"))
  | .again .map => .error .endless
  | _ => .error (.notObject place)

/-- The list nodes by their key. -/
def listNode? (kind : Text) : Option (List Expr → Expr) :=
  if kind = "and" then
    some .andAll
  else if kind = "or" then
    some .orAny
  else if kind = "with" then
    some .withAll
  else
    none

/-- The link of a linked node's body. -/
def readLink (entries : Entries) (place : KeyPath) : Except Fault Link :=
  match entries.get? "link" with
  | some (.scalar (.text declaration)) =>
      match Link.parse declaration with
      | .ok link => .ok link
      | .error fault => .error (.badLink (place.key "link") fault)
  | _ => .error (.notText (place.key "link"))

mutual

/-- Read the expression that a document denotes.  A node that is met again stands only
behind the rounds in which data without end was written out: reading went around in a
circle and met no fault on the way. -/
def readExpr (value : Value) (place : KeyPath) : Except Fault Expr :=
  match value with
  | .map [(.text kind, body)] =>
      let here := place.key kind
      match listNode? kind with
      | some build =>
          match body with
          | .list (item :: rest) => (readItems here 0 (item :: rest)).map build
          | .again .list => .error .endless
          | _ => .error (.notNonEmptyList here)
      | none =>
          if kind = "not" then
            (readExpr body here).map .negation
          else if kind = "linked" then
            match body with
            | .map entries =>
                match readLink entries here with
                | .error fault => .error fault
                | .ok link =>
                    match _found : Entries.get? "query" entries with
                    | none => .error (.missing (here.key "query"))
                    | some query =>
                        (readExpr query (here.key "query")).map (Expr.linked link)
            | .again .map => .error .endless
            | _ => .error (.notLinked here)
          else
            match Operator.find? Operator.key kind with
            | some operator => readComparison operator body here
            | none => .error (.unknownNode place kind)
  | .map [_] => .error (.keyNotText place)
  | .again .map => .error .endless
  | _ => .error (.notSingleKey place)
termination_by sizeOf value
decreasing_by
  · simp
    omega
  · simp
    omega
  · have smaller := Entries.sizeOf_lt_of_get? _found
    simp
    omega

/-- Read the items of a list node, counted from a position. -/
def readItems (place : KeyPath) (position : Nat) (items : List Value) :
    Except Fault (List Expr) :=
  match items with
  | [] => .ok []
  | item :: rest => do
      let expr ← readExpr item (place.index position)
      let exprs ← readItems place (position + 1) rest
      return expr :: exprs
termination_by sizeOf items

end

/-- Read a document whose place has a name. -/
def read (value : Value) (start : Text) : Except Fault Expr :=
  readExpr value (.ofStart start)

end LinkedQuery.Document
