import LinkedQuery.Settings.Fault
import LinkedQuery.Value.Text

/-!
Contract: typed access to the values of settings.

Owns:
- sections and values, required or optional, null counting as absent where a
  default exists;
- the expected type of a value with the fault of any other.

Does not own: the names of the settings.
-/

namespace LinkedQuery.Settings

/-- A value that is there and not null. -/
def present? (entries : Entries) (name : Text) : Option Value :=
  match entries.get? name with
  | some (.scalar .null) => none
  | found => found

/-- A section as a mapping. -/
def asSection (name : Text) : Value → Except Fault Entries
  | .map entries => .ok entries
  | other => .error (.wrongType (.ofStart name) .object other.typeName)

/-- A section that may be absent. -/
def optionalSection (entries : Entries) (name : Text) : Except Fault Entries :=
  match present? entries name with
  | some value => asSection name value
  | none => .ok []

/-- A section that has to be there. -/
def requiredSection (entries : Entries) (name : Text) : Except Fault Entries :=
  match present? entries name with
  | some value => asSection name value
  | none => .error (.missingSection name)

/-- A value that has to be there; null counts as a value. -/
def required (entries : Entries) (name : Text) (place : KeyPath) : Except Fault Value :=
  match entries.get? name with
  | some value => .ok value
  | none => .error (.missing place)

/-- A text. -/
def asText (place : KeyPath) : Value → Except Fault Text
  | .scalar (.text value) => .ok value
  | other => .error (.wrongType place .text other.typeName)

/-- A text without white space around it, which must not be empty. -/
def asName (place : KeyPath) (value : Value) : Except Fault Text := do
  let text ← asText place value
  let name := Text.trimmed text
  if name.isEmpty then
    throw (.blank place)
  return name

/-- A truth value. -/
def asTruth (place : KeyPath) : Value → Except Fault Bool
  | .scalar (.bool value) => .ok value
  | other => .error (.wrongType place .truth other.typeName)

/-- An integer. -/
def asInteger (place : KeyPath) : Value → Except Fault Int
  | .scalar (.int value) => .ok value
  | other => .error (.wrongType place .integer other.typeName)

/-- A list. -/
def asList (place : KeyPath) : Value → Except Fault (List Value)
  | .list items => .ok items
  | other => .error (.wrongType place .list other.typeName)

/-- Read items one after the other, counted from a position. -/
def eachFrom {α β : Type} (place : KeyPath) (read : KeyPath → α → Except Fault β) :
    Nat → List α → Except Fault (List β)
  | _, [] => .ok []
  | position, item :: rest => do
      let first ← read (place.index position) item
      let others ← eachFrom place read (position + 1) rest
      return first :: others

/-- Read the items of a list one after the other. -/
def each {α β : Type} (place : KeyPath) (read : KeyPath → α → Except Fault β)
    (items : List α) : Except Fault (List β) :=
  eachFrom place read 0 items

/-- A list of texts. -/
def asTexts (place : KeyPath) (value : Value) : Except Fault (List Text) := do
  each place asText (← asList place value)

/-- A list of integers. -/
def asIntegers (place : KeyPath) (value : Value) : Except Fault (List Int) := do
  each place asInteger (← asList place value)

/-- A value with a default, read by its type. -/
def optional {α : Type} (entries : Entries) (name : Text) (place : KeyPath)
    (read : KeyPath → Value → Except Fault α) (default : α) : Except Fault α :=
  match present? entries name with
  | some value => read place value
  | none => .ok default

end LinkedQuery.Settings
