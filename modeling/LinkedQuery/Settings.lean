import LinkedQuery.Compiler
import LinkedQuery.Settings.Access
import LinkedQuery.Text.Case

/-!
Contract: validated settings.

Owns:
- the settings of each part and their defaults;
- reading, in which the types of all parts are looked at before any value is
  judged;
- the judgement of values, part by part and last across parts;
- the compiler that settings describe.

Does not own: files and their layers.
-/

namespace LinkedQuery

/-- Settings of the log. -/
structure LogSettings where
  level : Text
  toFile : Bool
  directory : Text
deriving Repr, DecidableEq

/-- Settings of the compiler. -/
structure CompilerSettings where
  root : Entity
  ignoreVisibility : Bool
  docType : Text
deriving Repr, DecidableEq

/-- Settings of the snapshot. -/
structure SnapshotSettings where
  reader : Int
  lower : Int
  upper : Int
  command : Int
  active : List Int
deriving Repr, DecidableEq

/-- Settings of the output. -/
structure OutputSettings where
  baseDirectory : Text
  formats : List Text
deriving Repr, DecidableEq

/-- All settings. -/
structure Settings where
  log : LogSettings
  compiler : CompilerSettings
  snapshot : SnapshotSettings
  indexes : List Declaration
  output : OutputSettings
deriving Repr, DecidableEq

namespace Settings

private def place (start name : Text) : KeyPath :=
  (KeyPath.ofStart start).key name

/-- A qualified name, read after the white space around it is gone. -/
def asEntity (place : KeyPath) (value : Value) : Except Fault Entity := do
  let name ← asName place value
  match Entity.parse name with
  | .ok entity => return entity
  | .error fault => throw (.badEntity place fault)

/-- A link declaration. -/
def asLink (place : KeyPath) (declaration : Text) : Except Fault Link :=
  match Link.parse declaration with
  | .ok link => .ok link
  | .error fault => .error (.badLink place fault)

/-- Links: all of them have to be texts before any is read. -/
def asLinks (place : KeyPath) (value : Value) : Except Fault (List Link) := do
  each place asLink (← asTexts place value)

/-- Read the settings of the log. -/
def readLog (entries : Entries) : Except Fault LogSettings := do
  let part ← optionalSection entries "log"
  let level ← optional part "level" (place "log" "level") asText "INFO"
  let toFile ← optional part "to_file" (place "log" "to_file") asTruth false
  let directory ← optional part "dir" (place "log" "dir") asText "log"
  return ⟨Text.upper (Text.trimmed level), toFile, directory⟩

/-- Read the settings of the compiler. -/
def readCompiler (entries : Entries) : Except Fault CompilerSettings := do
  let part ← requiredSection entries "compiler"
  let root ← asEntity (place "compiler" "root") (← required part "root" (place "compiler" "root"))
  let ignoreVisibility ←
    optional part "ignore_visibility" (place "compiler" "ignore_visibility") asTruth false
  let docType ← optional part "doc_type" (place "compiler" "doc_type") asName "_doc"
  return ⟨root, ignoreVisibility, docType⟩

/-- Read the settings of the snapshot. -/
def readSnapshot (entries : Entries) : Except Fault SnapshotSettings := do
  let part ← optionalSection entries "visibility"
  let reader ← optional part "my_xid" (place "visibility" "my_xid") asInteger 0
  let lower ← optional part "xmin" (place "visibility" "xmin") asInteger 1
  let upper ← optional part "xmax" (place "visibility" "xmax") asInteger 1
  let command ← optional part "command_id" (place "visibility" "command_id") asInteger 0
  let active ← optional part "active_xids" (place "visibility" "active_xids") asIntegers []
  return ⟨reader, lower, upper, command, active⟩

/-- Read the declaration of one index. -/
def readDeclaration (place : KeyPath) (value : Value) : Except Fault Declaration :=
  match value with
  | .map entries => do
      let name ← asEntity (place.key "name") (← required entries "name" (place.key "name"))
      let backendName ←
        asName (place.key "backend_name")
          (← required entries "backend_name" (place.key "backend_name"))
      let typeName ←
        optional entries "type_name" (place.key "type_name")
          (fun place value => (asName place value).map some) none
      let links ← optional entries "links" (place.key "links") asLinks []
      return ⟨name, ⟨backendName, typeName, links⟩⟩
  | _ => .error (.notObject place)

/-- Read the declarations of all indexes. -/
def readIndexes (entries : Entries) : Except Fault (List Declaration) := do
  let value ← required entries "indexes" (.ofStart "indexes")
  each (.ofStart "indexes") readDeclaration (← asList (.ofStart "indexes") value)

/-- The texts of a list, each at its first place. -/
def distinctTexts : List Text → List Text
  | [] => []
  | text :: rest => text :: (distinctTexts rest).filter (· != text)

/-- Read the settings of the output. -/
def readOutput (entries : Entries) : Except Fault OutputSettings := do
  let part ← optionalSection entries "output"
  let formats ← optional part "formats" (place "output" "formats") asTexts ["console"]
  let baseDirectory ← optional part "base_dir" (place "output" "base_dir") asText "output"
  return ⟨baseDirectory,
    distinctTexts (formats.map fun format => Text.lower (Text.trimmed format))⟩

/-- Read all settings without judging their values. -/
def read (entries : Entries) : Except Fault Settings := do
  let log ← readLog entries
  let compiler ← readCompiler entries
  let snapshot ← readSnapshot entries
  let indexes ← readIndexes entries
  let output ← readOutput entries
  return ⟨log, compiler, snapshot, indexes, output⟩

/-- Judge the settings of the log. -/
def checkLog (settings : LogSettings) : Except Fault Unit :=
  if !Fault.levelNames.contains settings.level then
    .error .unknownLevel
  else if settings.toFile && Text.isAllBlank settings.directory then
    .error .blankLogDirectory
  else
    .ok ()

/-- Judge the settings of the compiler. -/
def checkCompiler (settings : CompilerSettings) : Except Fault Unit :=
  if settings.docType.toList.any Text.isBlank then
    .error .spacedDocType
  else
    .ok ()

/-- Judge the settings of the snapshot. -/
def checkSnapshot (settings : SnapshotSettings) : Except Fault Unit :=
  if settings.reader < 0 then
    .error (.negative (place "visibility" "my_xid"))
  else if settings.lower < 0 then
    .error (.negative (place "visibility" "xmin"))
  else if settings.upper < 0 then
    .error (.negative (place "visibility" "xmax"))
  else if settings.command < 0 then
    .error (.negative (place "visibility" "command_id"))
  else if settings.upper < settings.lower then
    .error .unorderedBounds
  else if settings.active.any fun id => decide (id < 0) then
    .error .negativeActive
  else
    .ok ()

/-- The first declaration, from a position on, whose name or backend name is
among earlier ones. -/
def checkDistinct (names : List Entity) (backendNames : List Text) :
    Nat → List Declaration → Except Fault Unit
  | _, [] => .ok ()
  | position, declaration :: rest =>
      if names.contains declaration.entity then
        .error (.nameTwice position declaration.entity)
      else if backendNames.contains declaration.options.backendName then
        .error (.backendTwice position declaration.options.backendName)
      else
        checkDistinct (declaration.entity :: names)
          (declaration.options.backendName :: backendNames) (position + 1) rest

/-- The first link of a declaration, from a position on, whose target is not
declared. -/
def checkLinks (names : List Entity) (position : Nat) :
    Nat → List Link → Except Fault Unit
  | _, [] => .ok ()
  | linkPosition, link :: rest =>
      if names.contains link.entity then
        checkLinks names position (linkPosition + 1) rest
      else
        .error (.undeclaredTarget position linkPosition link.entity)

/-- The first link of all declarations, from a position on, whose target is not
declared. -/
def checkTargets (names : List Entity) : Nat → List Declaration → Except Fault Unit
  | _, [] => .ok ()
  | position, declaration :: rest =>
      match checkLinks names position 0 declaration.options.links with
      | .error fault => .error fault
      | .ok () => checkTargets names (position + 1) rest

/-- Judge the declarations: there are some, none repeats a name, and links lead
to declared entities. -/
def checkIndexes (declarations : List Declaration) : Except Fault Unit :=
  if declarations.isEmpty then
    .error .noIndexes
  else
    match checkDistinct [] [] 0 declarations with
    | .error fault => .error fault
    | .ok () => checkTargets (declarations.map Declaration.entity) 0 declarations

/-- The formats of output. -/
def knownFormats : List Text :=
  ["console", "json"]

/-- Judge the settings of the output. -/
def checkOutput (settings : OutputSettings) : Except Fault Unit :=
  let unknown := settings.formats.filter fun format => !knownFormats.contains format
  if settings.formats.isEmpty then
    .error .noFormats
  else if !unknown.isEmpty then
    .error (.unknownFormats unknown)
  else if settings.formats.contains "json" && Text.isAllBlank settings.baseDirectory then
    .error .blankBaseDirectory
  else
    .ok ()

/-- Judge what concerns several parts: the root has to be declared. -/
def checkRoot (settings : Settings) : Except Fault Unit :=
  if (settings.indexes.map Declaration.entity).contains settings.compiler.root then
    .ok ()
  else
    .error (.undeclaredRoot settings.compiler.root)

/-- Judge all settings. -/
def check (settings : Settings) : Except Fault Unit := do
  checkLog settings.log
  checkCompiler settings.compiler
  checkSnapshot settings.snapshot
  checkIndexes settings.indexes
  checkOutput settings.output
  checkRoot settings

/-- Validated settings of a mapping. -/
def ofEntries (entries : Entries) : Except Fault Settings := do
  let settings ← read entries
  check settings
  return settings

/-- Why settings describe no compiler. -/
inductive SetupFault
  | declaredTwice (fault : DeclaredTwice)
  | unordered (fault : UnorderedBounds)
deriving Repr, DecidableEq

/-- The wording of a fault. -/
def SetupFault.message : SetupFault → Text
  | .declaredTwice fault => fault.message
  | .unordered fault => fault.message

/-- The compiler that settings describe. -/
def toCompiler (settings : Settings) : Traced SetupFault Compiler := do
  let catalog ← Traced.lift ((Catalog.ofList settings.indexes).mapError .declaredTwice)
  .emit (.catalogLoaded catalog.entries.length)
  if settings.compiler.ignoreVisibility then
    .emit .visibilityIgnored
  let part := settings.snapshot
  let snapshot ← Traced.lift
    ((Snapshot.ofParts part.reader part.lower part.upper part.command part.active).mapError
      .unordered)
  return .ofCatalog catalog snapshot settings.compiler.ignoreVisibility
    settings.compiler.docType

end Settings

end LinkedQuery
