import LinkedQuery.FileTree
import LinkedQuery.Settings
import LinkedQuery.Settings.Layer
import LinkedQuery.Yaml

/-!
Contract: settings files.

Owns:
- the mapping that a file holds, an empty file holding the empty one;
- settings of one file, or of a file over the defaults of another;
- what can be wrong with a settings file, and the wording.

Does not own: the validation of settings.
-/

namespace LinkedQuery.Settings

/-- Why files hold no settings. -/
inductive FileFault
  | inaccessible (fault : PathFault)
  | undecodable (fault : Text.Utf8Fault)
  | malformed (path : Text)
  | scalar (fault : Yaml.ScalarFault)
  | settings (fault : Fault)
deriving Repr, DecidableEq

/-- The wording of a fault. -/
def FileFault.message : FileFault → Text
  | .inaccessible fault => fault.message
  | .undecodable fault => fault.message
  | .malformed path => PathName.normalize path ++ ": invalid YAML:"
  | .scalar fault => fault.message
  | .settings fault => fault.message

/-- The mapping that a value is, null counting as the empty one. -/
def entriesOf : Value → Except Fault Entries
  | .scalar .null => .ok []
  | .map entries => .ok entries
  | other => .error (.notMapping other.typeName)

/-- The mapping of a file. -/
def readFile (files : FileTree) (path : Text) : Except FileFault Entries :=
  match files (PathName.normalize path) with
  | .error fault => .error (.inaccessible fault)
  | .ok .directory => .error (.inaccessible (.refused .isDirectory (PathName.normalize path)))
  | .ok (.file bytes) =>
      match Yaml.readBytes bytes with
      | .error (.undecodable fault) => .error (.undecodable fault)
      | .error .malformed => .error (.malformed path)
      | .error (.scalar fault) => .error (.scalar fault)
      | .ok value => (entriesOf value).mapError .settings

/-- The settings of one file. -/
def ofFile (files : FileTree) (path : Text) : Except FileFault Settings := do
  let entries ← readFile files path
  (ofEntries entries).mapError .settings

/-- The settings of a file laid over the defaults of another one; the same file
is read once. -/
def ofFiles (files : FileTree) (path defaults : Text) : Except FileFault Settings := do
  let below ← readFile files defaults
  let entries ←
    if PathName.same path defaults then
      pure below
    else do
      let above ← readFile files path
      pure (Entries.overlay below above)
  (ofEntries entries).mapError .settings

end LinkedQuery.Settings
