import LinkedQuery.PathName
import LinkedQuery.Text.Utf8

/-!
Contract: what a program sees of files.

Owns:
- what can be found at a path, and why nothing can be, with the wording;
- the view of a directory that holds some files, seen from that directory;
- which directories can be made and which files can be written.

Does not own: reading from a disk.
-/

namespace LinkedQuery

/-- What stands at a path. -/
inductive FileState
  | directory
  | file (bytes : List UInt8)
deriving Repr, DecidableEq

/-- Why nothing can be done at a path. -/
inductive PathProblem
  | missing
  | occupied
  | notDirectory
  | isDirectory
  | nameTooLong
deriving Repr, DecidableEq

/-- The number of a problem. -/
def PathProblem.code : PathProblem → Nat
  | .missing => 2
  | .occupied => 17
  | .notDirectory => 20
  | .isDirectory => 21
  | .nameTooLong => 36

/-- The wording of a problem. -/
def PathProblem.message : PathProblem → Text
  | .missing => "No such file or directory"
  | .occupied => "File exists"
  | .notDirectory => "Not a directory"
  | .isDirectory => "Is a directory"
  | .nameTooLong => "File name too long"

/-- A path that cannot be used: because of what stands there, or because the
text is no path at all. -/
inductive PathFault
  | refused (problem : PathProblem) (path : Text)
  | nullByte
  | unencodable (fault : Text.EncodingFault)
deriving Repr, DecidableEq

namespace PathFault

/-- The wording of a fault. -/
def message : PathFault → Text
  | .refused problem path =>
      "[Errno " ++ toString problem.code ++ "] " ++ problem.message ++ ": " ++
        Text.literal path
  | .nullByte => "embedded null byte"
  | .unencodable fault => fault.message

/-- The same fault at another path. -/
def moved (path : Text) : PathFault → PathFault
  | .refused problem _ => .refused problem path
  | other => other

/-- Whether a text is no path at all. -/
def isAboutText : PathFault → Bool
  | .refused _ _ => false
  | .nullByte => true
  | .unencodable _ => true

end PathFault

/-- What stands at each path. -/
abbrev FileTree := Text → Except PathFault FileState

namespace FileTree

/-- The most bytes of a part of a path. -/
def maxPart : Nat := 255

/-- The number of bytes that a whole path does not reach. -/
def pathLimit : Nat := 4096

/-- A file by the parts of its path, with its bytes. -/
abbrev Holding := List Text × List UInt8

/-- What stands at resolved parts, given all files; a directory is where a file
lies below, and so are all places above the start. -/
def stateAt? (files : List Holding) (place : List Text) : Option FileState :=
  match files.find? fun (other, _) => other == place with
  | some (_, bytes) => some (.file bytes)
  | none =>
      if place.all (· = "..") || files.any fun (other, _) => place.isPrefixOf other then
        some .directory
      else
        none

/-- Walk along the parts of a path, each step starting in a directory. -/
def walk (files : List Holding) : List Text → List Text → Except PathProblem FileState
  | place, [] =>
      match stateAt? files place with
      | some state => .ok state
      | none => .error .missing
  | place, part :: rest =>
      match stateAt? files place with
      | none => .error .missing
      | some (.file _) => .error .notDirectory
      | some .directory =>
          if maxPart < Text.nameLength part then
            .error .nameTooLong
          else if part = "." || part.isEmpty then
            walk files place rest
          else
            walk files (PathName.descend place part) rest

/-- The fault of a text that is no path. -/
def textFault? (path : Text) : Option PathFault :=
  match Text.nameFault? path with
  | some fault => some (.unencodable fault)
  | none => if path.toList.contains '\x00' then some .nullByte else none

/-- The directory that holds some files, each under its relative path; outside
it nothing is known but the directories above. -/
def ofFiles (files : List (Text × List UInt8)) : FileTree := fun path =>
  match textFault? path with
  | some fault => .error fault
  | none =>
      if pathLimit ≤ Text.nameLength path then
        .error (.refused .nameTooLong path)
      else if path.isEmpty then
        .error (.refused .missing path)
      else if !(PathName.root path).isEmpty then
        if (PathName.parts path).all (· = "..") then
          .ok .directory
        else
          .error (.refused .missing path)
      else
        (walk (files.map fun (name, bytes) => (PathName.resolve name, bytes)) []
          (Text.cut '/' path)).mapError fun problem => .refused problem path

/-- The tree with a directory at a path. -/
def withDirectory (tree : FileTree) (path : Text) : FileTree := fun other =>
  if (PathName.root path).isEmpty = (PathName.root other).isEmpty &&
      (PathName.resolve other).isPrefixOf (PathName.resolve path) then
    .ok .directory
  else
    tree other

/-- Why a directory cannot be made at a path, given by its parts in reverse,
together with the missing directories above it. -/
def directoryFaultAt? (tree : FileTree) (root : Text) : List Text → Option PathFault
  | [] => none
  | last :: above =>
      let path := root ++ Text.joinWith "/" (last :: above).reverse
      match tree path with
      | .ok .directory => none
      | .ok (.file _) => some (.refused .occupied path)
      | .error (.refused .missing _) =>
          match directoryFaultAt? tree root above with
          | some fault => some fault
          | none =>
              if maxPart < Text.nameLength last then
                some (.refused .nameTooLong path)
              else
                match tree (root ++ Text.joinWith "/" (PathName.resolve path)) with
                | .ok (.file _) => some (.refused .occupied path)
                | _ => none
      | .error fault => some (fault.moved path)

/-- Why a directory cannot be made at a path. -/
def directoryFault? (tree : FileTree) (path : Text) : Option PathFault :=
  directoryFaultAt? tree (PathName.root path) (PathName.parts path).reverse

/-- Why a file cannot be written at a path. -/
def fileFault? (tree : FileTree) (path : Text) : Option PathFault :=
  match tree path with
  | .ok (.file _) => none
  | .ok .directory => some (.refused .isDirectory path)
  | .error (.refused .missing _) =>
      match tree (PathName.parent path) with
      | .ok .directory =>
          if (PathName.parts path).any fun part => maxPart < Text.nameLength part then
            some (.refused .nameTooLong path)
          else
            none
      | .ok (.file _) => some (.refused .notDirectory path)
      | .error _ => some (.refused .missing path)
  | .error fault => some (fault.moved path)

end FileTree

end LinkedQuery
