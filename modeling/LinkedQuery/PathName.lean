import LinkedQuery.Text.Blank

/-!
Contract: file paths as text.

Owns:
- the normal form, without empty and current-directory parts;
- joining a path with a further part;
- the parts that a relative path leads through, steps up resolved.

Does not own: the files.
-/

namespace LinkedQuery.PathName

/-- The parts of a path that name something. -/
def parts (path : Text) : List Text :=
  (Text.cut '/' path).filter fun part => !part.isEmpty && part != "."

/-- The slashes that a normal path keeps in front: exactly two stay two, more
become one. -/
def root (path : Text) : Text :=
  match path.toList with
  | .char '/' :: .char '/' :: .char '/' :: _ => "/"
  | .char '/' :: .char '/' :: _ => "//"
  | .char '/' :: _ => "/"
  | _ => ""

/-- The normal form of a path; an empty one is the current directory. -/
def normalize (path : Text) : Text :=
  let text := root path ++ Text.joinWith "/" (parts path)
  if text.isEmpty then "." else text

/-- A path with a further part. -/
def join (base child : Text) : Text :=
  if base.isEmpty || !(root child).isEmpty then
    normalize child
  else
    normalize (base ++ "/" ++ child)

/-- The path without its last part. -/
def parent (path : Text) : Text :=
  normalize (root path ++ Text.joinWith "/" (parts path).dropLast)

/-- A further part of a resolved path: a step up undoes a step down, if there is
one to undo. -/
def descend (resolved : List Text) (part : Text) : List Text :=
  match resolved.getLast? with
  | none => resolved ++ [part]
  | some last =>
      if part = ".." && last != ".." then resolved.dropLast else resolved ++ [part]

/-- The parts of a path with steps up carried out. -/
def resolve (path : Text) : List Text :=
  (parts path).foldl descend []

/-- Whether a path leads to a place below the current directory. -/
def isInside (path : Text) : Bool :=
  (root path).isEmpty && (resolve path).head? != some ".."

/-- Whether two paths lead to the same place. -/
def same (left right : Text) : Bool :=
  (root left).isEmpty == (root right).isEmpty && resolve left == resolve right

end LinkedQuery.PathName
