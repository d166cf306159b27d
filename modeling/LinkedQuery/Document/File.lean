import LinkedQuery.Document
import LinkedQuery.PathName
import LinkedQuery.Yaml

/-!
Contract: query files.

Owns:
- the query that the bytes of a file hold;
- what can be wrong with a query file, and the wording.

Does not own: which files are read.
-/

namespace LinkedQuery.Document

/-- Why a file holds no query. -/
inductive FileFault
  | undecodable (fault : Text.Utf8Fault)
  | malformed (path : Text)
  | scalar (fault : Yaml.ScalarFault)
  | document (fault : Fault)
deriving Repr, DecidableEq

/-- The wording of a fault. -/
def FileFault.message : FileFault → Text
  | .undecodable fault => fault.message
  | .malformed path => PathName.normalize path ++ ": invalid YAML/JSON:"
  | .scalar fault => fault.message
  | .document fault => fault.message

/-- The query of a file, given its path and its bytes. -/
def ofBytes (path : Text) (bytes : List UInt8) : Except FileFault Expr :=
  match Yaml.readBytes bytes with
  | .error (.undecodable fault) => .error (.undecodable fault)
  | .error .malformed => .error (.malformed path)
  | .error (.scalar fault) => .error (.scalar fault)
  | .ok value => (read value "query").mapError .document

end LinkedQuery.Document
