import LinkedQuery.FileTree
import LinkedQuery.Json.Printer
import LinkedQuery.Json.Reader
import LinkedQuery.Text.Lines
import LinkedQuery.Traced

/-!
Contract: where the results of a command go.

Owns:
- the two ways of output: lines of the log, and one JSON file for all results;
- what each does with a result and at the end of a command;
- why a result is not taken and why a file is not written.

Does not own: the formats that settings admit.
-/

namespace LinkedQuery

/-- A way of output. -/
inductive Writer
  /-- Each line of a result becomes a record. -/
  | console
  /-- Results are gathered for a file under a directory. -/
  | jsonFile (directory : Text)
deriving Repr, DecidableEq

/-- A source with its result as data. -/
structure ReportEntry where
  source : Text
  result : Json

/-- Writers in order and the results gathered so far. -/
structure Report where
  writers : List Writer
  entries : List ReportEntry

namespace Report

/-- The report of some formats; without a known one there is none. -/
def ofFormats? (formats : List Text) (baseDirectory : Text) : Option Report :=
  let writers :=
    (if formats.contains "console" then [Writer.console] else []) ++
      (if formats.contains "json" then [.jsonFile (PathName.join baseDirectory "json")] else [])
  if writers.isEmpty then none else some ⟨writers, []⟩

/-- The wording when no writer is known. -/
def noWriters : Text := "No output writers configured"

/-- Why a report stops: an integer of a result is too long to be read, the file
cannot be opened, or it was opened and its text has no bytes. -/
inductive Fault
  | overlong (fault : OverlongInteger)
  | inaccessible (fault : PathFault)
  | unencodable (file : Text) (fault : Text.EncodingFault)
deriving Repr, DecidableEq

/-- The wording of a fault. -/
def Fault.message : Fault → Text
  | .overlong fault => fault.message
  | .inaccessible fault => fault.message
  | .unencodable _ fault => fault.message

/-- The files that a fault leaves behind: one that was opened stays empty. -/
def Fault.leftFiles : Fault → List (Text × Text)
  | .unencodable file _ => [(file, "")]
  | _ => []

/-- A result as data: JSON text as what it denotes, other text as its lines. -/
def resultOf (content : Text) : Except OverlongInteger Json :=
  match Json.read content with
  | .ok value => .ok value
  | .error .malformed => .ok (.array ((Text.splitLines content).map Json.string))
  | .error (.overlong fault) => .error fault

/-- Whether results are gathered for a file. -/
def gathers (report : Report) : Bool :=
  report.writers.any fun writer => writer != .console

/-- The events of one writer for a result. -/
def writerEvents (source content : Text) : Writer → List Event
  | .console => .heading source :: (Text.splitLines content).map Event.line
  | .jsonFile _ => []

/-- Take a result: the report after it, and the events it causes. -/
def write (report : Report) (source content : Text) : Traced Fault Report := do
  Traced.emitAll (report.writers.flatMap (writerEvents source content))
  if report.gathers then
    let result ← Traced.lift ((resultOf content).mapError .overlong)
    return { report with entries := report.entries ++ [⟨source, result⟩] }
  else
    return report

/-- An entry as JSON. -/
def entryJson (entry : ReportEntry) : Json :=
  .object [("source", .string entry.source), ("result", entry.result)]

/-- All results as JSON. -/
def entriesJson (report : Report) : Json :=
  .array (report.entries.map entryJson)

/-- The path of the file of an action. -/
def filePath (directory action stamp : Text) : Text :=
  PathName.join directory (action ++ "_" ++ stamp ++ ".json")

/-- A time as the names of files show it; all times have its width. -/
def sampleStamp : Text := "20000101_000000"

/-- What a writer does at the end of an action: the files that it writes, with
their texts. -/
def finishWriter (report : Report) (tree : FileTree) (action stamp : Text) :
    Writer → Traced Fault (List (Text × Text))
  | .console => .ok []
  | .jsonFile directory =>
      match tree.directoryFault? directory with
      | some fault => .fail (.inaccessible fault)
      | none =>
          let file := filePath directory action stamp
          let sample := filePath directory action sampleStamp
          match (tree.withDirectory directory).fileFault? sample with
          | some fault => .fail (.inaccessible (fault.moved file))
          | none =>
              let text := report.entriesJson.text
              match Text.encodingFault? text with
              | some fault => .fail (.unencodable file fault)
              | none => do
                  Traced.emit (.wrote report.entries.length file)
                  return [(file, text)]

/-- What writers do at the end of an action, one after the other. -/
def finishAll (report : Report) (tree : FileTree) (action stamp : Text) :
    List Writer → Traced Fault (List (Text × Text))
  | [] => .ok []
  | writer :: rest => do
      let files ← finishWriter report tree action stamp writer
      let others ← finishAll report tree action stamp rest
      return files ++ others

/-- The end of an action: the files that are written, with their texts. -/
def finish (report : Report) (tree : FileTree) (action stamp : Text) :
    Traced Fault (List (Text × Text)) :=
  report.finishAll tree action stamp report.writers

end Report

end LinkedQuery
