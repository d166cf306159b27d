import LinkedQuery.Command.Invocation
import LinkedQuery.Document.File
import LinkedQuery.Expr.Tree
import LinkedQuery.Report
import LinkedQuery.Settings

/-!
Contract: an action carried out on query files.

Owns:
- the work on one file after the other, which the first failure ends;
- the results that reach the report, and the files written once all succeeded.

Does not own: where events are shown.
-/

namespace LinkedQuery.Command

/-- A query file. -/
structure QueryFile where
  path : Text
  bytes : List UInt8
deriving Repr, DecidableEq

/-- The path of a query file as messages show it. -/
def QueryFile.source (file : QueryFile) : Text :=
  PathName.normalize file.path

/-- The query of a file. -/
def QueryFile.query (file : QueryFile) : Except Document.FileFault Expr :=
  Document.ofBytes file.path file.bytes

/-- Why an action fails. -/
inductive Failure
  | noWriters
  | badRoot (fault : MalformedEntity)
  | setup (fault : Settings.SetupFault)
  | file (fault : Document.FileFault)
  | dump (fault : Compiler.DumpFault)
  | overlong (fault : OverlongInteger)
  | report (fault : Report.Fault)

namespace Failure

/-- The wording of a failure. -/
def message : Failure → Text
  | .noWriters => Report.noWriters
  | .badRoot fault => fault.message
  | .setup fault => fault.message
  | .file fault => fault.message
  | .dump fault => fault.message
  | .overlong fault => fault.message
  | .report fault => fault.message

/-- The files that a failure leaves behind, with their texts. -/
def leftFiles : Failure → List (Text × Text)
  | .report fault => fault.leftFiles
  | _ => []

end Failure

/-- Hand a result to the report. -/
def deliver (report : Report) (source content : Text) : Traced Failure Report :=
  (report.write source content).mapError .report

/-- Compile one file, of which the position among all is announced when there
are several. -/
def dumpFile
    (compiler : Compiler)
    (root : Link)
    (total position : Nat)
    (report : Report)
    (file : QueryFile) :
    Traced Failure Report := do
  if 1 < total then
    Traced.emit (.compiling position total file.source)
  let query ← Traced.lift (file.query.mapError .file)
  if !query.isOverlong then
    Traced.emit (.evaluating root.entity query)
  let content ← (compiler.dump root query).mapError .dump
  deliver report file.source content

/-- Describe one file. -/
def debugFile (report : Report) (file : QueryFile) : Traced Failure Report := do
  let query ← Traced.lift (file.query.mapError .file)
  if query.isOverlong then
    Traced.fail (.overlong .written)
  else
    deliver report file.source query.description

/-- Carry out some work on files in order, the first one at a position. -/
def eachFile
    (work : Nat → Report → QueryFile → Traced Failure Report)
    (position : Nat)
    (report : Report) :
    List QueryFile → Traced Failure Report
  | [] => .ok report
  | file :: rest => do
      let report ← work position report file
      eachFile work (position + 1) report rest

/-- The root of an action: the one given, unless it is empty, or that of the
settings. -/
def chosenRoot (settings : Settings) (root : Option Text) : Except MalformedEntity Entity :=
  match root with
  | none => .ok settings.compiler.root
  | some text => if text.isEmpty then .ok settings.compiler.root else Entity.parse text

/-- The work of an action on its files. -/
def work
    (settings : Settings)
    (action : Action)
    (root : Option Text)
    (report : Report)
    (files : List QueryFile) :
    Traced Failure Report :=
  match action with
  | .dump => do
      let root ← Traced.lift ((chosenRoot settings root).mapError .badRoot)
      let compiler ← settings.toCompiler.mapError .setup
      eachFile (dumpFile compiler (.toSelf root) files.length) 1 report files
  | .debug => eachFile (fun _ => debugFile) 1 report files

/-- Carry out an action: the files that it writes, with their texts. -/
def execute
    (settings : Settings)
    (action : Action)
    (root : Option Text)
    (tree : FileTree)
    (files : List QueryFile)
    (stamp : Text) :
    Traced Failure (List (Text × Text)) := do
  match Report.ofFormats? settings.output.formats settings.output.baseDirectory with
  | none => .fail .noWriters
  | some report => do
      let report ← work settings action root report files
      (report.finish tree action.name stamp).mapError .report

end LinkedQuery.Command
