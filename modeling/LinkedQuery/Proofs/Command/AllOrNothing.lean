import LinkedQuery.Command
import LinkedQuery.Proofs.Report
import LinkedQuery.Proofs.Settings.Safety

/-!
Contract: an action writes its file for all documents or for none.

Owns:
- what each document is rendered to on its own, or why it is not;
- one document as a step of an action, and the run over all documents;
- how the session of an action ends: with one file for all documents, or with
  the first failure and no file.

Does not own: how documents are read and compiled.
-/

namespace LinkedQuery.Command

open Report
open Traced

/-! ## Documents -/

/-- A rendered document: its source, the text that a console shows and the
result that goes to the file. -/
structure Rendered where
  source : Text
  content : Text
  result : Json

namespace Rendered

/-- The entry of a document in a report. -/
def entry (rendered : Rendered) : ReportEntry :=
  ⟨rendered.source, rendered.result⟩

/-- The events of a document on the console. -/
def events (rendered : Rendered) : List Event :=
  writerEvents rendered.source rendered.content .console

end Rendered

/-- The text and the result of a query: for a dump those of the compiled query,
for a description its text and lines.  Integers that are too long have no
text. -/
def rendering (compiler : Compiler) (target : Link) (action : Action) (query : Expr) :
    Except Failure (Text × Json) :=
  match action with
  | .dump =>
      match (compiler.compile target query).outcome with
      | .error error => .error (.dump (.query error))
      | .ok compiled =>
          if compiled.toJson.isOverlong then
            .error (.dump (.overlong .written))
          else
            .ok (compiled.toJson.text, compiled.toJson)
  | .debug =>
      if query.isOverlong then
        .error (.overlong .written)
      else
        .ok (query.description,
          .array ((Text.splitLines query.description).map Json.string))

/-- What an action renders a file to, regardless of other files. -/
def render (compiler : Compiler) (target : Link) (action : Action) (file : QueryFile) :
    Except Failure Rendered :=
  match file.query with
  | .error fault => .error (.file fault)
  | .ok query =>
      (rendering compiler target action query).map fun parts => ⟨file.source, parts.1, parts.2⟩

section Run

variable {compiler : Compiler} {target : Link} {action : Action} {file : QueryFile}
  {rendered : Rendered} {failure : Failure} {report : Report} {total position : Nat}

theorem render_of_loaded {query : Expr} (loaded : file.query = .ok query) :
    render compiler target action file =
      (rendering compiler target action query).map fun parts =>
        ⟨file.source, parts.1, parts.2⟩ := by
  rw [render, loaded]

theorem render_of_unloaded {fault : Document.FileFault} (unloaded : file.query = .error fault) :
    render compiler target action file = .error (.file fault) := by
  rw [render, unloaded]

theorem render_eq_ok_iff :
    render compiler target action file = .ok rendered ↔
      ∃ query content result,
        file.query = .ok query ∧
        rendering compiler target action query = .ok (content, result) ∧
        rendered = ⟨file.source, content, result⟩ := by
  cases loaded : file.query with
  | error fault => simp [render_of_unloaded loaded]
  | ok query =>
      rw [render_of_loaded loaded, except_map_eq_ok_iff]
      constructor
      · rintro ⟨⟨content, result⟩, rendering_eq, rfl⟩
        exact ⟨query, content, result, rfl, rendering_eq, rfl⟩
      · rintro ⟨_, content, result, ⟨⟩, rendering_eq, rfl⟩
        exact ⟨(content, result), rendering_eq, rfl⟩

/-- A dump needs a query that compiles and has a text. -/
theorem rendering_dump_eq_ok_iff {query : Expr} {content : Text} {result : Json} :
    rendering compiler target .dump query = .ok (content, result) ↔
      ∃ compiled,
        (compiler.compile target query).outcome = .ok compiled ∧
        compiled.toJson.isOverlong = false ∧
        content = compiled.toJson.text ∧
        result = compiled.toJson := by
  rw [rendering]
  cases (compiler.compile target query).outcome with
  | error error => simp
  | ok compiled =>
      show (if compiled.toJson.isOverlong then _ else _) = _ ↔ _
      rw [except_guard_eq_ok_iff, Bool.not_eq_true, Except.ok.injEq, Prod.mk.injEq]
      constructor
      · rintro ⟨short, rfl, rfl⟩
        exact ⟨compiled, rfl, short, rfl, rfl⟩
      · rintro ⟨_, ⟨⟩, short, rfl, rfl⟩
        exact ⟨short, rfl, rfl⟩

theorem rendering_debug_eq_ok_iff {query : Expr} {content : Text} {result : Json} :
    rendering compiler target .debug query = .ok (content, result) ↔
      query.isOverlong = false ∧
      content = query.description ∧
      result = .array ((Text.splitLines query.description).map Json.string) := by
  show (if query.isOverlong then _ else _) = _ ↔ _
  rw [except_guard_eq_ok_iff, Bool.not_eq_true, Except.ok.injEq, Prod.mk.injEq]
  constructor
  · rintro ⟨short, rfl, rfl⟩
    exact ⟨short, rfl, rfl⟩
  · rintro ⟨short, rfl, rfl⟩
    exact ⟨short, rfl, rfl⟩

theorem renders_of_render
    (clauses : compiler.ClausesDistinct)
    (render_eq : render compiler target action file = .ok rendered) :
    Renders rendered.content rendered.result := by
  obtain ⟨query, content, result, -, rendering_eq, rfl⟩ := render_eq_ok_iff.mp render_eq
  cases action with
  | dump =>
      obtain ⟨compiled, compiles, short, rfl, rfl⟩ := rendering_dump_eq_ok_iff.mp rendering_eq
      exact .dump clauses compiles (Compiler.dump_eq_ok_iff.mpr ⟨compiled, compiles, short, rfl⟩)
  | debug =>
      obtain ⟨short, rfl, rfl⟩ := rendering_debug_eq_ok_iff.mp rendering_eq
      exact .debug short

/-! ## One document -/

/-- The work of an action on one file. -/
def workOn (compiler : Compiler) (target : Link) (total : Nat) :
    Action → Nat → Report → QueryFile → Traced Failure Report
  | .dump => dumpFile compiler target total
  | .debug => fun _ => debugFile

/-- A file rendered on its own and handed to a report. -/
def handOver
    (compiler : Compiler)
    (target : Link)
    (action : Action)
    (report : Report)
    (file : QueryFile) :
    Traced Failure Report :=
  lift (render compiler target action file) >>= fun rendered =>
    (deliver report rendered.source rendered.content).reports

theorem handOver_of_unloaded {fault : Document.FileFault} (unloaded : file.query = .error fault) :
    handOver compiler target action report file = fail (.file fault) := by
  rw [handOver, render_of_unloaded unloaded, lift_error_bind]

theorem dump_outcome_eq (query : Expr) :
    (compiler.dump target query).outcome.mapError Failure.dump =
      (rendering compiler target .dump query).map Prod.fst := by
  rw [Compiler.dump_outcome, rendering]
  cases (compiler.compile target query).outcome with
  | error error => rfl
  | ok compiled =>
      show Except.mapError _ (if compiled.toJson.isOverlong then _ else _) =
        Except.map _ (if compiled.toJson.isOverlong then _ else _)
      cases compiled.toJson.isOverlong <;> rfl

/-- The compilation in a dump is silent, so only the delivery reports. -/
theorem reports_dump_deliver {query : Expr} (loaded : file.query = .ok query) :
    ((compiler.dump target query).mapError Failure.dump >>= fun content =>
        deliver report file.source content).reports =
      handOver compiler target .dump report file := by
  rw [reports_bind, ((compiler.silent_dump target query).mapError _).reports_eq, handOver,
    render_of_loaded loaded]
  show (lift ((compiler.dump target query).outcome.mapError Failure.dump) >>= _) = _
  rw [dump_outcome_eq]
  cases rendering compiler target .dump query <;> rfl

theorem reports_dumpFile :
    (dumpFile compiler target total position report file).reports =
      handOver compiler target .dump report file := by
  have rest :
      (lift (file.query.mapError Failure.file) >>= fun query => do
          if !query.isOverlong then
            emit (.evaluating target.entity query)
          let content ← (compiler.dump target query).mapError Failure.dump
          deliver report file.source content).reports =
        handOver compiler target .dump report file := by
    cases loaded : file.query with
    | error fault =>
        rw [handOver_of_unloaded loaded]
        rfl
    | ok query =>
        rw [← reports_dump_deliver loaded]
        show Traced.reports (if !query.isOverlong then _ else _) = _
        cases query.isOverlong with
        | true => rfl
        | false => exact reports_emit_bind rfl _
  unfold dumpFile
  by_cases several : 1 < total
  · rw [if_pos several, ← rest]
    exact reports_emit_bind rfl _
  · rw [if_neg several, ← rest]

theorem reports_debugFile :
    (debugFile report file).reports = handOver compiler target .debug report file := by
  unfold debugFile
  cases loaded : file.query with
  | error fault =>
      rw [handOver_of_unloaded loaded]
      rfl
  | ok query =>
      rw [handOver, render_of_loaded loaded]
      show Traced.reports (if query.isOverlong then _ else _) =
        (lift (Except.map _ (if query.isOverlong then _ else _)) >>= _)
      cases query.isOverlong <;> rfl

theorem reports_workOn :
    (workOn compiler target total action position report file).reports =
      handOver compiler target action report file := by
  cases action with
  | dump => exact reports_dumpFile
  | debug => exact reports_debugFile

theorem filter_writerEvents (source content : Text) (writer : Writer) :
    (writerEvents source content writer).filter Event.isReport =
      writerEvents source content writer := by
  rw [List.filter_eq_self]
  cases writer with
  | console =>
      rw [writerEvents, List.forall_mem_cons]
      refine ⟨rfl, fun event member => ?_⟩
      obtain ⟨line, -, rfl⟩ := List.mem_map.mp member
      rfl
  | jsonFile directory => simp [writerEvents]

/-- A report after some documents. -/
def gathering (report : Report) (done : List Rendered) : Report :=
  { report with entries := report.entries ++ done.map Rendered.entry }

@[simp] theorem gathering_nil (report : Report) : gathering report [] = report := by
  simp [gathering]

theorem gathering_cons (report : Report) (rendered : Rendered) (done : List Rendered) :
    gathering report (rendered :: done) = gathering (gathering report [rendered]) done := by
  simp [gathering]

theorem gathers_gathering (gathers : report.gathers = true) (done : List Rendered) :
    (gathering report done).gathers = true := gathers

/-- What the writers of a report show of some documents. -/
def showing (report : Report) (done : List Rendered) : List Event :=
  done.flatMap fun rendered =>
    report.writers.flatMap (writerEvents rendered.source rendered.content)

theorem showing_cons (report : Report) (rendered : Rendered) (done : List Rendered) :
    showing report (rendered :: done) =
      showing report [rendered] ++ showing (gathering report [rendered]) done := by
  simp [showing, gathering]

theorem filter_showing (report : Report) (done : List Rendered) :
    (showing report done).filter Event.isReport = showing report done := by
  simp only [showing, List.filter_flatMap, filter_writerEvents]

/-- A file that is rendered adds its entry and is shown by every writer. -/
theorem workOn_of_render
    (clauses : compiler.ClausesDistinct)
    (gathers : report.gathers = true)
    (render_eq : render compiler target action file = .ok rendered) :
    (workOn compiler target total action position report file).reports =
      ⟨showing report [rendered], .ok (gathering report [rendered])⟩ := by
  have written :
      report.write rendered.source rendered.content =
        ⟨showing report [rendered], .ok (gathering report [rendered])⟩ := by
    rw [write_eq gathers (renders_of_render clauses render_eq)]
    simp [showing, gathering, Rendered.entry]
  rw [reports_workOn, handOver, render_eq, lift_ok_bind, deliver, reports_mapError, written,
    reports, filter_showing]
  rfl

/-- A file that is not rendered ends the work. -/
theorem workOn_of_failure (render_eq : render compiler target action file = .error failure) :
    (workOn compiler target total action position report file).reports = fail failure := by
  rw [reports_workOn, handOver, render_eq, lift_error_bind]

/-! ## All documents -/

/-- Files that are rendered are shown and add their entries in order; the work
goes on with the files after them. -/
theorem eachFile_append
    (clauses : compiler.ClausesDistinct)
    (gathers : report.gathers = true)
    {front : List QueryFile}
    {done : List Rendered}
    (each : front.map (render compiler target action) = done.map .ok)
    (rest : List QueryFile) :
    (eachFile (workOn compiler target total action) position report (front ++ rest)).reports =
      (emitAll (showing report done) >>= fun _ =>
        (eachFile (workOn compiler target total action) (position + front.length)
          (gathering report done) rest).reports) := by
  induction front generalizing done position report with
  | nil =>
      obtain rfl : done = [] := by simpa using each.symm
      rw [gathering_nil]
      rfl
  | cons file front inductionHypothesis =>
      cases done with
      | nil => cases each
      | cons rendered done =>
          obtain ⟨render_eq, each⟩ := List.cons.inj each
          rw [List.cons_append, eachFile, reports_bind, workOn_of_render clauses gathers render_eq,
            ended_bind, inductionHypothesis (gathers_gathering gathers [rendered]) each,
            showing_cons report rendered done, emitAll_append_bind,
            gathering_cons report rendered done, List.length_cons, Nat.add_assoc, Nat.add_comm 1]

theorem eachFile_of_rendered
    (clauses : compiler.ClausesDistinct)
    (gathers : report.gathers = true)
    {files : List QueryFile}
    {done : List Rendered}
    (each : files.map (render compiler target action) = done.map .ok) :
    (eachFile (workOn compiler target total action) position report files).reports =
      ⟨showing report done, .ok (gathering report done)⟩ := by
  rw [← List.append_nil files, eachFile_append clauses gathers each]
  exact emitAll_bind_lift _ (.ok (gathering report done))

/-- The first file that is not rendered ends the work. -/
theorem eachFile_of_failure
    (clauses : compiler.ClausesDistinct)
    (gathers : report.gathers = true)
    {files : List QueryFile}
    {done : List Rendered}
    {later : List (Except Failure Rendered)}
    (split : files.map (render compiler target action) = done.map .ok ++ .error failure :: later) :
    (eachFile (workOn compiler target total action) position report files).reports =
      ⟨showing report done, .error failure⟩ := by
  obtain ⟨front, rest, rfl, each, restSplit⟩ := List.map_eq_append_iff.mp split
  obtain ⟨file, back, rfl, render_eq, -⟩ := List.map_eq_cons_iff.mp restSplit
  rw [eachFile_append clauses gathers each, eachFile, reports_bind, workOn_of_failure render_eq]
  exact emitAll_bind_lift _ (.error failure)

end Run

/-! ## Actions -/

/-- A new report that gathers for a file under a directory, with or without a
console. -/
def opened (console : Bool) (directory : Text) : Report :=
  ⟨(if console then [.console] else []) ++ [.jsonFile directory], []⟩

theorem gathers_opened (console : Bool) (directory : Text) :
    (opened console directory).gathers = true := by
  cases console <;> rfl

theorem ofFormats?_of_json
    {formats : List Text}
    (json : formats.contains "json" = true)
    (baseDirectory : Text) :
    Report.ofFormats? formats baseDirectory =
      some (opened (formats.contains "console") (PathName.join baseDirectory "json")) := by
  unfold Report.ofFormats? opened
  rw [json]
  cases formats.contains "console" <;> rfl

/-- What is shown of some documents: their lines if there is a console. -/
def shown (console : Bool) (done : List Rendered) : List Event :=
  if console then done.flatMap Rendered.events else []

theorem showing_opened (console : Bool) (directory : Text) (done : List Rendered) :
    showing (opened console directory) done = shown console done := by
  cases console with
  | true =>
      simp [showing, opened, shown, writerEvents]
      rfl
  | false => simp [showing, opened, shown, writerEvents]

/-- The directory of the files of results. -/
def resultDirectory (settings : Settings) : Text :=
  PathName.join settings.output.baseDirectory "json"

/-- The file of results of an action. -/
def resultFile (settings : Settings) (action : Action) (stamp : Text) : Text :=
  filePath (resultDirectory settings) action.name stamp

/-- Whether nothing but its documents can keep an action from succeeding: results
go to a file, the root is that of the settings or has the form of one, and the
log and the file of results can be opened. -/
structure Prepared
    (settings : Settings)
    (action : Action)
    (root : Option Text)
    (tree : FileTree)
    (stamps : Stamps)
    (target : Entity)
    (logger : Logger) :
    Prop where
  json : settings.output.formats.contains "json" = true
  chosen : chosenRoot settings root = .ok target
  configured :
    Logger.configure tree settings.log.level action.name settings.log.toFile
      settings.log.directory stamps.log = .ok logger
  accessible : Accessible tree (resultDirectory settings) action.name

/-- The text of the file of results for some documents. -/
def resultText (done : List Rendered) : Text :=
  (Json.array (done.map fun rendered => entryJson rendered.entry)).text

theorem text_gathering (console : Bool) (directory : Text) (done : List Rendered) :
    (gathering (opened console directory) done).entriesJson.text = resultText done := by
  simp only [entriesJson, gathering, opened, List.nil_append, List.map_map]
  rfl

/-- The text of documents that were rendered reads back. -/
theorem read_resultText
    {compiler : Compiler}
    {target : Entity}
    {action : Action}
    (clauses : compiler.ClausesDistinct)
    {files : List QueryFile}
    {done : List Rendered}
    (each : files.map (render compiler (.toSelf target) action) = done.map .ok) :
    Json.read (resultText done) =
      .ok (.array (done.map fun rendered => entryJson rendered.entry)) := by
  have printable : ∀ entry ∈ done.map Rendered.entry, entry.result.Printable := by
    intro entry member
    obtain ⟨rendered, renderedMember, rfl⟩ := List.mem_map.mp member
    have outcome : Except.ok rendered ∈ files.map (render compiler (.toSelf target) action) := by
      rw [each]
      exact List.mem_map_of_mem renderedMember
    obtain ⟨file, -, render_eq⟩ := List.mem_map.mp outcome
    exact (renders_of_render clauses render_eq).printable
  have reads := @read_entriesJson (gathering (opened false "") done) printable
  rw [text_gathering] at reads
  rw [reads]
  simp only [gathering, opened, List.nil_append, List.map_map]
  rfl

theorem encodingFault?_resultText_iff {done : List Rendered} :
    Text.encodingFault? (resultText done) = none ↔
      ∀ rendered ∈ done, HasBytes rendered.entry := by
  rw [← text_gathering false "" done, encodingFault?_entriesJson_iff]
  exact List.forall_mem_map

section Session

variable {settings : Settings} {action : Action} {root : Option Text} {tree : FileTree}
  {stamps : Stamps} {target : Entity} {logger : Logger} {compiler : Compiler}
  {files : List QueryFile}

/-- Apart from silent preparations, an action is its work on the files. -/
theorem reports_work
    (made : settings.toCompiler.outcome = .ok compiler)
    (chosen : chosenRoot settings root = .ok target)
    (report : Report) :
    (work settings action root report files).reports =
      (eachFile (workOn compiler (.toSelf target) files.length action) 1 report files).reports := by
  cases action with
  | debug => rfl
  | dump =>
      have setup :
          (settings.toCompiler.mapError Failure.setup).reports = lift (.ok compiler) := by
        rw [reports_mapError, settings.silent_toCompiler.reports_eq, made]
        rfl
      unfold work
      simp only [chosen, reports_bind, reports_lift, setup]
      rfl

theorem reports_execute
    (prepared : Prepared settings action root tree stamps target logger)
    (made : settings.toCompiler.outcome = .ok compiler)
    (files : List QueryFile) :
    (execute settings action root tree files stamps.report).reports =
      ((eachFile (workOn compiler (.toSelf target) files.length action) 1
          (opened (settings.output.formats.contains "console") (resultDirectory settings))
          files).reports >>= fun report =>
        ((report.finish tree action.name stamps.report).mapError Failure.report).reports) := by
  unfold execute
  rw [ofFormats?_of_json prepared.json]
  simp only [reports_bind, reports_work made prepared.chosen]
  rfl

/-- All documents are rendered: the file is opened, and it is filled if its text
has bytes. -/
theorem reports_execute_of_rendered
    (prepared : Prepared settings action root tree stamps target logger)
    (made : settings.toCompiler.outcome = .ok compiler)
    (clauses : compiler.ClausesDistinct)
    {done : List Rendered}
    (each : files.map (render compiler (.toSelf target) action) = done.map .ok) :
    (execute settings action root tree files stamps.report).reports =
      match Text.encodingFault? (resultText done) with
      | some fault =>
          ⟨shown (settings.output.formats.contains "console") done,
            .error (.report (.unencodable (resultFile settings action stamps.report) fault))⟩
      | none =>
          ⟨shown (settings.output.formats.contains "console") done ++
              [.wrote done.length (resultFile settings action stamps.report)],
            .ok [(resultFile settings action stamps.report, resultText done)]⟩ := by
  have entries_length :
      (gathering (opened (settings.output.formats.contains "console")
        (resultDirectory settings)) done).entries.length = done.length :=
    List.length_map _
  rw [reports_execute prepared made, eachFile_of_rendered clauses (gathers_opened _ _) each,
    showing_opened, ended_bind, finish_eq_finishWriter rfl,
    finishWriter_of_accessible prepared.accessible, text_gathering, entries_length]
  cases Text.encodingFault? (resultText done) with
  | some fault => exact emitAll_bind_lift _ (.error _)
  | none => rfl

/-- The first document that is not rendered ends the action. -/
theorem reports_execute_of_failure
    (prepared : Prepared settings action root tree stamps target logger)
    (made : settings.toCompiler.outcome = .ok compiler)
    (clauses : compiler.ClausesDistinct)
    {done : List Rendered}
    {failure : Failure}
    {later : List (Except Failure Rendered)}
    (split :
      files.map (render compiler (.toSelf target) action) =
        done.map .ok ++ .error failure :: later) :
    (execute settings action root tree files stamps.report).reports =
      ⟨shown (settings.output.formats.contains "console") done, .error failure⟩ := by
  rw [reports_execute prepared made, eachFile_of_failure clauses (gathers_opened _ _) split,
    showing_opened]
  rfl

/-! ## Sessions -/

/-- How a session ended: whether it succeeded, the files of results that it left,
and what it reported. -/
structure Ends
    (session : Session)
    (succeeded : Bool)
    (results : List (Text × Text))
    (reported : List Event) :
    Prop where
  succeeded_eq : session.succeeded = succeeded
  results_eq : session.results = results
  reported_eq : session.events.filter Event.isReport = reported

variable {reported : List Event}

theorem exists_session_of_ok
    (prepared : Prepared settings action root tree stamps target logger)
    {results : List (Text × Text)}
    (executed :
      (execute settings action root tree files stamps.report).reports =
        ⟨reported, .ok results⟩) :
    ∃ session,
      Session.ofAction settings action root tree files stamps = .ok session ∧
      Ends session true results reported := by
  obtain ⟨events_eq, outcome_eq⟩ := Traced.mk.inj executed
  unfold Session.ofAction
  simp only [prepared.configured, outcome_eq]
  exact ⟨_, rfl, rfl, rfl, events_eq⟩

theorem exists_session_of_error
    (prepared : Prepared settings action root tree stamps target logger)
    {failure : Failure}
    (executed :
      (execute settings action root tree files stamps.report).reports =
        ⟨reported, .error failure⟩) :
    ∃ session,
      Session.ofAction settings action root tree files stamps = .ok session ∧
      Ends session false failure.leftFiles
        (reported ++ [.failed action.name failure.message]) := by
  obtain ⟨events_eq, outcome_eq⟩ := Traced.mk.inj executed
  unfold Session.ofAction
  simp only [prepared.configured, outcome_eq]
  refine ⟨_, rfl, rfl, rfl, ?_⟩
  rw [List.filter_append, events_eq]
  rfl

/-- A document that is not rendered leaves no file. -/
theorem leftFiles_of_render
    {file : QueryFile}
    {failure : Failure}
    (render_eq : render compiler (.toSelf target) action file = .error failure) :
    failure.leftFiles = [] := by
  cases loaded : file.query with
  | error fault =>
      rw [render_of_unloaded loaded] at render_eq
      obtain rfl := Except.error.inj render_eq
      rfl
  | ok query =>
      rw [render_of_loaded loaded, except_map_eq_error_iff] at render_eq
      unfold rendering at render_eq
      split at render_eq
      · split at render_eq
        · obtain rfl := Except.error.inj render_eq
          rfl
        · split_ifs at render_eq
          obtain rfl := Except.error.inj render_eq
          rfl
      · split_ifs at render_eq
        obtain rfl := Except.error.inj render_eq
        rfl

/-- Outcomes are all good, or there is a first one that is not. -/
theorem all_ok_or_first_error {ε α : Type} (outcomes : List (Except ε α)) :
    (∃ values : List α, outcomes = values.map .ok) ∨
      ∃ (values : List α) (error : ε) (later : List (Except ε α)),
        outcomes = values.map .ok ++ .error error :: later := by
  induction outcomes with
  | nil => exact .inl ⟨[], rfl⟩
  | cons outcome rest inductionHypothesis =>
      cases outcome with
      | error error => exact .inr ⟨[], error, rest, rfl⟩
      | ok value =>
          rcases inductionHypothesis with ⟨values, rfl⟩ | ⟨values, error, later, rfl⟩
          · exact .inl ⟨value :: values, rfl⟩
          · exact .inr ⟨value :: values, error, later, rfl⟩

/-- With accepted settings and nothing outside the documents in its way, a
session ends in one of three ways.  All documents are rendered, and one file
holds an entry for each of them in order.  Or all are rendered, but a string of
them has no bytes: the session fails, and the file that it opened stays empty.
Or the session fails with the failure of the first document that is not
rendered: the documents before it were shown, and no file is left. -/
theorem ofAction_all_or_nothing
    {entries : Entries}
    (accepted : Settings.ofEntries entries = .ok settings)
    (prepared : Prepared settings action root tree stamps target logger)
    (files : List QueryFile) :
    ∃ compiler session,
      settings.toCompiler.outcome = .ok compiler ∧
      Session.ofAction settings action root tree files stamps = .ok session ∧
      ((∃ done text,
          files.map (render compiler (.toSelf target) action) = done.map .ok ∧
          (∀ rendered ∈ done, HasBytes rendered.entry) ∧
          Json.read text = .ok (.array (done.map fun rendered => entryJson rendered.entry)) ∧
          Ends session true [(resultFile settings action stamps.report, text)]
            (shown (settings.output.formats.contains "console") done ++
              [.wrote files.length (resultFile settings action stamps.report)])) ∨
        (∃ done fault,
          files.map (render compiler (.toSelf target) action) = done.map .ok ∧
          ¬ (∀ rendered ∈ done, HasBytes rendered.entry) ∧
          Ends session false [(resultFile settings action stamps.report, "")]
            (shown (settings.output.formats.contains "console") done ++
              [.failed action.name (Text.EncodingFault.message fault)])) ∨
        ∃ done failure later,
          files.map (render compiler (.toSelf target) action) =
            done.map .ok ++ .error failure :: later ∧
          Ends session false []
            (shown (settings.output.formats.contains "console") done ++
              [.failed action.name failure.message])) := by
  obtain ⟨compiler, made, clauses⟩ :
      ∃ compiler, settings.toCompiler.outcome = .ok compiler ∧ compiler.ClausesDistinct := by
    obtain ⟨catalog, snapshot, made, -, -⟩ :=
      (Settings.consistent_of_ofEntries accepted).exists_compiler
    exact ⟨_, made, Compiler.clausesDistinct_ofCatalog _ _ _ _⟩
  rcases all_ok_or_first_error (files.map (render compiler (.toSelf target) action)) with
    ⟨done, each⟩ | ⟨done, failure, later, split⟩
  · have executed := reports_execute_of_rendered prepared made clauses each
    have length_eq : done.length = files.length := by
      simpa using (congrArg List.length each).symm
    cases encoding : Text.encodingFault? (resultText done) with
    | none =>
        rw [encoding, length_eq] at executed
        obtain ⟨session, opened, ends⟩ := exists_session_of_ok prepared executed
        exact ⟨compiler, session, made, opened, .inl ⟨done, resultText done, each,
          encodingFault?_resultText_iff.mp encoding, read_resultText clauses each, ends⟩⟩
    | some fault =>
        rw [encoding] at executed
        obtain ⟨session, opened, ends⟩ := exists_session_of_error prepared executed
        refine ⟨compiler, session, made, opened, .inr (.inl ⟨done, fault, each, ?_, ends⟩)⟩
        intro bytes
        rw [encodingFault?_resultText_iff.mpr bytes] at encoding
        cases encoding
  · have executed := reports_execute_of_failure prepared made clauses split
    obtain ⟨session, opened, ends⟩ := exists_session_of_error prepared executed
    obtain ⟨front, rest, -, -, restSplit⟩ := List.map_eq_append_iff.mp split
    obtain ⟨file, back, -, render_eq, -⟩ := List.map_eq_cons_iff.mp restSplit
    rw [leftFiles_of_render render_eq] at ends
    exact ⟨compiler, session, made, opened, .inr (.inr ⟨done, failure, later, split, ends⟩)⟩

end Session

/-! ## Two sessions -/

/-- Settings of two linked indexes, with results for the console and a file. -/
def reportingEntries : Entries :=
  Settings.linkedEntries ++
    [(.text "output", .map
      [(.text "formats", .list [.scalar (.text "console"), .scalar (.text "json")])])]

/-- The settings of that mapping. -/
def reportingSettings : Settings :=
  { Settings.linkedSettings with output := ⟨"output", ["console", "json"]⟩ }

theorem ofEntries_reportingEntries :
    Settings.ofEntries reportingEntries = .ok reportingSettings := by
  rfl

/-- Some time. -/
def newYear : Stamps :=
  ⟨"0101000000", "20000101_000000"⟩

theorem prepared_reportingSettings :
    Prepared reportingSettings .dump none (.ofFiles []) newYear (Settings.single 'p')
      ⟨some 20, none⟩ where
  json := by decide
  chosen := rfl
  configured := rfl
  accessible := ⟨by decide +kernel, by decide +kernel⟩

/-- A file of single bytes. -/
def asciiFile (path text : String) : QueryFile :=
  ⟨path, text.toList.map fun char => char.toNat.toUInt8⟩

/-- A file that holds a query. -/
def plainFile : QueryFile :=
  asciiFile "a.yml" "eq: \x7bfield: f, string: b\x7d"

/-- A file whose only byte starts no character. -/
def brokenFile : QueryFile :=
  ⟨"b.yml", [0xFF]⟩

/-- The failure of that file. -/
def brokenFailure : Failure :=
  .file (.undecodable ⟨.invalidStart, 0, 1, 0xFF⟩)

/-- Whether settings describe a compiler with which a file is rendered. -/
def isRendered (settings : Settings) (target : Entity) (action : Action) (file : QueryFile) :
    Bool :=
  match settings.toCompiler.outcome with
  | .ok compiler => (errorOf? (render compiler (.toSelf target) action file)).isNone
  | .error _ => false

theorem exists_render
    {settings : Settings}
    {compiler : Compiler}
    {target : Entity}
    {action : Action}
    {file : QueryFile}
    (made : settings.toCompiler.outcome = .ok compiler)
    (renders : isRendered settings target action file = true) :
    ∃ rendered, render compiler (.toSelf target) action file = .ok rendered := by
  rw [isRendered, made] at renders
  replace renders : (errorOf? (render compiler (.toSelf target) action file)).isNone = true :=
    renders
  exact errorOf?_eq_none_iff.mp (Option.isNone_iff_eq_none.mp renders)

/-- The second file fails: the first one was shown, and the third is not looked
at. -/
theorem ofAction_interrupted :
    Settings.ofEntries reportingEntries = .ok reportingSettings ∧
    Prepared reportingSettings .dump none (.ofFiles []) newYear (Settings.single 'p')
      ⟨some 20, none⟩ ∧
    ∃ compiler session rendered,
      reportingSettings.toCompiler.outcome = .ok compiler ∧
      Session.ofAction reportingSettings .dump none (.ofFiles [])
        [plainFile, brokenFile, plainFile] newYear = .ok session ∧
      render compiler (.toSelf (Settings.single 'p')) .dump plainFile = .ok rendered ∧
      Ends session false []
        (shown true [rendered] ++ [.failed "dump" brokenFailure.message]) := by
  obtain ⟨compiler, session, made, opened, ended⟩ :=
    ofAction_all_or_nothing ofEntries_reportingEntries prepared_reportingSettings
      [plainFile, brokenFile, plainFile]
  have renders : isRendered reportingSettings (Settings.single 'p') .dump plainFile = true := by
    decide +kernel
  obtain ⟨rendered, render_eq⟩ := exists_render made renders
  have outcomes :
      [plainFile, brokenFile, plainFile].map
          (render compiler (.toSelf (Settings.single 'p')) .dump) =
        [.ok rendered, .error brokenFailure, .ok rendered] := by
    have broken :
        render compiler (.toSelf (Settings.single 'p')) .dump brokenFile = .error brokenFailure :=
      render_of_unloaded rfl
    rw [List.map_cons, List.map_cons, List.map_cons, List.map_nil, render_eq, broken]
  refine ⟨ofEntries_reportingEntries, prepared_reportingSettings, compiler, session, rendered,
    made, opened, render_eq, ?_⟩
  have notAll :
      ∀ done : List Rendered,
        [.ok rendered, .error brokenFailure, .ok rendered] ≠ done.map Except.ok := by
    intro done each
    have member : Except.error brokenFailure ∈ done.map Except.ok := by
      rw [← each]
      exact List.mem_cons_of_mem _ List.mem_cons_self
    simp at member
  rw [outcomes] at ended
  rcases ended with ⟨done, _, each, -⟩ | ⟨done, _, each, -⟩ | ⟨done, failure, later, split, ends⟩
  · exact absurd each (notAll done)
  · exact absurd each (notAll done)
  · cases done with
    | nil => cases split
    | cons first rest =>
        obtain ⟨firstSame, restSame⟩ := List.cons.inj split
        cases rest with
        | nil =>
            obtain ⟨failureSame, -⟩ := List.cons.inj restSame
            obtain rfl := Except.ok.inj firstSame
            obtain rfl := Except.error.inj failureSame
            exact ends
        | cons second others => cases (List.cons.inj restSame).1

/-- A document with the two halves of a surrogate pair as escapes. -/
def surrogateFile : QueryFile :=
  asciiFile "q.yml" "eq: \x7bfield: f, string: \"\\ud83d\\ude00\"\x7d"

/-- Whether a session failed and left an empty file at a path. -/
def isLeftEmpty (path : Text) : Except PathFault Session → Bool
  | .ok session => decide (session.succeeded = false ∧ session.results = [(path, ("" : Text))])
  | .error _ => false

theorem exists_of_isLeftEmpty
    {path : Text}
    {outcome : Except PathFault Session}
    (left : isLeftEmpty path outcome = true) :
    ∃ session, outcome = .ok session ∧
      session.succeeded = false ∧ session.results = [(path, ("" : Text))] := by
  cases outcome with
  | error fault => cases left
  | ok session => exact ⟨session, rfl, of_decide_eq_true left⟩

/-- A document that loads and compiles may still leave the file without its entry:
the file was opened, and its text has no bytes. -/
theorem ofAction_surrogateFile :
    Settings.ofEntries reportingEntries = .ok reportingSettings ∧
    Prepared reportingSettings .dump none (.ofFiles []) newYear (Settings.single 'p')
      ⟨some 20, none⟩ ∧
    ∃ compiler query compiled session,
      reportingSettings.toCompiler.outcome = .ok compiler ∧
      surrogateFile.query = .ok query ∧
      (compiler.compile (.toSelf (Settings.single 'p')) query).outcome = .ok compiled ∧
      Session.ofAction reportingSettings .dump none (.ofFiles []) [surrogateFile] newYear =
        .ok session ∧
      session.succeeded = false ∧
      session.results = [(resultFile reportingSettings .dump newYear.report, ("" : Text))] := by
  obtain ⟨catalog, snapshot, made, -, -⟩ :=
    (Settings.consistent_of_ofEntries ofEntries_reportingEntries).exists_compiler
  have renders : isRendered reportingSettings (Settings.single 'p') .dump surrogateFile = true := by
    decide +kernel
  obtain ⟨rendered, render_eq⟩ := exists_render made renders
  obtain ⟨query, content, result, loaded, rendering_eq, -⟩ := render_eq_ok_iff.mp render_eq
  obtain ⟨compiled, compiles, -⟩ := rendering_dump_eq_ok_iff.mp rendering_eq
  have left :
      isLeftEmpty (resultFile reportingSettings .dump newYear.report)
        (Session.ofAction reportingSettings .dump none (.ofFiles []) [surrogateFile] newYear) =
          true := by
    decide +kernel
  obtain ⟨session, opened, failed, empty⟩ := exists_of_isLeftEmpty left
  exact ⟨ofEntries_reportingEntries, prepared_reportingSettings, _, query, compiled, session, made,
    loaded, compiles, opened, failed, empty⟩

end LinkedQuery.Command
