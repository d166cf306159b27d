import LinkedQuery.Expr.Tree
import LinkedQuery.Proofs.Compiler.Discovery
import LinkedQuery.Proofs.Compiler.Dump
import LinkedQuery.Proofs.Json.Strings
import LinkedQuery.Proofs.Trail
import LinkedQuery.Report

/-!
Contract: the file of a report carries what was reported.

Owns:
- contents that were rendered from queries, and the results that they stand for;
- the entries of a report after any calls;
- when a report leaves a file, and what is read from that file.

Does not own: the order in which a command makes its calls.
-/

namespace LinkedQuery

open Json

/-! ## Descriptions -/

/-- A description is no JSON: it starts with a letter that starts no value. -/
theorem Expr.read_description (expr : Expr) : Json.read expr.description = .error .malformed := by
  obtain ⟨rest, split⟩ :
      ∃ rest, expr.description.toList = .char 'N' :: .char 'o' :: rest := ⟨_, rfl⟩
  have noWord : readWord? (.char 'N' :: .char 'o' :: rest) = none := by
    simp [readWord?, wordValues, Text.ofString, Text.ofChars]
  have noValue :
      readValue (expr.description.length + 1) (.char 'N' :: .char 'o' :: rest) =
        .error .malformed := by
    rw [readValue]
    · rw [noWord]
      rfl
    · rintro rest ⟨⟩
    · rintro rest ⟨⟩
    · rintro rest ⟨⟩
  unfold Json.read
  rw [split, skipSpace_of_head rfl, noValue]
  rfl

namespace Report

/-- A content that was rendered from a query, and the result that it stands
for. -/
inductive Renders : Text → Json → Prop
  /-- The text of a compiled query stands for that query. -/
  | dump
      {compiler : Compiler}
      {root : Link}
      {expr : Expr}
      {query : Dsl}
      {content : Text}
      (clauses : compiler.ClausesDistinct)
      (compiled : (compiler.compile root expr).outcome = .ok query)
      (dumped : (compiler.dump root expr).outcome = .ok content) :
      Renders content query.toJson
  /-- The description of a query stands for its lines. -/
  | debug
      {expr : Expr}
      (short : expr.isOverlong = false) :
      Renders expr.description (.array ((Text.splitLines expr.description).map Json.string))

variable {content : Text} {result : Json}

theorem Renders.printable (renders : Renders content result) : result.Printable := by
  cases renders with
  | dump clauses compiled dumped =>
      obtain ⟨query, alsoCompiled, short, -⟩ := Compiler.dump_eq_ok_iff.mp dumped
      obtain rfl := Except.ok.inj (compiled.symm.trans alsoCompiled)
      exact Compiler.printable_compile clauses compiled short
  | debug short =>
      apply printable_array
      intro item member
      obtain ⟨line, -, rfl⟩ := List.mem_map.mp member
      exact printable_string line

theorem Renders.resultOf_eq (renders : Renders content result) :
    resultOf content = .ok result := by
  have printable := renders.printable
  cases renders with
  | dump clauses compiled dumped =>
      obtain ⟨query, alsoCompiled, -, rfl⟩ := Compiler.dump_eq_ok_iff.mp dumped
      obtain rfl := Except.ok.inj (compiled.symm.trans alsoCompiled)
      rw [resultOf, read_text printable]
  | debug short => rw [resultOf, Expr.read_description]

/-! ## Calls -/

/-- A call on a report. -/
inductive Call
  | write (source content : Text)
  | finish (tree : FileTree) (action stamp : Text)

/-- The report after a call: a result that is not taken and an end of an action
leave it as it was. -/
def after (report : Report) : Call → Report
  | .write source content =>
      match (report.write source content).outcome with
      | .ok next => next
      | .error _ => report
  | .finish _ _ _ => report

/-- The report after some calls on a new one, which gathers for a file under a
directory. -/
def gathered (directory : Text) (calls : List Call) : Report :=
  calls.foldl after ⟨[.jsonFile directory], []⟩

/-- Calls whose contents were rendered from queries, and the entries that they
report in order. -/
inductive Reports : List Call → List ReportEntry → Prop
  | nil : Reports [] []
  | write
      {source content : Text}
      {result : Json}
      {calls : List Call}
      {entries : List ReportEntry}
      (renders : Renders content result)
      (rest : Reports calls entries) :
      Reports (.write source content :: calls) (⟨source, result⟩ :: entries)
  | finish
      {tree : FileTree}
      {action stamp : Text}
      {calls : List Call}
      {entries : List ReportEntry}
      (rest : Reports calls entries) :
      Reports (.finish tree action stamp :: calls) entries

variable {report : Report} {calls : List Call} {entries : List ReportEntry}

/-- A rendered content is taken, and every writer shows it in its way. -/
theorem write_eq
    (gathers : report.gathers = true)
    (renders : Renders content result)
    (source : Text) :
    report.write source content =
      ⟨report.writers.flatMap (writerEvents source content),
        .ok { report with entries := report.entries ++ [⟨source, result⟩] }⟩ := by
  unfold write
  rw [gathers, renders.resultOf_eq, Traced.emitAll_bind]
  show (⟨_ ++ [], _⟩ : Traced Fault Report) = _
  rw [List.append_nil]
  rfl

/-- Calls add their entries to those of the report. -/
theorem foldl_after (gathers : report.gathers = true) (reports : Reports calls entries) :
    calls.foldl after report = { report with entries := report.entries ++ entries } := by
  induction reports generalizing report with
  | nil => rw [List.foldl_nil, List.append_nil]
  | @write source content result calls entries renders rest inductionHypothesis =>
      have taken :
          report.after (.write source content) =
            { report with entries := report.entries ++ [⟨source, result⟩] } := by
        rw [after, write_eq gathers renders]
      have stillGathers :
          Report.gathers ⟨report.writers, report.entries ++ [⟨source, result⟩]⟩ = true := gathers
      rw [List.foldl_cons, taken, inductionHypothesis stillGathers]
      simp only [List.append_assoc, List.singleton_append]
  | finish rest inductionHypothesis => exact inductionHypothesis gathers

theorem Reports.printable (reports : Reports calls entries) :
    ∀ entry ∈ entries, entry.result.Printable := by
  induction reports with
  | nil => simp
  | write renders rest inductionHypothesis =>
      exact List.forall_mem_cons.mpr ⟨renders.printable, inductionHypothesis⟩
  | finish rest inductionHypothesis => exact inductionHypothesis

/-- The text of printable entries reads back. -/
theorem read_entriesJson (printable : ∀ entry ∈ report.entries, entry.result.Printable) :
    Json.read report.entriesJson.text = .ok (.array (report.entries.map entryJson)) := by
  apply read_text
  apply printable_array
  intro item member
  obtain ⟨entry, entryMember, rfl⟩ := List.mem_map.mp member
  apply printable_object
  · show [("source" : Text), "result"].Nodup
    decide
  · simp only [List.forall_mem_cons]
    exact ⟨printable_string entry.source, printable entry entryMember, by simp⟩

/-- Whether the source of an entry and all strings of its result have bytes. -/
def HasBytes (entry : ReportEntry) : Prop :=
  ∀ string ∈ entry.source :: entry.result.strings, Text.encodingFault? string = none

/-- The text of a report has bytes just if all entries have. -/
theorem encodingFault?_entriesJson_iff :
    Text.encodingFault? report.entriesJson.text = none ↔ ∀ entry ∈ report.entries, HasBytes entry := by
  rw [encodingFault?_text_iff]
  show (∀ string ∈ stringsOfAll (report.entries.map entryJson), _) ↔ _
  induction report.entries with
  | nil => simp [stringsOfAll]
  | cons entry rest inductionHypothesis =>
      have keys : Text.encodingFault? "source" = none ∧ Text.encodingFault? "result" = none := by
        decide
      rw [List.map_cons, stringsOfAll, List.forall_mem_append, inductionHypothesis,
        List.forall_mem_cons]
      simp [entryJson, strings, stringsOfFields, HasBytes, keys]

/-- Whether nothing about a directory and a file in it keeps a report from being
written. -/
structure Accessible (tree : FileTree) (directory action : Text) : Prop where
  directory_free : tree.directoryFault? directory = none
  file_free :
    (tree.withDirectory directory).fileFault? (filePath directory action sampleStamp) = none

/-- A file is opened if its path is accessible, and filled if its text has bytes. -/
theorem finishWriter_of_accessible
    {tree : FileTree}
    {directory action : Text}
    (accessible : Accessible tree directory action)
    (report : Report)
    (stamp : Text) :
    report.finishWriter tree action stamp (.jsonFile directory) =
      match Text.encodingFault? report.entriesJson.text with
      | some fault => .fail (.unencodable (filePath directory action stamp) fault)
      | none =>
          ⟨[.wrote report.entries.length (filePath directory action stamp)],
            .ok [(filePath directory action stamp, report.entriesJson.text)]⟩ := by
  unfold finishWriter
  simp only [accessible.directory_free, accessible.file_free]
  cases Text.encodingFault? report.entriesJson.text <;> rfl

theorem accessible_of_finishWriter
    {tree : FileTree}
    {directory action stamp : Text}
    {files : List (Text × Text)}
    (finished : (report.finishWriter tree action stamp (.jsonFile directory)).outcome = .ok files) :
    Accessible tree directory action := by
  unfold finishWriter at finished
  cases directoryFault : tree.directoryFault? directory with
  | some fault =>
      simp only [directoryFault] at finished
      cases finished
  | none =>
      simp only [directoryFault] at finished
      cases fileFault :
          (tree.withDirectory directory).fileFault? (filePath directory action sampleStamp) with
      | some fault =>
          simp only [fileFault] at finished
          cases finished
      | none => exact ⟨directoryFault, fileFault⟩

/-- Only the file is left to the end of an action. -/
theorem finish_eq_finishWriter
    {console : Bool}
    {directory : Text}
    (writers_eq : report.writers = (if console then [.console] else []) ++ [.jsonFile directory])
    (tree : FileTree)
    (action stamp : Text) :
    report.finish tree action stamp =
      report.finishWriter tree action stamp (.jsonFile directory) := by
  have last :
      report.finishAll tree action stamp [.jsonFile directory] =
        report.finishWriter tree action stamp (.jsonFile directory) := by
    simp only [finishAll, Traced.ok_bind, List.append_nil, Traced.bind_pure]
  rw [finish, writers_eq]
  cases console with
  | false => exact last
  | true =>
      show report.finishAll tree action stamp (.console :: [.jsonFile directory]) = _
      rw [finishAll, finishWriter, Traced.ok_bind, last]
      exact Traced.bind_pure _

/-- The end of an action with a single file: the file is written just if its path
is accessible and its text has bytes. -/
theorem finish_eq_ok_iff
    {tree : FileTree}
    {directory action stamp : Text}
    {files : List (Text × Text)}
    (single : report.writers = [.jsonFile directory]) :
    (report.finish tree action stamp).outcome = .ok files ↔
      Accessible tree directory action ∧
      Text.encodingFault? report.entriesJson.text = none ∧
      files = [(filePath directory action stamp, report.entriesJson.text)] := by
  rw [@finish_eq_finishWriter report false directory single]
  constructor
  · intro finished
    have accessible := accessible_of_finishWriter finished
    rw [finishWriter_of_accessible accessible] at finished
    cases encoding : Text.encodingFault? report.entriesJson.text with
    | some fault =>
        rw [encoding] at finished
        cases finished
    | none =>
        rw [encoding] at finished
        exact ⟨accessible, rfl, (Except.ok.inj finished).symm⟩
  · rintro ⟨accessible, encoding, rfl⟩
    rw [finishWriter_of_accessible accessible, encoding]

/-- The text of a compiled query, if it has one, reads back as that query, and it
has one unless an integer of the query is too long.  After any calls whose
contents were rendered from queries, a report holds one entry for each content
in order.  It writes its file just if the path is accessible and the strings of
the entries have bytes, and the file reads back as the list of these entries. -/
theorem finish_reads_back
    {compiler : Compiler}
    {root : Link}
    {expr : Expr}
    {query : Dsl}
    (clauses : compiler.ClausesDistinct)
    (compiled : (compiler.compile root expr).outcome = .ok query)
    (reports : Reports calls entries)
    (directory : Text) :
    (query.toJson.isOverlong = false →
      ∃ text,
        (compiler.dump root expr).outcome = .ok text ∧
        Json.read text = .ok query.toJson) ∧
    (query.toJson.isOverlong = true →
      (compiler.dump root expr).outcome = .error (.overlong .written)) ∧
    (gathered directory calls).entries = entries ∧
    ∃ text,
      Json.read text = .ok (.array (entries.map entryJson)) ∧
      ∀ tree action stamp files,
        ((gathered directory calls).finish tree action stamp).outcome = .ok files ↔
          Accessible tree directory action ∧
          (∀ entry ∈ entries, HasBytes entry) ∧
          files = [(filePath directory action stamp, text)] := by
  have held : gathered directory calls = ⟨[.jsonFile directory], entries⟩ :=
    foldl_after rfl reports
  rw [held]
  refine ⟨?_, Compiler.dump_of_isOverlong compiled, rfl, _,
    @read_entriesJson ⟨[.jsonFile directory], entries⟩ reports.printable, ?_⟩
  · intro short
    refine ⟨query.toJson.text, Compiler.dump_eq_ok_iff.mpr ⟨query, compiled, short, rfl⟩, ?_⟩
    exact read_text (Compiler.printable_compile clauses compiled short)
  · intro tree action stamp files
    rw [← @encodingFault?_entriesJson_iff ⟨[.jsonFile directory], entries⟩]
    exact finish_eq_ok_iff rfl

/-! ## Two entries -/

section Crossing

open LinkedQuery.Topology
open LinkedQuery.Compiler

/-- Two comparisons on `b`, one with a text that needs escapes. -/
def quotedPair : Expr :=
  .linked (joinTo 'b')
    (.andAll
      [.comparison .contains ⟨"f"⟩ (.string "say \"é\"" none),
       .comparison .contains ⟨"g"⟩ (.fuzzy "x" 2 none)])

/-- The compiled query of the pair. -/
def quotedPairQuery : Dsl :=
  .subselect "B" "t" (joinTo 'b').left (joinTo 'b').right
    (.filtered
      (.must [.leaf (.term "f" "say \"é\"" Double.one), .leaf (.fuzzy "g" "x" 2 Double.one)])
      (quiet.clause "B" "t"))

theorem compile_quotedPair :
    ((atRest crossing).compile (about 'a') quotedPair).outcome = .ok quotedPairQuery := by
  have found :
      ((atRest crossing).resolvePath (about 'a') (lettered 'b')).outcome.toOption =
        some [joinTo 'b'] := by
    decide +kernel
  rw [quotedPair, compile_linked_outcome]
  cases resolved : ((atRest crossing).resolvePath (about 'a') (lettered 'b')).outcome with
  | error error =>
      rw [resolved] at found
      cases found
  | ok path =>
      rw [resolved] at found
      obtain rfl := Option.some.inj found
      show ((atRest crossing).resolvePath (about 'a') (lettered 'b')).outcome.bind _ = _
      rw [resolved]
      rfl

theorem quotedPairQuery_short : quotedPairQuery.toJson.isOverlong = false := by
  decide +kernel

/-- The text of the query goes to a file, and after that the description. -/
def quotedPairCalls : List Call :=
  [.write "a.yml" quotedPairQuery.toJson.text, .finish (.ofFiles []) "dump" sampleStamp,
   .write "b.yml" quotedPair.description]

/-- The entries of these calls. -/
def quotedPairEntries : List ReportEntry :=
  [⟨"a.yml", quotedPairQuery.toJson⟩,
   ⟨"b.yml", .array ((Text.splitLines quotedPair.description).map Json.string)⟩]

theorem reports_quotedPairCalls : Reports quotedPairCalls quotedPairEntries := by
  have dumped :
      ((atRest crossing).dump (about 'a') quotedPair).outcome =
        .ok quotedPairQuery.toJson.text :=
    dump_eq_ok_iff.mpr ⟨_, compile_quotedPair, quotedPairQuery_short, rfl⟩
  have described : Renders quotedPair.description
      (.array ((Text.splitLines quotedPair.description).map Json.string)) :=
    .debug (by decide +kernel)
  exact .write (.dump (clausesDistinct_ofCatalog _ _ _ _) compile_quotedPair dumped)
    (.finish (.write described .nil))

theorem finish_reads_back_quotedPair :
    (atRest crossing).ClausesDistinct ∧
    ((atRest crossing).compile (about 'a') quotedPair).outcome = .ok quotedPairQuery ∧
    Reports quotedPairCalls quotedPairEntries ∧
    ∃ text written,
      ((atRest crossing).dump (about 'a') quotedPair).outcome = .ok text ∧
      Json.read text = .ok quotedPairQuery.toJson ∧
      (gathered "out" quotedPairCalls).entries = quotedPairEntries ∧
      Json.read written = .ok (.array (quotedPairEntries.map entryJson)) ∧
      ((gathered "out" quotedPairCalls).finish (.ofFiles []) "dump" sampleStamp).outcome =
        .ok [(filePath "out" "dump" sampleStamp, written)] := by
  have clauses : (atRest crossing).ClausesDistinct := clausesDistinct_ofCatalog _ _ _ _
  obtain ⟨dumps, -, entries_eq, written, writtenRead, finishes⟩ :=
    finish_reads_back clauses compile_quotedPair reports_quotedPairCalls "out"
  obtain ⟨text, dumped, textRead⟩ := dumps quotedPairQuery_short
  have accessible : Accessible (.ofFiles []) "out" "dump" := ⟨by decide +kernel, by decide +kernel⟩
  have bytes : ∀ entry ∈ quotedPairEntries, HasBytes entry := by
    unfold HasBytes
    decide +kernel
  exact ⟨clauses, compile_quotedPair, reports_quotedPairCalls, text, written, dumped, textRead,
    entries_eq, writtenRead, (finishes _ _ _ _).mpr ⟨accessible, bytes, rfl⟩⟩

/-- A comparison with a distance of more digits than can be written. -/
def overlongFuzzy : Expr :=
  .comparison .contains ⟨"f"⟩ (.fuzzy "x" (Nat.pow 10 maxDigits) none)

/-- Not every compiled query has a text: the fault of writing a distance that is
too long takes its place. -/
theorem dump_overlongFuzzy :
    (∃ query, ((atRest crossing).compile (about 'a') overlongFuzzy).outcome = .ok query) ∧
    ((atRest crossing).dump (about 'a') overlongFuzzy).outcome =
      .error (.overlong .written) := by
  have compiled :
      ((atRest crossing).compile (about 'a') overlongFuzzy).outcome =
        .ok (.leaf (.fuzzy "f" "x" (Nat.pow 10 maxDigits) Double.one)) := rfl
  refine ⟨⟨_, compiled⟩, dump_of_isOverlong compiled ?_⟩
  have ofDistance :
      ∀ distance : Nat,
        (Leaf.fuzzy "f" "x" distance Double.one).toJson.isOverlong =
          LinkedQuery.isOverlong distance := by
    intro distance
    simp [Leaf.toJson, Leaf.single, Json.isOverlong, Json.anyFieldOverlong]
  rw [Dsl.toJson, ofDistance]
  exact isOverlong_natCast_iff.mpr (Nat.le_refl _)

end Crossing

end Report

end LinkedQuery
