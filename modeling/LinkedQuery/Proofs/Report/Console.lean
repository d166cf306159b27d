import LinkedQuery.Proofs.Json.LineEnds
import LinkedQuery.Proofs.Report

/-!
Contract: the console shows the text of a query.

Owns:
- the lines that the console shows for a dumped query, and what they make when
  they are joined;
- when they make the text again, and what is read from them.

Does not own: how a record of the log is written.
-/

namespace LinkedQuery.Report

open Json
open Text (joinWith splitLines withFeeds)

/-- A report that only shows. -/
def onConsole : Report :=
  ⟨[.console], []⟩

theorem write_onConsole (source content : Text) :
    onConsole.write source content =
      ⟨.heading source :: (splitLines content).map Event.line, .ok onConsole⟩ := by
  unfold write
  rw [Traced.emitAll_bind]
  show (⟨(_ ++ []) ++ [], _⟩ : Traced Fault Report) = _
  rw [List.append_nil, List.append_nil]
  rfl

/-- The text of a compiled query, if it has one, is shown after a heading in lines
that make, joined by line feeds, the text with a line feed for each of its line
ends.  That is the text again just if no string of the query, key or not, holds a
line end beyond ASCII, and only then the lines read back, as the query that the
text stands for in a file; otherwise they are no JSON. -/
theorem console_shows_dump
    {compiler : Compiler}
    {root : Link}
    {expr : Expr}
    {query : Dsl}
    (compiled : (compiler.compile root expr).outcome = .ok query) :
    (query.toJson.isOverlong = true →
      (compiler.dump root expr).outcome = .error (.overlong .written)) ∧
    (query.toJson.isOverlong = false →
      ∃ content,
        (compiler.dump root expr).outcome = .ok content ∧
        (compiler.ClausesDistinct → resultOf content = .ok query.toJson) ∧
        ∀ source, ∃ shown,
          onConsole.write source content =
            ⟨.heading source :: shown.map Event.line, .ok onConsole⟩ ∧
          (joinWith "\n" shown).toList = withFeeds content.toList ∧
          (joinWith "\n" shown = content ↔ query.toJson.KeepsLines) ∧
          (compiler.ClausesDistinct →
            Json.read (joinWith "\n" shown) =
              if query.toJson.KeepsLines then .ok query.toJson else .error .malformed)) := by
  refine ⟨Compiler.dump_of_isOverlong compiled, fun short => ?_⟩
  have dumped := Compiler.dump_eq_ok_iff.mpr ⟨query, compiled, short, rfl⟩
  have printable : compiler.ClausesDistinct → query.toJson.Printable :=
    fun clauses => Compiler.printable_compile clauses compiled short
  refine ⟨query.toJson.text, dumped, fun clauses => ?_, fun source => ?_⟩
  · exact (Renders.dump clauses compiled dumped).resultOf_eq
  · exact ⟨splitLines query.toJson.text, write_onConsole source _,
      toList_joinWith_splitLines_text _, joinWith_splitLines_text_eq_iff,
      fun clauses => read_joinWith_splitLines_text (printable clauses)⟩

section Crossing

open LinkedQuery.Topology
open LinkedQuery.Compiler

/-- A comparison with a value. -/
def valued (value : Text) : Expr :=
  .comparison .eq ⟨"f"⟩ (.string value none)

/-- The compiled comparison. -/
def valuedQuery (value : Text) : Dsl :=
  .leaf (.term "f" value Double.one)

theorem compile_valued (value : Text) :
    ((atRest crossing).compile (about 'a') (valued value)).outcome =
      .ok (valuedQuery value) := rfl

theorem console_shows_feedInValue :
    ((atRest crossing).compile (about 'a') (valued "é\nb")).outcome =
      .ok (valuedQuery "é\nb") ∧
    ∃ content shown,
      ((atRest crossing).dump (about 'a') (valued "é\nb")).outcome = .ok content ∧
      onConsole.write "q.yml" content =
        ⟨.heading "q.yml" :: shown.map Event.line, .ok onConsole⟩ ∧
      joinWith "\n" shown = content ∧
      Json.read (joinWith "\n" shown) = .ok (valuedQuery "é\nb").toJson := by
  have compiled := compile_valued "é\nb"
  have short : (valuedQuery "é\nb").toJson.isOverlong = false := by decide +kernel
  have keeps : (valuedQuery "é\nb").toJson.KeepsLines := by decide +kernel
  obtain ⟨content, dumped, -, shows⟩ := (console_shows_dump compiled).2 short
  obtain ⟨shown, written, -, same, reads⟩ := shows "q.yml"
  have readsBack := reads (clausesDistinct_ofCatalog _ _ _ _)
  rw [if_pos keeps] at readsBack
  exact ⟨compiled, content, shown, dumped, written, same.mpr keeps, readsBack⟩

/-- A line separator in a value parts its line, and the lines are no JSON. -/
theorem console_parts_value :
    ∃ content shown,
      ((atRest crossing).dump (about 'a') (valued "a\u2028b")).outcome = .ok content ∧
      onConsole.write "q.yml" content =
        ⟨.heading "q.yml" :: shown.map Event.line, .ok onConsole⟩ ∧
      joinWith "\n" shown ≠ content ∧
      Json.read (joinWith "\n" shown) = .error .malformed := by
  have dumped :
      ((atRest crossing).dump (about 'a') (valued "a\u2028b")).outcome =
        .ok (valuedQuery "a\u2028b").toJson.text :=
    dump_eq_ok_iff.mpr ⟨_, compile_valued _, by decide +kernel, rfl⟩
  have malformed :
      errorOf? (Json.read (joinWith "\n" (splitLines (valuedQuery "a\u2028b").toJson.text))) =
        some .malformed := by
    decide +kernel
  exact ⟨_, _, dumped, write_onConsole _ _, by decide +kernel,
    errorOf?_eq_some_iff.mp malformed⟩

end Crossing

end LinkedQuery.Report
