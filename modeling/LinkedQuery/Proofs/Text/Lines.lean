import LinkedQuery.Proofs.Text
import LinkedQuery.Text.Lines

/-!
Contract: the lines of a text, put together again.

Owns:
- the list of all line ends;
- the lines after one code point more;
- a text with each of its line ends turned into a line feed;
- the lines joined by line feeds, which are that text.

Does not own: texts with carriage returns or with a line end at the very end,
whose lines do not tell these apart.
-/

namespace LinkedQuery.Text

variable {code : CodePoint} {codes : List CodePoint}

/-- All line ends. -/
def lineEnds : List CodePoint :=
  ['\n', '\r', '\x0b', '\x0c', '\x1c', '\x1d', '\x1e', '\u0085', '\u2028', '\u2029']

theorem isLineEnd_iff : isLineEnd code = true ↔ code ∈ lineEnds := by
  simp [isLineEnd, lineEnds, or_assoc]

/-! ## One code point more -/

theorem lines_cons_lineEnd (ends : isLineEnd code = true) (noReturn : code ≠ '\r') :
    lines (code :: codes) = [] :: lines codes := by
  rw [lines]
  · rw [if_pos ends]
  · rintro rest rfl -
    exact noReturn rfl

theorem lines_cons_of_inside (inside : isLineEnd code = false) :
    lines (code :: codes) =
      match lines codes with
      | [] => [[code]]
      | line :: others => (code :: line) :: others := by
  rw [lines]
  · rw [if_neg (Bool.eq_false_iff.mp inside)]
    cases lines codes <;> rfl
  · rintro rest rfl -
    cases inside

theorem lines_ne_nil (nonempty : codes ≠ []) : lines codes ≠ [] := by
  fun_cases lines codes with
  | case1 => exact absurd rfl nonempty
  | case2 rest => exact List.cons_ne_nil _ _
  | case3 code rest => exact List.cons_ne_nil _ _
  | case4 code rest =>
      cases lines rest with
      | nil => exact List.cons_ne_nil _ _
      | cons line others => exact List.cons_ne_nil _ _

/-! ## Line feeds -/

/-- A code point, or a line feed if it ends a line. -/
def feedFor (code : CodePoint) : CodePoint :=
  if isLineEnd code then '\n' else code

/-- A text with a line feed for each line end. -/
def withFeeds (codes : List CodePoint) : List CodePoint :=
  codes.map feedFor

theorem feedFor_eq_self_iff : feedFor code = code ↔ (isLineEnd code = true → code = '\n') := by
  unfold feedFor
  cases isLineEnd code with
  | false => simp
  | true => simp [eq_comm]

theorem withFeeds_eq_self_iff :
    withFeeds codes = codes ↔ ∀ code ∈ codes, isLineEnd code = true → code = '\n' := by
  simp only [← feedFor_eq_self_iff]
  induction codes with
  | nil => simp [withFeeds]
  | cons code codes inductionHypothesis =>
      rw [withFeeds, List.map_cons, List.cons.injEq, List.forall_mem_cons, ← inductionHypothesis,
        withFeeds]

/-- The lines of a text without carriage returns that does not stop at a line end, joined
by line feeds, are the text with a line feed for each line end. -/
theorem intercalate_lines
    (noReturn : ∀ code ∈ codes, code ≠ '\r')
    (stops : ∀ code ∈ codes.getLast?, isLineEnd code = false) :
    [CodePoint.char '\n'].intercalate (lines codes) = withFeeds codes := by
  induction codes with
  | nil => rfl
  | cons code codes inductionHypothesis =>
      obtain ⟨isNoReturn, restNoReturn⟩ := List.forall_mem_cons.mp noReturn
      have restStops : ∀ last ∈ codes.getLast?, isLineEnd last = false := by
        intro last member
        apply stops last
        rw [List.getLast?_cons, Option.mem_def.mp member]
        rfl
      have joined := inductionHypothesis restNoReturn restStops
      rw [withFeeds, List.map_cons, ← withFeeds, ← joined, feedFor]
      cases ends : isLineEnd code with
      | true =>
          have nonempty : codes ≠ [] := by
            rintro rfl
            exact Bool.false_ne_true ((stops code rfl).symm.trans ends)
          rw [lines_cons_lineEnd ends isNoReturn,
            List.intercalate_cons_of_ne_nil (lines_ne_nil nonempty)]
          rfl
      | false =>
          rw [lines_cons_of_inside ends]
          cases lines codes with
          | nil => rfl
          | cons line others => exact (append_intercalate [code] line others).symm

end LinkedQuery.Text
