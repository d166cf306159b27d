import LinkedQuery.Text.Blank
import LinkedQuery.Text.Word
import Mathlib.Data.List.TakeWhile

/-!
Contract: white space around text, and the pieces between separators.

Owns:
- white space as a property of a gap, and what trimming does with gaps;
- white space and word characters, which are different characters;
- the pieces of a text, and how they are put together again.

Does not own: what the pieces mean.
-/

namespace LinkedQuery.Text

/-! ## Characters -/

theorem Intervals.exists_of_holds
    {intervals : Intervals}
    {code : Nat}
    (held : intervals.holds code = true) :
    ∃ interval ∈ intervals, interval.1 ≤ code ∧ code ≤ interval.2 := by
  induction intervals with
  | nil => cases held
  | cons interval rest inductionHypothesis =>
      unfold holds at held
      split at held
      · cases held
      · split at held
        · exact ⟨interval, List.mem_cons_self, by omega, by omega⟩
        · obtain ⟨later, member, bounds⟩ := inductionHypothesis held
          exact ⟨later, List.mem_cons_of_mem _ member, bounds⟩

theorem blankIntervals_apart :
    ∀ blank ∈ blankIntervals, ∀ word ∈ wordIntervals, blank.2 < word.1 ∨ word.2 < blank.1 := by
  decide +kernel

theorem isWord_of_isBlank {code : CodePoint} (blank : isBlank code = true) :
    isWord code = false := by
  apply Bool.eq_false_iff.mpr
  intro word
  obtain ⟨blankInterval, blankMember, blankBounds⟩ := Intervals.exists_of_holds blank
  obtain ⟨wordInterval, wordMember, wordBounds⟩ := Intervals.exists_of_holds word
  have apart := blankIntervals_apart blankInterval blankMember wordInterval wordMember
  omega

/-! ## Gaps -/

/-- Nothing but white space. -/
def IsGap (codes : List CodePoint) : Prop :=
  ∀ code ∈ codes, isBlank code = true

instance (codes : List CodePoint) : Decidable (IsGap codes) := by
  unfold IsGap
  infer_instance

variable {gap codes rest : List CodePoint} {code : CodePoint}

theorem isGap_nil : IsGap [] := by
  intro code member
  cases member

theorem IsGap.not_mem (blank : IsGap gap) (solid : isBlank code = false) : code ∉ gap := by
  intro member
  have contrary := solid.symm.trans (blank code member)
  cases contrary

theorem IsGap.eq_nil (blank : IsGap gap) (solid : ∀ code ∈ gap, isBlank code = false) :
    gap = [] := by
  apply List.eq_nil_iff_forall_not_mem.mpr
  intro code member
  exact blank.not_mem (solid code member) member

theorem trimStart_append (blank : IsGap gap) : trimStart (gap ++ rest) = trimStart rest :=
  List.dropWhile_append_of_pos blank

theorem trimStart_cons (solid : isBlank code = false) :
    trimStart (code :: rest) = code :: rest := by
  rw [trimStart, List.dropWhile_cons_of_neg]
  simp [solid]

theorem trimStart_of_isGap (blank : IsGap gap) : trimStart gap = [] := by
  have trimmed : trimStart (gap ++ []) = [] := trimStart_append blank
  rwa [List.append_nil] at trimmed

theorem exists_gap_trimStart (codes : List CodePoint) :
    ∃ gap, IsGap gap ∧ codes = gap ++ trimStart codes :=
  ⟨codes.takeWhile isBlank, fun _ member => List.mem_takeWhile_imp member,
    List.takeWhile_append_dropWhile.symm⟩

theorem exists_gap_trimEnd (codes : List CodePoint) :
    ∃ gap, IsGap gap ∧ codes = trimEnd codes ++ gap := by
  obtain ⟨gap, blank, whole⟩ := exists_gap_trimStart codes.reverse
  refine ⟨gap.reverse, fun code member => blank code (List.mem_reverse.mp member), ?_⟩
  have reversed := congrArg List.reverse whole
  rwa [List.reverse_reverse, List.reverse_append] at reversed

theorem exists_gaps_trim (codes : List CodePoint) :
    ∃ front back, IsGap front ∧ IsGap back ∧ codes = front ++ (trim codes ++ back) := by
  obtain ⟨front, frontBlank, frontWhole⟩ := exists_gap_trimStart codes
  obtain ⟨back, backBlank, backWhole⟩ := exists_gap_trimEnd (trimStart codes)
  refine ⟨front, back, frontBlank, backBlank, ?_⟩
  rw [trim, ← backWhole]
  exact frontWhole

theorem trim_gap_append (blank : IsGap gap) : trim (gap ++ rest) = trim rest := by
  rw [trim, trimStart_append blank, trim]

theorem trimEnd_append_gap (blank : IsGap gap) : trimEnd (codes ++ gap) = trimEnd codes := by
  have reversed : IsGap gap.reverse := fun code member => blank code (List.mem_reverse.mp member)
  rw [trimEnd, trimEnd, List.reverse_append, List.dropWhile_append_of_pos reversed]

theorem trim_append_gap (blank : IsGap gap) : trim (codes ++ gap) = trim codes := by
  by_cases empty : trimStart codes = []
  · -- All is white space, and so is it with more of it.
    obtain ⟨front, frontBlank, whole⟩ := exists_gap_trimStart codes
    rw [empty, List.append_nil] at whole
    rw [whole, trim_gap_append frontBlank, trim, trimStart_of_isGap blank, trim,
      trimStart_of_isGap frontBlank]
  · have begins : trimStart (codes ++ gap) = trimStart codes ++ gap := by
      have notEmpty : ¬ (codes.dropWhile isBlank).isEmpty = true := by
        rw [List.isEmpty_iff]
        exact empty
      rw [trimStart, List.dropWhile_append, if_neg notEmpty, trimStart]
    rw [trim, begins, trimEnd_append_gap blank, trim]

theorem trim_trim (codes : List CodePoint) : trim (trim codes) = trim codes := by
  obtain ⟨front, back, frontBlank, backBlank, whole⟩ := exists_gaps_trim codes
  have around : trim codes = trim (front ++ (trim codes ++ back)) := congrArg trim whole
  rw [trim_gap_append frontBlank, trim_append_gap backBlank] at around
  exact around.symm

theorem mem_of_mem_trim (member : code ∈ trim codes) : code ∈ codes := by
  obtain ⟨front, back, -, -, whole⟩ := exists_gaps_trim codes
  rw [whole]
  exact List.mem_append_right front (List.mem_append_left back member)

theorem trim_of_not_isBlank (solid : ∀ code ∈ codes, isBlank code = false) :
    trim codes = codes := by
  obtain ⟨front, back, frontBlank, backBlank, whole⟩ := exists_gaps_trim codes
  have noFront : front = [] := by
    apply frontBlank.eq_nil
    intro code member
    exact solid code (whole ▸ List.mem_append_left _ member)
  have noBack : back = [] := by
    apply backBlank.eq_nil
    intro code member
    exact solid code (whole ▸ List.mem_append_right _ (List.mem_append_right _ member))
  rw [noFront, noBack, List.append_nil] at whole
  exact whole.symm

/-! ## Pieces -/

variable {separator : CodePoint}

theorem pieces_eq_splitOn (separator : CodePoint) (codes : List CodePoint) :
    pieces separator codes = codes.splitOn separator := by
  induction codes with
  | nil => rfl
  | cons code rest inductionHypothesis =>
      rw [pieces, List.splitOn_cons_eq_if_modifyHead, inductionHypothesis]
      by_cases same : code = separator
      · simp [same]
      · have inhabited := List.splitOn_ne_nil separator rest
        cases split : rest.splitOn separator with
        | nil => exact absurd split inhabited
        | cons piece others => simp [same]

theorem pieces_intercalate
    {names : List (List CodePoint)}
    (inhabited : names ≠ [])
    (apart : ∀ name ∈ names, separator ∉ name) :
    pieces separator ([separator].intercalate names) = names := by
  rw [pieces_eq_splitOn]
  exact List.splitOn_intercalate separator apart inhabited

theorem pieces_ne_nil (separator : CodePoint) (codes : List CodePoint) :
    pieces separator codes ≠ [] := by
  rw [pieces_eq_splitOn]
  exact List.splitOn_ne_nil separator codes

theorem intercalate_pieces (separator : CodePoint) (codes : List CodePoint) :
    [separator].intercalate (pieces separator codes) = codes := by
  rw [pieces_eq_splitOn]
  exact List.intercalate_splitOn separator

theorem not_mem_of_mem_pieces
    {piece : List CodePoint}
    (member : piece ∈ pieces separator codes) :
    separator ∉ piece := by
  induction codes generalizing piece with
  | nil =>
      obtain rfl := List.mem_singleton.mp member
      exact List.not_mem_nil
  | cons code rest inductionHypothesis =>
      rw [pieces] at member
      split at member
      · rcases List.mem_cons.mp member with rfl | later
        · exact List.not_mem_nil
        · exact inductionHypothesis later
      · rename_i different
        cases split : pieces separator rest with
        | nil => exact absurd split (pieces_ne_nil separator rest)
        | cons first others =>
            simp only [split] at member inductionHypothesis
            rcases List.mem_cons.mp member with rfl | later
            · intro inside
              rcases List.mem_cons.mp inside with same | further
              · exact different same.symm
              · exact inductionHypothesis List.mem_cons_self further
            · exact inductionHypothesis (List.mem_cons_of_mem _ later)

theorem append_intercalate (front first : List CodePoint) (others : List (List CodePoint)) :
    front ++ [separator].intercalate (first :: others) =
      [separator].intercalate ((front ++ first) :: others) := by
  cases others with
  | nil => simp only [List.intercalate_singleton]
  | cons second rest => simp only [List.intercalate_cons_cons, List.append_assoc]

theorem intercalate_append (names : List (List CodePoint)) (last back : List CodePoint) :
    [separator].intercalate (names ++ [last]) ++ back =
      [separator].intercalate (names ++ [last ++ back]) := by
  induction names with
  | nil => simp only [List.nil_append, List.intercalate_singleton]
  | cons name rest inductionHypothesis =>
      have inhabited : ∀ other : List CodePoint, rest ++ [other] ≠ [] := by simp
      simp only [List.cons_append, List.intercalate_cons_of_ne_nil (inhabited _),
        List.append_assoc, ← inductionHypothesis]

theorem mem_intercalate
    {names : List (List CodePoint)}
    {name : List CodePoint}
    (member : name ∈ names)
    (inside : code ∈ name) :
    code ∈ [separator].intercalate names := by
  induction names with
  | nil => cases member
  | cons first others inductionHypothesis =>
      rw [← List.append_nil first, ← append_intercalate]
      rcases List.mem_cons.mp member with rfl | later
      · exact List.mem_append_left _ inside
      · apply List.mem_append_right
        have inhabited : others ≠ [] := List.ne_nil_of_mem later
        rw [List.intercalate_cons_of_ne_nil inhabited]
        exact List.mem_append_right _ (inductionHypothesis later)

theorem mem_of_mem_pieces
    {piece : List CodePoint}
    (member : piece ∈ pieces separator codes)
    (inside : code ∈ piece) :
    code ∈ codes := by
  rw [← intercalate_pieces separator codes]
  exact mem_intercalate member inside

/-- White space around a text does not matter for its trimmed pieces. -/
theorem map_trim_pieces_gap_append
    (solid : isBlank separator = false)
    (blank : IsGap gap) :
    (pieces separator (gap ++ codes)).map trim = (pieces separator codes).map trim := by
  cases split : pieces separator codes with
  | nil => exact absurd split (pieces_ne_nil separator codes)
  | cons first others =>
      have whole : gap ++ codes = [separator].intercalate ((gap ++ first) :: others) := by
        rw [← append_intercalate, ← split, intercalate_pieces]
      have apart : ∀ name ∈ (gap ++ first) :: others, separator ∉ name := by
        intro name member
        rcases List.mem_cons.mp member with rfl | later
        · rw [List.mem_append]
          exact not_or.mpr ⟨blank.not_mem solid, not_mem_of_mem_pieces (split ▸ List.mem_cons_self)⟩
        · exact not_mem_of_mem_pieces (split ▸ List.mem_cons_of_mem _ later)
      rw [whole, pieces_intercalate (List.cons_ne_nil _ _) apart, List.map_cons, List.map_cons,
        trim_gap_append blank]

theorem map_trim_pieces_append_gap
    (solid : isBlank separator = false)
    (blank : IsGap gap) :
    (pieces separator (codes ++ gap)).map trim = (pieces separator codes).map trim := by
  rcases List.eq_nil_or_concat (pieces separator codes) with empty | ⟨names, last, split⟩
  · exact absurd empty (pieces_ne_nil separator codes)
  · rw [List.concat_eq_append] at split
    have whole : codes ++ gap = [separator].intercalate (names ++ [last ++ gap]) := by
      rw [← intercalate_append, ← split, intercalate_pieces]
    have apart : ∀ name ∈ names ++ [last ++ gap], separator ∉ name := by
      intro name member
      rcases List.mem_append.mp member with earlier | atEnd
      · exact not_mem_of_mem_pieces (split ▸ List.mem_append_left _ earlier)
      · rw [List.mem_singleton.mp atEnd, List.mem_append]
        have lastMember : last ∈ pieces separator codes := by
          rw [split]
          exact List.mem_append_right _ List.mem_cons_self
        exact not_or.mpr ⟨not_mem_of_mem_pieces lastMember, blank.not_mem solid⟩
    have inhabited : names ++ [last ++ gap] ≠ [] := by simp
    rw [whole, pieces_intercalate inhabited apart, split, List.map_append, List.map_append,
      List.map_singleton, List.map_singleton, trim_append_gap blank]

theorem map_trim_pieces_trim (solid : isBlank separator = false) (codes : List CodePoint) :
    (pieces separator (trim codes)).map trim = (pieces separator codes).map trim := by
  obtain ⟨front, back, frontBlank, backBlank, whole⟩ := exists_gaps_trim codes
  have around := congrArg (fun text => (pieces separator text).map trim) whole
  simp only [map_trim_pieces_gap_append solid frontBlank,
    map_trim_pieces_append_gap solid backBlank] at around
  exact around.symm

theorem toList_joinWith (separator : Text) (texts : List Text) :
    (joinWith separator texts).toList =
      separator.toList.intercalate (texts.map Text.toList) := by
  induction texts with
  | nil => rfl
  | cons text rest inductionHypothesis =>
      cases rest with
      | nil => exact List.intercalate_singleton.symm
      | cons next others =>
          rw [List.map_cons, List.map_cons, List.intercalate_cons_cons, ← List.map_cons,
            ← inductionHypothesis]
          rfl

end LinkedQuery.Text
