import LinkedQuery.Link.Declaration
import LinkedQuery.Proofs.Text

/-!
Contract: how link declarations are spelled, and that their reader follows the spelling.

Owns:
- the characters of names, fields and marks, and runs of them;
- the layout of a declaration: its brackets, and the white space in each gap;
- the texts whose parts are read, which are the spelled ones, each with its only parts.

Does not own: the links that declarations declare.
-/

namespace LinkedQuery.Link

open Text (IsGap isBlank trimStart)

variable {admits : CodePoint → Bool} {code mark : CodePoint}
  {codes found gap rest : List CodePoint}

/-! ## Characters -/

theorem isPathChar_of_isNameChar (named : isNameChar code = true) : isPathChar code = true := by
  rw [isPathChar, ← isNameChar, named, Bool.true_or]

theorem isPathChar_of_isBlank (blank : isBlank code = true) : isPathChar code = false := by
  have notWord := Text.isWord_of_isBlank blank
  have notDollar : code ≠ '$' := by
    rintro rfl
    exact absurd blank (by decide)
  have notDot : code ≠ '.' := by
    rintro rfl
    exact absurd blank (by decide)
  simp [isPathChar, notWord, notDollar, notDot]

theorem isBlank_of_isPathChar (admitted : isPathChar code = true) : isBlank code = false := by
  apply Bool.eq_false_iff.mpr
  intro blank
  rw [isPathChar_of_isBlank blank] at admitted
  cases admitted

theorem isNameChar_eq_false (refused : isPathChar code = false) : isNameChar code = false := by
  apply Bool.eq_false_iff.mpr
  intro named
  rw [isPathChar_of_isNameChar named] at refused
  cases refused

/-- A character that is neither white space nor part of a name. -/
def isMark (code : CodePoint) : Bool :=
  !isBlank code && !isPathChar code

theorem isBlank_of_isMark (marks : isMark mark = true) : isBlank mark = false := by
  simp only [isMark, Bool.and_eq_true, Bool.not_eq_true'] at marks
  exact marks.1

theorem isPathChar_of_isMark (marks : isMark mark = true) : isPathChar mark = false := by
  simp only [isMark, Bool.and_eq_true, Bool.not_eq_true'] at marks
  exact marks.2

/-! ## Runs of characters -/

/-- A text with characters of one class only. -/
def IsRun (admits : CodePoint → Bool) (codes : List CodePoint) : Prop :=
  codes ≠ [] ∧ ∀ code ∈ codes, admits code = true

instance (admits : CodePoint → Bool) (codes : List CodePoint) : Decidable (IsRun admits codes) := by
  unfold IsRun
  infer_instance

/-- No run of a class goes on in a text. -/
def EndsRun (admits : CodePoint → Bool) (codes : List CodePoint) : Prop :=
  codes.takeWhile admits = [] ∧ codes.dropWhile admits = codes

theorem endsRun_cons (refused : admits code = false) : EndsRun admits (code :: rest) := by
  simp [EndsRun, refused]

theorem endsRun_nil : EndsRun admits [] :=
  ⟨rfl, rfl⟩

theorem EndsRun.gap_append
    (ends : EndsRun isPathChar rest)
    (blank : IsGap gap) :
    EndsRun isPathChar (gap ++ rest) := by
  cases gap with
  | nil => exact ends
  | cons first others =>
      exact endsRun_cons (isPathChar_of_isBlank (blank first List.mem_cons_self))

theorem IsRun.isPathChar (run : IsRun isNameChar found) : IsRun isPathChar found :=
  ⟨run.1, fun code member => isPathChar_of_isNameChar (run.2 code member)⟩

theorem EndsRun.isNameChar (ends : EndsRun isPathChar rest) : EndsRun isNameChar rest := by
  cases rest with
  | nil => exact endsRun_nil
  | cons code others =>
      have refused : isPathChar code = false := by
        apply Bool.eq_false_iff.mpr
        intro admitted
        have taken := ends.1
        rw [List.takeWhile_cons_of_pos admitted] at taken
        cases taken
      exact endsRun_cons (isNameChar_eq_false refused)

theorem run?_append (run : IsRun admits found) (ends : EndsRun admits rest) :
    run? admits (found ++ rest) = some (found, rest) := by
  have taken : (found ++ rest).takeWhile admits = found := by
    rw [List.takeWhile_append_of_pos run.2, ends.1, List.append_nil]
  have dropped : (found ++ rest).dropWhile admits = rest := by
    rw [List.dropWhile_append_of_pos run.2, ends.2]
  unfold run?
  rw [taken, dropped]
  split
  · exact absurd rfl run.1
  · rfl

theorem of_run?_eq_some (split : run? admits codes = some (found, rest)) :
    IsRun admits found ∧ codes = found ++ rest := by
  unfold run? at split
  split at split
  · cases split
  · rename_i inhabited
    obtain ⟨rfl, rfl⟩ := Prod.mk.inj (Option.some.inj split)
    exact ⟨⟨inhabited, fun _ member => List.mem_takeWhile_imp member⟩,
      List.takeWhile_append_dropWhile.symm⟩

theorem trimStart_run (run : IsRun isPathChar found) :
    trimStart (found ++ rest) = found ++ rest := by
  cases found with
  | nil => exact absurd rfl run.1
  | cons first others =>
      exact Text.trimStart_cons (isBlank_of_isPathChar (run.2 first List.mem_cons_self))

theorem expect?_eq_some_iff : expect? mark codes = some rest ↔ codes = mark :: rest := by
  cases codes with
  | nil => simp [expect?]
  | cons code others =>
      by_cases same : code = mark
      · simp [expect?, same]
      · simp [expect?, same]

/-! ## Gaps in front -/

theorem exists_gap_of_expect? (found : expect? mark (trimStart codes) = some rest) :
    ∃ gap, IsGap gap ∧ codes = gap ++ mark :: rest := by
  obtain ⟨gap, blank, whole⟩ := Text.exists_gap_trimStart codes
  refine ⟨gap, blank, ?_⟩
  rw [← expect?_eq_some_iff.mp found]
  exact whole

theorem exists_gap_of_run? (split : run? admits (trimStart codes) = some (found, rest)) :
    IsRun admits found ∧ ∃ gap, IsGap gap ∧ codes = gap ++ (found ++ rest) := by
  obtain ⟨run, trimmed⟩ := of_run?_eq_some split
  obtain ⟨gap, blank, whole⟩ := Text.exists_gap_trimStart codes
  refine ⟨run, gap, blank, ?_⟩
  rw [← trimmed]
  exact whole

theorem expect?_gap_append (blank : IsGap gap) (marks : isMark mark = true) :
    expect? mark (trimStart (gap ++ mark :: rest)) = some rest := by
  rw [Text.trimStart_append blank, Text.trimStart_cons (isBlank_of_isMark marks)]
  exact expect?_eq_some_iff.mpr rfl

theorem run?_gap_append
    (blank : IsGap gap)
    (run : IsRun isPathChar found)
    (ends : EndsRun isPathChar rest) :
    run? isPathChar (trimStart (gap ++ (found ++ rest))) = some (found, rest) := by
  rw [Text.trimStart_append blank, trimStart_run run]
  exact run?_append run ends

/-- A bracket, if it is there. -/
def bracket (mark : CodePoint) (isPresent : Bool) : List CodePoint :=
  if isPresent then [mark] else []

theorem exists_bracket_skip (mark : CodePoint) (codes : List CodePoint) :
    ∃ isPresent, codes = bracket mark isPresent ++ skip mark codes := by
  cases found : expect? mark codes with
  | none => exact ⟨false, by simp [bracket, skip, found]⟩
  | some rest =>
      have rested : skip mark codes = rest := by
        rw [skip, found, Option.getD_some]
      refine ⟨true, ?_⟩
      rw [rested]
      exact expect?_eq_some_iff.mp found

/-- A name with its colon, if there is one. -/
def naming (beforeColon afterColon : List CodePoint) :
    Option (List CodePoint) → List CodePoint
  | none => []
  | some name => name ++ (beforeColon ++ .char ':' :: afterColon)

/-! ## Spelled declarations -/

/-- How a declaration is laid out: its white space, and which brackets it has. -/
structure Layout where
  start : List CodePoint
  beforeColon : List CodePoint
  afterColon : List CodePoint
  isOpened : Bool
  inside : List CodePoint
  beforeEquals : List CodePoint
  afterEquals : List CodePoint
  beforeEntity : List CodePoint
  afterEntity : List CodePoint
  beforeRight : List CodePoint
  afterRight : List CodePoint
  isClosed : Bool
  finish : List CodePoint
deriving Repr, DecidableEq

/-- The parts have the characters that a declaration has for them. -/
structure Parts.Admissible (parts : Parts) : Prop where
  name : ∀ name, parts.name = some name → IsRun isNameChar name
  left : IsRun isPathChar parts.left
  entity : IsRun isPathChar parts.entity
  right : IsRun isPathChar parts.right

namespace Layout

/-- The gaps hold nothing but white space. -/
structure IsBlank (layout : Layout) : Prop where
  start : IsGap layout.start
  beforeColon : IsGap layout.beforeColon
  afterColon : IsGap layout.afterColon
  inside : IsGap layout.inside
  beforeEquals : IsGap layout.beforeEquals
  afterEquals : IsGap layout.afterEquals
  beforeEntity : IsGap layout.beforeEntity
  afterEntity : IsGap layout.afterEntity
  beforeRight : IsGap layout.beforeRight
  afterRight : IsGap layout.afterRight
  finish : IsGap layout.finish

/-- The brackets come in a pair, and they are there if the join has a name. -/
def IsBracketed (layout : Layout) (parts : Parts) : Prop :=
  layout.isClosed = layout.isOpened ∧ (parts.name.isSome = true → layout.isOpened = true)

instance (layout : Layout) (parts : Parts) : Decidable (layout.IsBracketed parts) := by
  unfold IsBracketed
  infer_instance

/-- The layout without white space, with or without brackets. -/
def plain (isBracketed : Bool) : Layout :=
  ⟨[], [], [], isBracketed, [], [], [], [], [], [], [], isBracketed, []⟩

/-- What stands behind the last field. -/
def ending (layout : Layout) : List CodePoint :=
  layout.afterRight ++ (bracket ')' layout.isClosed ++ layout.finish)

/-- The join from the first field to the last. -/
def join (layout : Layout) (parts : Parts) : List CodePoint :=
  parts.left ++ (layout.beforeEquals ++ .char '=' :: (layout.afterEquals ++ .char '<' ::
    (layout.beforeEntity ++ (parts.entity ++ (layout.afterEntity ++ .char '>' ::
      (layout.beforeRight ++ (parts.right ++ layout.ending)))))))

/-- The declaration of some parts, such as `name:(left=<entity>right)`. -/
def spell (layout : Layout) (parts : Parts) : List CodePoint :=
  layout.start ++ (naming layout.beforeColon layout.afterColon parts.name ++
    (bracket '(' layout.isOpened ++ (layout.inside ++ layout.join parts)))

end Layout

section Reading

variable {layout : Layout} {parts : Parts}

/-- A run of the reader: what each of its steps leaves, up to the end of the text. -/
structure Run (codes : List CodePoint) (parts : Parts) where
  afterName : List CodePoint
  afterLeft : List CodePoint
  afterEquals : List CodePoint
  afterOpening : List CodePoint
  afterEntity : List CodePoint
  afterClosing : List CodePoint
  afterRight : List CodePoint
  name : splitName (trimStart codes) = (parts.name, afterName)
  left : run? isPathChar (trimStart (skip '(' afterName)) = some (parts.left, afterLeft)
  equals : expect? '=' (trimStart afterLeft) = some afterEquals
  opening : expect? '<' (trimStart afterEquals) = some afterOpening
  entity : run? isPathChar (trimStart afterOpening) = some (parts.entity, afterEntity)
  closing : expect? '>' (trimStart afterEntity) = some afterClosing
  right : run? isPathChar (trimStart afterClosing) = some (parts.right, afterRight)
  ending : trimStart (skip ')' (trimStart afterRight)) = []

theorem Run.readParts?_eq (run : Run codes parts) : readParts? codes = some parts := by
  unfold readParts?
  rw [run.name]
  simp only [Option.bind_eq_bind, run.left, run.equals, run.opening, run.entity, run.closing,
    run.right, run.ending, Option.bind_some]
  rfl

theorem exists_run (read : readParts? codes = some parts) : Nonempty (Run codes parts) := by
  cases named : splitName (trimStart codes) with
  | mk name afterName =>
  unfold readParts? at read
  rw [named] at read
  obtain ⟨⟨left, afterLeft⟩, leftRead, read⟩ := Option.bind_eq_some_iff.mp read
  obtain ⟨afterEquals, equalsRead, read⟩ := Option.bind_eq_some_iff.mp read
  obtain ⟨afterOpening, openingRead, read⟩ := Option.bind_eq_some_iff.mp read
  obtain ⟨⟨entity, afterEntity⟩, entityRead, read⟩ := Option.bind_eq_some_iff.mp read
  obtain ⟨afterClosing, closingRead, read⟩ := Option.bind_eq_some_iff.mp read
  obtain ⟨⟨right, afterRight⟩, rightRead, read⟩ := Option.bind_eq_some_iff.mp read
  by_cases ended : (trimStart (skip ')' (trimStart afterRight))).isEmpty = true
  · simp only [ended, if_true] at read
    obtain rfl := Option.some.inj read
    exact ⟨⟨afterName, afterLeft, afterEquals, afterOpening, afterEntity, afterClosing,
      afterRight, named, leftRead, equalsRead, openingRead, entityRead, closingRead, rightRead,
      List.isEmpty_iff.mp ended⟩⟩
  · simp only [ended] at read
    cases read

theorem endsRun_ending (blank : layout.IsBlank) : EndsRun isPathChar layout.ending := by
  have finishEnds : EndsRun isPathChar (layout.finish ++ []) :=
    endsRun_nil.gap_append blank.finish
  rw [List.append_nil] at finishEnds
  apply EndsRun.gap_append _ blank.afterRight
  cases layout.isClosed with
  | false => exact finishEnds
  | true => exact endsRun_cons (by decide)

theorem trimStart_join (admissible : parts.Admissible) :
    trimStart (layout.join parts) = layout.join parts :=
  trimStart_run admissible.left

theorem skip_join (admissible : parts.Admissible) (marks : isMark mark = true) :
    skip mark (layout.join parts) = layout.join parts := by
  have run := admissible.left
  unfold Layout.join
  cases leftIs : parts.left with
  | nil => exact absurd leftIs run.1
  | cons first others =>
      have different : first ≠ mark := by
        rintro rfl
        have refused := isPathChar_of_isMark marks
        rw [run.2 first (leftIs ▸ List.mem_cons_self)] at refused
        cases refused
      simp [skip, expect?, different]

/-- The first field is no name with a colon after it. -/
theorem splitName_join (blank : layout.IsBlank) (admissible : parts.Admissible) :
    splitName (layout.join parts) = (none, layout.join parts) := by
  have noColon : expect? ':' (trimStart ((layout.join parts).dropWhile isNameChar)) = none := by
    have equalsEnds : ∀ rest, EndsRun isNameChar (layout.beforeEquals ++ .char '=' :: rest) :=
      fun _ => ((endsRun_cons (by decide)).gap_append blank.beforeEquals).isNameChar
    rw [Layout.join, List.dropWhile_append]
    split
    · -- The whole field could be a name, but an equals sign follows.
      rw [(equalsEnds _).2, Text.trimStart_append blank.beforeEquals,
        Text.trimStart_cons (by decide)]
      rfl
    · -- The name ends at a character of the field.
      rename_i more
      cases others : parts.left.dropWhile isNameChar with
      | nil => exact absurd (List.isEmpty_iff.mpr others) more
      | cons next following =>
          have member : next ∈ parts.left :=
            (List.dropWhile_sublist isNameChar).subset (others ▸ List.mem_cons_self)
          have admitted := admissible.left.2 next member
          have different : next ≠ .char ':' := by
            rintro rfl
            exact absurd admitted (by decide)
          rw [List.cons_append, Text.trimStart_cons (isBlank_of_isPathChar admitted)]
          simp [expect?, different]
  unfold splitName
  cases found : run? isNameChar (layout.join parts) with
  | none => rfl
  | some split =>
      have rested : split.2 = (layout.join parts).dropWhile isNameChar := by
        unfold run? at found
        split at found
        · cases found
        · obtain rfl := Option.some.inj found
          rfl
      simp only [Option.bind_eq_bind, Option.bind_some, rested, noColon, Option.bind_none,
        Option.getD_none]

/-- Trimming stops at the opening bracket, or else at the first field. -/
theorem trimStart_opening
    (blank : layout.IsBlank)
    (admissible : parts.Admissible)
    (isOpened : Bool) :
    trimStart (bracket '(' isOpened ++ (layout.inside ++ layout.join parts)) =
      if isOpened then .char '(' :: (layout.inside ++ layout.join parts)
      else layout.join parts := by
  cases isOpened with
  | true => exact Text.trimStart_cons (by decide)
  | false => exact (Text.trimStart_append blank.inside).trans (trimStart_join admissible)

theorem splitName_spell (blank : layout.IsBlank) (admissible : parts.Admissible) :
    splitName (trimStart (layout.spell parts)) =
      (parts.name,
        trimStart (bracket '(' layout.isOpened ++ (layout.inside ++ layout.join parts))) := by
  rw [Layout.spell, Text.trimStart_append blank.start]
  cases named : parts.name with
  | none =>
      rw [naming, List.nil_append, trimStart_opening blank admissible]
      cases layout.isOpened with
      | true => rfl
      | false => exact splitName_join blank admissible
  | some name =>
      have run := admissible.name name named
      have colonEnds : EndsRun isPathChar
          (layout.beforeColon ++ .char ':' :: (layout.afterColon ++
            (bracket '(' layout.isOpened ++ (layout.inside ++ layout.join parts)))) :=
        (endsRun_cons (by decide)).gap_append blank.beforeColon
      have nameRead := run?_append run colonEnds.isNameChar
      have colonRead : ∀ rest,
          expect? ':' (trimStart (layout.beforeColon ++ .char ':' :: rest)) = some rest :=
        fun _ => expect?_gap_append blank.beforeColon (by decide)
      simp only [naming, List.append_assoc, List.cons_append]
      rw [trimStart_run run.isPathChar, splitName]
      simp only [Option.bind_eq_bind, nameRead, Option.bind_some, colonRead,
        Text.trimStart_append blank.afterColon]
      rfl

theorem skip_opening (blank : layout.IsBlank) (admissible : parts.Admissible) :
    trimStart (skip '(' (trimStart
      (bracket '(' layout.isOpened ++ (layout.inside ++ layout.join parts)))) =
      layout.join parts := by
  rw [trimStart_opening blank admissible]
  cases layout.isOpened with
  | true => exact (Text.trimStart_append blank.inside).trans (trimStart_join admissible)
  | false =>
      rw [if_neg Bool.false_ne_true, skip_join admissible (by decide), trimStart_join admissible]

theorem skip_ending (blank : layout.IsBlank) :
    trimStart (skip ')' (trimStart layout.ending)) = [] := by
  have finished := Text.trimStart_of_isGap blank.finish
  rw [Layout.ending, Text.trimStart_append blank.afterRight]
  cases layout.isClosed with
  | true =>
      have trimmed :
          trimStart (bracket ')' true ++ layout.finish) = .char ')' :: layout.finish :=
        Text.trimStart_cons (by decide)
      rw [trimmed]
      exact finished
  | false =>
      have trimmed : trimStart (bracket ')' false ++ layout.finish) = [] := finished
      rw [trimmed]
      rfl

theorem readParts?_spell (blank : layout.IsBlank) (admissible : parts.Admissible) :
    readParts? (layout.spell parts) = some parts := by
  have run : Run (layout.spell parts) parts :=
    { afterName := _
      afterLeft := _
      afterEquals := _
      afterOpening := _
      afterEntity := _
      afterClosing := _
      afterRight := layout.ending
      name := splitName_spell blank admissible
      left := by
        rw [skip_opening blank admissible]
        exact run?_append admissible.left ((endsRun_cons (by decide)).gap_append blank.beforeEquals)
      equals := expect?_gap_append blank.beforeEquals (by decide)
      opening := expect?_gap_append blank.afterEquals (by decide)
      entity := run?_gap_append blank.beforeEntity admissible.entity
        ((endsRun_cons (by decide)).gap_append blank.afterEntity)
      closing := expect?_gap_append blank.afterEntity (by decide)
      right := run?_gap_append blank.beforeRight admissible.right (endsRun_ending blank)
      ending := skip_ending blank }
  exact run.readParts?_eq

theorem exists_naming_of_splitName
    {name : Option (List CodePoint)}
    (split : splitName codes = (name, rest)) :
    (∀ found, name = some found → IsRun isNameChar found) ∧
    ∃ beforeColon afterColon, IsGap beforeColon ∧ IsGap afterColon ∧
      codes = naming beforeColon afterColon name ++ rest := by
  have nameless : (none, codes) = (name, rest) →
      (∀ found, name = some found → IsRun isNameChar found) ∧
      ∃ beforeColon afterColon, IsGap beforeColon ∧ IsGap afterColon ∧
        codes = naming beforeColon afterColon name ++ rest := by
    intro whole
    obtain ⟨rfl, rfl⟩ := Prod.mk.inj whole
    refine ⟨?_, [], [], Text.isGap_nil, Text.isGap_nil, rfl⟩
    intro found named
    cases named
  cases read : run? isNameChar codes with
  | none =>
      apply nameless
      rw [← split, splitName, read]
      rfl
  | some run =>
      obtain ⟨found, afterName⟩ := run
      obtain ⟨isRun, nameWhole⟩ := of_run?_eq_some read
      cases colon : expect? ':' (trimStart afterName) with
      | none =>
          apply nameless
          rw [← split, splitName, read]
          simp only [Option.bind_eq_bind, Option.bind_some, colon, Option.bind_none,
            Option.getD_none]
      | some afterMark =>
          have whole : (some found, trimStart afterMark) = (name, rest) := by
            rw [← split, splitName, read]
            simp only [Option.bind_eq_bind, Option.bind_some, colon]
            rfl
          obtain ⟨rfl, rfl⟩ := Prod.mk.inj whole
          obtain ⟨beforeColon, beforeBlank, markWhole⟩ := exists_gap_of_expect? colon
          obtain ⟨afterColon, afterBlank, afterWhole⟩ := Text.exists_gap_trimStart afterMark
          refine ⟨?_, beforeColon, afterColon, beforeBlank, afterBlank, ?_⟩
          · intro other same
            exact Option.some.inj same ▸ isRun
          · rw [nameWhole, markWhole]
            simp only [naming, List.append_assoc, List.cons_append]
            rw [← afterWhole]

theorem exists_spell_of_readParts? (read : readParts? codes = some parts) :
    parts.Admissible ∧ ∃ layout : Layout, layout.IsBlank ∧ layout.spell parts = codes := by
  obtain ⟨run⟩ := exists_run read
  obtain ⟨start, startBlank, startWhole⟩ := Text.exists_gap_trimStart codes
  obtain ⟨nameRun, beforeColon, afterColon, beforeBlank, afterBlank, nameWhole⟩ :=
    exists_naming_of_splitName run.name
  obtain ⟨isOpened, openedWhole⟩ := exists_bracket_skip '(' run.afterName
  obtain ⟨leftRun, inside, insideBlank, insideWhole⟩ := exists_gap_of_run? run.left
  obtain ⟨beforeEquals, equalsBlank, equalsWhole⟩ := exists_gap_of_expect? run.equals
  obtain ⟨afterEquals, openingBlank, openingWhole⟩ := exists_gap_of_expect? run.opening
  obtain ⟨entityRun, beforeEntity, entityBlank, entityWhole⟩ := exists_gap_of_run? run.entity
  obtain ⟨afterEntity, closingBlank, closingWhole⟩ := exists_gap_of_expect? run.closing
  obtain ⟨rightRun, beforeRight, rightBlank, rightWhole⟩ := exists_gap_of_run? run.right
  obtain ⟨afterRight, endBlank, endWhole⟩ := Text.exists_gap_trimStart run.afterRight
  obtain ⟨isClosed, closedWhole⟩ := exists_bracket_skip ')' (trimStart run.afterRight)
  obtain ⟨finish, finishBlank, finishWhole⟩ :=
    Text.exists_gap_trimStart (skip ')' (trimStart run.afterRight))
  rw [run.ending, List.append_nil] at finishWhole
  refine ⟨⟨nameRun, leftRun, entityRun, rightRun⟩,
    ⟨start, beforeColon, afterColon, isOpened, inside, beforeEquals, afterEquals, beforeEntity,
      afterEntity, beforeRight, afterRight, isClosed, finish⟩, ?_, ?_⟩
  · exact ⟨startBlank, beforeBlank, afterBlank, insideBlank, equalsBlank, openingBlank,
      entityBlank, closingBlank, rightBlank, endBlank, finishBlank⟩
  · simp only [Layout.spell, Layout.join, Layout.ending]
    rw [← finishWhole, ← closedWhole, ← endWhole, ← rightWhole, ← closingWhole, ← entityWhole,
      ← openingWhole, ← equalsWhole, ← insideWhole, ← openedWhole, ← nameWhole, ← startWhole]

/-- The texts that are read are the spelled ones, and the parts are those of the spelling. -/
theorem readParts?_eq_some_iff :
    readParts? codes = some parts ↔
      parts.Admissible ∧ ∃ layout : Layout, layout.IsBlank ∧ layout.spell parts = codes := by
  constructor
  · exact exists_spell_of_readParts?
  · intro spelled
    obtain ⟨admissible, layout, blank, rfl⟩ := spelled
    exact readParts?_spell blank admissible

end Reading

end LinkedQuery.Link
