import LinkedQuery.Proofs.Entity
import LinkedQuery.Proofs.Link.Spelling

/-!
Contract: link declarations as they are read and printed.

Owns:
- the link of a declaration that is read;
- the printed form of a link that was read, which is read as that link again;
- which declarations have brackets in pairs, and around every named join.

Does not own: the parts of qualified names.
-/

namespace LinkedQuery.Link

open Text (IsGap isBlank)

/-! ## Links -/

/-- The link of some parts to an entity. -/
def Parts.linkTo (parts : Parts) (entity : Entity) : Link :=
  ⟨parts.name.map Text.ofList, some (.ofList parts.left), entity, some (.ofList parts.right)⟩

variable {layout : Layout} {parts : Parts} {entity : Entity} {text : Text} {link : Link}
  {gap found : List CodePoint} {mark : CodePoint}

theorem parse_eq_ok_iff :
    parse text = .ok link ↔
      ∃ parts entity, readParts? text.toList = some parts ∧
        Entity.read? parts.entity = some entity ∧ parts.linkTo entity = link := by
  unfold parse
  cases readParts? text.toList with
  | none => simp
  | some parts =>
      simp only [Option.some.injEq, Entity.parse]
      cases read : Entity.read? parts.entity with
      | none => simp [read]
      | some entity => simp [read, Parts.linkTo]

theorem parse_of_spelled
    (blank : layout.IsBlank)
    (admissible : parts.Admissible)
    (read : Entity.read? parts.entity = some entity) :
    parse (.ofList (layout.spell parts)) = .ok (parts.linkTo entity) :=
  parse_eq_ok_iff.mpr ⟨parts, entity, readParts?_spell blank admissible, read, rfl⟩

theorem isBlank_plain (isBracketed : Bool) : (Layout.plain isBracketed).IsBlank := by
  constructor <;> exact Text.isGap_nil

/-- A link that was read prints without white space, with brackets if it has a name. -/
theorem toList_text_linkTo
    (admissible : parts.Admissible)
    (read : Entity.read? parts.entity = some entity) :
    (parts.linkTo entity).text.toList = (Layout.plain parts.name.isSome).spell parts := by
  have entityText : entity.text.toList = parts.entity := by
    apply Entity.toList_text_of_read? _ read
    intro code member
    exact isBlank_of_isPathChar (admissible.entity.2 code member)
  have appended : ∀ front back : Text, (front ++ back).toList = front.toList ++ back.toList :=
    fun _ _ => rfl
  cases named : parts.name with
  | none =>
      have shown : (parts.linkTo entity).text =
          Text.ofList parts.left ++ "=<" ++ entity.text ++ ">" ++ Text.ofList parts.right := by
        simp only [Parts.linkTo, named]
        rfl
      rw [shown]
      simp only [appended, entityText]
      simp [Layout.spell, Layout.join, Layout.ending, Layout.plain, naming, bracket, named,
        Text.ofString, Text.ofChars]
  | some name =>
      have someName : (Text.ofList name).isEmpty = false := by
        apply Bool.eq_false_iff.mpr
        intro empty
        exact (admissible.name name named).1 (List.isEmpty_iff.mp empty)
      have shown : (parts.linkTo entity).text =
          Text.ofList name ++ ":(" ++
            (Text.ofList parts.left ++ "=<" ++ entity.text ++ ">" ++ Text.ofList parts.right) ++
            ")" := by
        simp only [Parts.linkTo, named, text, isSelf, Option.map_some, someName]
        rfl
      rw [shown]
      simp only [appended, entityText]
      simp [Layout.spell, Layout.join, Layout.ending, Layout.plain, naming, bracket, named,
        Text.ofString, Text.ofChars]

theorem parse_text (parsed : parse text = .ok link) : parse link.text = .ok link := by
  obtain ⟨parts, entity, partsRead, entityRead, rfl⟩ := parse_eq_ok_iff.mp parsed
  obtain ⟨admissible, -⟩ := readParts?_eq_some_iff.mp partsRead
  have shown : (parts.linkTo entity).text =
      .ofList ((Layout.plain parts.name.isSome).spell parts) :=
    congrArg Text.ofList (toList_text_linkTo admissible entityRead)
  rw [shown]
  exact parse_of_spelled (isBlank_plain _) admissible entityRead

/-- A declaration in brackets, or without them and without a name, is read as the link of
its parts, whatever white space stands in its gaps; a link that was read prints as a
declaration of that link; and a qualified name that was read prints as its trimmed parts
with single dots between them, which is a name of the same entity. -/
theorem parse_spell_and_parse_text :
    (∀ (layout : Layout) (parts : Parts) (names : List (List CodePoint)),
      layout.IsBlank →
      layout.IsBracketed parts →
      parts.Admissible →
      parts.entity = [CodePoint.char '.'].intercalate names →
      (∀ name ∈ names, IsRun isNameChar name) →
      1 ≤ names.length →
      names.length ≤ 3 →
      ∃ entity, Entity.ofParts? names = some entity ∧
        parse (.ofList (layout.spell parts)) =
          .ok ⟨parts.name.map Text.ofList, some (.ofList parts.left), entity,
            some (.ofList parts.right)⟩) ∧
    (∀ text link, parse text = .ok link → parse link.text = .ok link) ∧
    ∀ text entity, Entity.parse text = .ok entity →
      Entity.parse entity.text = .ok entity ∧
      entity.text = Text.joinWith "." ((Text.cut '.' text).map Text.trimmed) := by
  refine ⟨?_, fun _ _ => parse_text, ?_⟩
  · intro layout parts names blank _ admissible spelled named atLeast atMost
    obtain ⟨entity, made⟩ := Entity.exists_ofParts? atLeast atMost
    refine ⟨entity, made, ?_⟩
    apply parse_of_spelled blank admissible
    have inhabited : names ≠ [] := List.ne_nil_of_length_pos atLeast
    have partsAre : Entity.partsOf parts.entity = names := by
      rw [spelled]
      apply Entity.partsOf_intercalate inhabited
      · intro name member inside
        exact absurd ((named name member).2 _ inside) (by decide)
      · intro name member
        apply Text.trim_of_not_isBlank
        intro code inside
        exact isBlank_of_isPathChar (isPathChar_of_isNameChar ((named name member).2 code inside))
    rw [Entity.read?_eq_some_iff, partsAre]
    exact ⟨fun name member => (named name member).1, made⟩
  · intro text entity parsed
    have read := Entity.read?_text (Entity.parse_eq_ok_iff.mp parsed)
    refine ⟨Entity.parse_eq_ok_iff.mpr read.2, ?_⟩
    rw [read.1, Text.cut, Entity.partsOf, List.map_map, List.map_map]
    rfl

/-- A layout with brackets, and with white space of several kinds. -/
def spacious : Layout :=
  { start := [.char ' ']
    beforeColon := [.char '\t']
    afterColon := []
    isOpened := true
    inside := [.char '\n', .char ' ']
    beforeEquals := [.char ' ']
    afterEquals := [.char '\u3000']
    beforeEntity := []
    afterEntity := [.char ' ']
    beforeRight := [.char '\u2028']
    afterRight := []
    isClosed := true
    finish := [.char ' ', .char '\r'] }

/-- A named join whose first field has a dot. -/
def namedParts : Parts :=
  ⟨some [.char 'n'], [.char 'a', .char '.', .char 'b'], [.char 's', .char '.', .char 'é'],
    [.char '$', .char '1']⟩

theorem admissible_namedParts : namedParts.Admissible := by
  refine ⟨?_, by decide, by decide, by decide⟩
  intro name named
  obtain rfl := Option.some.inj named
  decide

theorem parse_spell_and_parse_text_spacious :
    spacious.IsBlank ∧ spacious.IsBracketed namedParts ∧ namedParts.Admissible ∧
    ∃ entity,
      Entity.ofParts? [[.char 's'], [.char 'é']] = some entity ∧
      parse (.ofList (spacious.spell namedParts)) = .ok (namedParts.linkTo entity) ∧
      parse (namedParts.linkTo entity).text = .ok (namedParts.linkTo entity) ∧
      Entity.parse entity.text = .ok entity := by
  have blank : spacious.IsBlank := by
    constructor <;> decide
  have bracketed : spacious.IsBracketed namedParts := by decide
  obtain ⟨entity, made, parsed⟩ := parse_spell_and_parse_text.1 spacious namedParts
    [[.char 's'], [.char 'é']] blank bracketed admissible_namedParts rfl (by decide) (by decide)
    (by decide)
  have named : Entity.parse (.ofList namedParts.entity) = .ok entity := by
    obtain rfl := Option.some.inj made
    rfl
  exact ⟨blank, bracketed, admissible_namedParts, entity, made, parsed,
    parse_spell_and_parse_text.2.1 _ _ parsed, (parse_spell_and_parse_text.2.2 _ _ named).1⟩

/-! ## Brackets -/

/-- The marks of a declaration in order. -/
def Layout.marks (layout : Layout) (parts : Parts) : List CodePoint :=
  bracket ':' parts.name.isSome ++ bracket '(' layout.isOpened ++
    [.char '=', .char '<', .char '>'] ++ bracket ')' layout.isClosed

theorem filter_isMark_gap (blank : IsGap gap) : gap.filter isMark = [] := by
  apply List.filter_eq_nil_iff.mpr
  intro code member
  simp [isMark, blank code member]

theorem filter_isMark_run (run : IsRun isPathChar found) : found.filter isMark = [] := by
  apply List.filter_eq_nil_iff.mpr
  intro code member
  simp [isMark, run.2 code member]

theorem filter_isMark_bracket (marks : isMark mark = true) (isPresent : Bool) :
    (bracket mark isPresent).filter isMark = bracket mark isPresent := by
  cases isPresent with
  | false => rfl
  | true => simp [bracket, marks]

theorem filter_isMark_spell (blank : layout.IsBlank) (admissible : parts.Admissible) :
    (layout.spell parts).filter isMark = layout.marks parts := by
  have namingMarks :
      (naming layout.beforeColon layout.afterColon parts.name).filter isMark =
        bracket ':' parts.name.isSome := by
    cases named : parts.name with
    | none => rfl
    | some name =>
        have nameMarks := filter_isMark_run (admissible.name name named).isPathChar
        have colonMark : isMark ':' = true := by decide
        simp only [naming, List.filter_append, List.filter_cons, nameMarks,
          filter_isMark_gap blank.beforeColon, filter_isMark_gap blank.afterColon, colonMark]
        rfl
  have equalsMark : isMark '=' = true := by decide
  have openingMark : isMark '<' = true := by decide
  have closingMark : isMark '>' = true := by decide
  have openedMarks := filter_isMark_bracket (show isMark '(' = true by decide) layout.isOpened
  have closedMarks := filter_isMark_bracket (show isMark ')' = true by decide) layout.isClosed
  simp only [Layout.spell, Layout.join, Layout.ending, List.filter_append, List.filter_cons,
    namingMarks, openedMarks, closedMarks, equalsMark, openingMark, closingMark,
    filter_isMark_run admissible.left, filter_isMark_run admissible.entity,
    filter_isMark_run admissible.right, filter_isMark_gap blank.start,
    filter_isMark_gap blank.inside, filter_isMark_gap blank.beforeEquals,
    filter_isMark_gap blank.afterEquals, filter_isMark_gap blank.beforeEntity,
    filter_isMark_gap blank.afterEntity, filter_isMark_gap blank.beforeRight,
    filter_isMark_gap blank.afterRight, filter_isMark_gap blank.finish]
  simp [Layout.marks]

/-- Brackets stand as they should just if there are as many opening as closing ones, and one
of them with a colon. -/
theorem isBracketed_iff_count (blank : layout.IsBlank) (admissible : parts.Admissible) :
    layout.IsBracketed parts ↔
      (layout.spell parts).count (.char '(') = (layout.spell parts).count (.char ')') ∧
      (CodePoint.char ':' ∈ layout.spell parts → CodePoint.char '(' ∈ layout.spell parts) := by
  have counted : ∀ mark, isMark mark = true →
      (layout.spell parts).count mark = (layout.marks parts).count mark := by
    intro mark marks
    rw [← filter_isMark_spell blank admissible, List.count_filter marks]
  have present : ∀ mark, isMark mark = true →
      (mark ∈ layout.spell parts ↔ mark ∈ layout.marks parts) := by
    intro mark marks
    rw [← filter_isMark_spell blank admissible, List.mem_filter, and_iff_left marks]
  rw [counted _ (by decide), counted _ (by decide), present _ (by decide), present _ (by decide)]
  unfold Layout.IsBracketed Layout.marks
  cases parts.name.isSome <;> cases layout.isOpened <;> cases layout.isClosed <;> decide

/-- The texts that are declarations of links, and those among them with brackets in a pair,
and around the join if it has a name: the others have more brackets of one kind, or a colon
without any. -/
theorem exists_parse_iff_spell (text : Text) :
    ((∃ link, parse text = .ok link) ↔
      ∃ (layout : Layout) (parts : Parts), layout.IsBlank ∧ parts.Admissible ∧
        (Entity.read? parts.entity).isSome = true ∧ layout.spell parts = text.toList) ∧
    ((∃ link, parse text = .ok link) ∧
        text.toList.count (.char '(') = text.toList.count (.char ')') ∧
        (CodePoint.char ':' ∈ text.toList → CodePoint.char '(' ∈ text.toList) ↔
      ∃ (layout : Layout) (parts : Parts), layout.IsBlank ∧ parts.Admissible ∧
        (Entity.read? parts.entity).isSome = true ∧ layout.spell parts = text.toList ∧
        layout.IsBracketed parts) := by
  have accepted :
      (∃ link, parse text = .ok link) ↔
        ∃ (layout : Layout) (parts : Parts), layout.IsBlank ∧ parts.Admissible ∧
          (Entity.read? parts.entity).isSome = true ∧ layout.spell parts = text.toList := by
    constructor
    · intro parsed
      obtain ⟨link, parsed⟩ := parsed
      obtain ⟨parts, entity, partsRead, entityRead, -⟩ := parse_eq_ok_iff.mp parsed
      obtain ⟨admissible, layout, blank, spelled⟩ := readParts?_eq_some_iff.mp partsRead
      exact ⟨layout, parts, blank, admissible, by rw [entityRead, Option.isSome_some], spelled⟩
    · intro spelled
      obtain ⟨layout, parts, blank, admissible, named, spelled⟩ := spelled
      obtain ⟨entity, entityRead⟩ := Option.isSome_iff_exists.mp named
      have parsed := parse_of_spelled blank admissible entityRead
      rw [spelled] at parsed
      exact ⟨parts.linkTo entity, parsed⟩
  refine ⟨accepted, ?_⟩
  rw [accepted]
  constructor
  · intro balanced
    obtain ⟨⟨layout, parts, blank, admissible, named, spelled⟩, counts⟩ := balanced
    rw [← spelled] at counts
    exact ⟨layout, parts, blank, admissible, named, spelled,
      (isBracketed_iff_count blank admissible).mpr counts⟩
  · intro bracketed
    obtain ⟨layout, parts, blank, admissible, named, spelled, bracketed⟩ := bracketed
    have counts := (isBracketed_iff_count blank admissible).mp bracketed
    rw [spelled] at counts
    exact ⟨⟨layout, parts, blank, admissible, named, spelled⟩, counts⟩

/-- A declaration with one bracket only. -/
def openedOnly : Text :=
  .ofList [.char '(', .char 'a', .char '=', .char '<', .char 'b', .char '>', .char 'c']

/-- A declaration with a name and no brackets. -/
def unbracketed : Text :=
  .ofList [.char 'n', .char ':', .char 'a', .char '=', .char '<', .char 'b', .char '>', .char 'c']

/-- Texts are read as declarations whose brackets do not come in a pair, or are missing
around a named join. -/
theorem parse_openedOnly :
    (∃ link, parse openedOnly = .ok link) ∧ (∃ link, parse unbracketed = .ok link) ∧
    ∀ (layout : Layout) (parts : Parts), layout.IsBlank → parts.Admissible →
      layout.spell parts = openedOnly.toList ∨ layout.spell parts = unbracketed.toList →
      ¬ layout.IsBracketed parts := by
  refine ⟨⟨_, rfl⟩, ⟨_, rfl⟩, ?_⟩
  intro layout parts blank admissible spelled bracketed
  have counts := (isBracketed_iff_count blank admissible).mp bracketed
  rcases spelled with spelled | spelled
  · rw [spelled] at counts
    exact absurd counts.1 (by decide)
  · rw [spelled] at counts
    exact absurd (counts.2 (by decide)) (by decide)

end LinkedQuery.Link
