import LinkedQuery.Entity
import LinkedQuery.Proofs.Text

/-!
Contract: qualified names as they are read and printed.

Owns:
- the trimmed parts of a text between its dots;
- the texts that are read, and the entity of each;
- the printed form of an entity that was read, which is read as that entity again.

Does not own: declarations of links.
-/

namespace LinkedQuery.Entity

open Text (trim pieces)

variable {codes : List CodePoint} {names : List (List CodePoint)} {entity : Entity}

/-- The parts of a text between its dots, without the white space around each. -/
def partsOf (codes : List CodePoint) : List (List CodePoint) :=
  (pieces '.' codes).map trim

theorem not_isBlank_dot : Text.isBlank (CodePoint.char '.') = false := by
  decide

theorem partsOf_ne_nil (codes : List CodePoint) : partsOf codes ≠ [] := by
  intro empty
  exact Text.pieces_ne_nil _ _ (List.map_eq_nil_iff.mp empty)

theorem trim_of_mem_partsOf {name : List CodePoint} (member : name ∈ partsOf codes) :
    trim name = name := by
  obtain ⟨piece, -, rfl⟩ := List.mem_map.mp member
  exact Text.trim_trim piece

theorem dot_not_mem_of_mem_partsOf {name : List CodePoint} (member : name ∈ partsOf codes) :
    CodePoint.char '.' ∉ name := by
  obtain ⟨piece, pieceMember, rfl⟩ := List.mem_map.mp member
  intro inside
  exact Text.not_mem_of_mem_pieces pieceMember (Text.mem_of_mem_trim inside)

theorem partsOf_intercalate
    (inhabited : names ≠ [])
    (apart : ∀ name ∈ names, CodePoint.char '.' ∉ name)
    (trimmed : ∀ name ∈ names, trim name = name) :
    partsOf ([CodePoint.char '.'].intercalate names) = names := by
  rw [partsOf, Text.pieces_intercalate inhabited apart]
  exact (List.map_congr_left trimmed).trans (List.map_id names)

theorem partsOf_intercalate_partsOf (codes : List CodePoint) :
    partsOf ([CodePoint.char '.'].intercalate (partsOf codes)) = partsOf codes :=
  partsOf_intercalate (partsOf_ne_nil codes) (fun _ => dot_not_mem_of_mem_partsOf)
    fun _ => trim_of_mem_partsOf

theorem read?_eq (codes : List CodePoint) :
    read? codes =
      if (partsOf codes).any List.isEmpty then none else ofParts? (partsOf codes) := by
  rw [partsOf, ← Text.map_trim_pieces_trim not_isBlank_dot codes]
  rfl

/-- A qualified name is one to three parts with a text. -/
theorem read?_eq_some_iff :
    read? codes = some entity ↔
      (∀ name ∈ partsOf codes, name ≠ []) ∧ ofParts? (partsOf codes) = some entity := by
  rw [read?_eq]
  by_cases solid : ∀ name ∈ partsOf codes, name ≠ []
  · have noneEmpty : (partsOf codes).any List.isEmpty = false := by
      apply List.any_eq_false.mpr
      intro name member
      rw [List.isEmpty_iff]
      exact solid name member
    rw [noneEmpty, if_neg Bool.false_ne_true]
    exact ⟨fun made => ⟨solid, made⟩, And.right⟩
  · have someEmpty : (partsOf codes).any List.isEmpty = true := by
      simpa using solid
    rw [someEmpty, if_pos rfl]
    constructor
    · intro read
      cases read
    · intro read
      exact absurd read.1 solid

theorem parse_eq_ok_iff {text : Text} :
    parse text = .ok entity ↔ read? text.toList = some entity := by
  unfold parse
  cases read? text.toList <;> simp

theorem exists_ofParts? (atLeast : 1 ≤ names.length) (atMost : names.length ≤ 3) :
    ∃ entity, ofParts? names = some entity := by
  match names with
  | [] => cases atLeast
  | [table] => exact ⟨_, rfl⟩
  | [schema, table] => exact ⟨_, rfl⟩
  | [schema, table, index] => exact ⟨_, rfl⟩
  | _ :: _ :: _ :: _ :: _ =>
      simp only [List.length_cons] at atMost
      omega

theorem parts_of_ofParts?
    (solid : ∀ name ∈ names, name ≠ [])
    (made : ofParts? names = some entity) :
    entity.parts = names.map Text.ofList := by
  have shown : ∀ name ∈ names, (Text.ofList name).isEmpty = false := by
    intro name member
    exact Bool.eq_false_iff.mpr fun empty => solid name member (List.isEmpty_iff.mp empty)
  unfold ofParts? at made
  split at made
  · obtain rfl := Option.some.inj made
    simp_all [parts, List.filterMap, Option.filter]
  · obtain rfl := Option.some.inj made
    simp_all [parts, List.filterMap, Option.filter]
  · obtain rfl := Option.some.inj made
    simp_all [parts, List.filterMap, Option.filter]
  · cases made

theorem toList_text_of_ofParts?
    (solid : ∀ name ∈ names, name ≠ [])
    (made : ofParts? names = some entity) :
    entity.text.toList = [CodePoint.char '.'].intercalate names := by
  rw [text, Text.toList_joinWith, parts_of_ofParts? solid made, List.map_map]
  congr 1
  exact List.map_id names

/-- A qualified name without white space is printed as it was read. -/
theorem toList_text_of_read?
    (solid : ∀ code ∈ codes, Text.isBlank code = false)
    (read : read? codes = some entity) :
    entity.text.toList = codes := by
  obtain ⟨named, made⟩ := read?_eq_some_iff.mp read
  have untrimmed : partsOf codes = pieces '.' codes := by
    apply (List.map_congr_left _).trans (List.map_id _)
    intro piece member
    apply Text.trim_of_not_isBlank
    intro code inside
    exact solid code (Text.mem_of_mem_pieces member inside)
  rw [toList_text_of_ofParts? named made, untrimmed, Text.intercalate_pieces]

/-- An entity that was read prints as its trimmed parts with single dots between them, and
this text is read as the entity. -/
theorem read?_text (read : read? codes = some entity) :
    entity.text = Text.joinWith "." ((partsOf codes).map Text.ofList) ∧
      read? entity.text.toList = some entity := by
  obtain ⟨solid, made⟩ := read?_eq_some_iff.mp read
  constructor
  · rw [text, parts_of_ofParts? solid made]
  · rw [toList_text_of_ofParts? solid made, read?_eq_some_iff, partsOf_intercalate_partsOf]
    exact ⟨solid, made⟩

end LinkedQuery.Entity
