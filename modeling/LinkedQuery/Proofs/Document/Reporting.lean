import LinkedQuery.Proofs.Document.Escapes

/-!
Contract: which failures of the reader are faults of the document.

Owns:
- each kind of node and the failures below it that name no place;
- the reader as a whole: it gives an expression or a fault at a place, apart from the
  documents on which it gives up.

Does not own: weights and terms.
-/

namespace LinkedQuery.Document

/-! ## Expressions -/

section Expressions

variable {place : KeyPath} {fault : Fault} {body : Value}

theorem placed_readLink (entries : Entries) (place : KeyPath) :
    Placed (readLink entries place) := by
  unfold readLink
  split
  · split
    · exact placed_ok _
    · exact placed_error rfl
  · exact placed_error rfl

theorem escaped_readComparison_iff {operator : Operator} :
    Escaped (readComparison operator body place) fault ↔
      EscapesNode (.comparison operator) body fault := by
  constructor
  · intro escaped
    unfold readComparison at escaped
    split at escaped
    · split at escaped
      · rename_i name found
        split at escaped
        · exact absurd escaped (placed_error rfl fault)
        · rename_i notBlank
          have atTerm := (escaped_readTerm_iff _ _ _).mp (escaped_map_iff.mp escaped)
          exact .comparison found (Bool.eq_false_iff.mpr notBlank) atTerm
      · exact absurd escaped (placed_error rfl fault)
    · obtain ⟨rfl, -⟩ := escaped_error_iff.mp escaped
      exact .endless rfl
    · exact absurd escaped (placed_error rfl fault)
  · intro escapes
    cases escapes with
    | endless shaped =>
        obtain rfl := Option.some.inj shaped
        exact ⟨rfl, rfl⟩
    | group built => cases built
    | comparison found notBlank escapes =>
        simp only [readComparison, found, notBlank, Bool.false_eq_true, if_false]
        exact escaped_map_iff.mpr ((escaped_readTerm_iff _ _ _).mpr escapes)

theorem escaped_readExpr_of_build?
    {kind : NodeKind}
    {build : List Expr → Expr}
    (built : kind.build? = some build) :
    Escaped (readExpr (.map [(.text kind.key, body)]) place) fault ↔
      body = .again .list ∧ .endless = fault ∨
      ∃ items, body = .list items ∧ Escaped (readItems (place.key kind.key) 0 items) fault := by
  rw [readExpr.eq_def]
  simp only [listNode?_key, built]
  split
  · simp [escaped_map_iff]
  · simp [escaped_error_iff, Fault.place?]
  · rename_i other notEndless
    constructor
    · intro escaped
      exact absurd escaped (placed_error rfl fault)
    · intro ends
      obtain ⟨rfl, -⟩ | ⟨items, rfl, atItems⟩ := ends
      · exact absurd rfl notEndless
      · cases items with
        | nil =>
            rw [readItems] at atItems
            exact absurd atItems (not_escaped_ok [])
        | cons item rest => exact absurd rfl (other item rest)

theorem escaped_readExpr_negation :
    Escaped (readExpr (.map [(.text NodeKind.negation.key, body)]) place) fault ↔
      Escaped (readExpr body (place.key NodeKind.negation.key)) fault := by
  rw [readExpr.eq_def]
  simp only [listNode?_key, NodeKind.build?, NodeKind.key_eq_not_iff, if_true]
  exact escaped_map_iff

theorem escaped_readExpr_linked :
    Escaped (readExpr (.map [(.text NodeKind.linked.key, body)]) place) fault ↔
      body = .again .map ∧ .endless = fault ∨
      ∃ entries : Entries, body = .map entries ∧
        ∃ link,
          (∃ declaration, entries.get? "link" = some (.scalar (.text declaration)) ∧
            Link.parse declaration = .ok link) ∧
          ∃ query, entries.get? "query" = some query ∧
            Escaped (readExpr query ((place.key NodeKind.linked.key).key "query")) fault := by
  rw [readExpr.eq_def]
  simp only [listNode?_key, NodeKind.build?, NodeKind.key_eq_not_iff, NodeKind.key_eq_linked_iff,
    reduceCtorEq, if_true, if_false]
  split
  · rename_i entries
    simp only [Value.map.injEq, exists_eq_left', reduceCtorEq, false_and, false_or]
    cases linkRead : readLink entries (place.key NodeKind.linked.key) with
    | error other =>
        have linkPlaced := placed_readLink entries (place.key NodeKind.linked.key)
        rw [linkRead] at linkPlaced
        constructor
        · intro escaped
          exact absurd (escaped_error_iff.mpr (escaped_error_iff.mp escaped)) (linkPlaced fault)
        · intro ends
          obtain ⟨link, declared, -⟩ := ends
          rw [readLink_eq_ok_iff.mpr declared] at linkRead
          cases linkRead
    | ok link =>
        have declared := readLink_eq_ok_iff.mp linkRead
        simp only
        split
        · rename_i absent
          constructor
          · intro escaped
            exact absurd escaped (placed_error rfl fault)
          · intro ends
            obtain ⟨-, -, query, found, -⟩ := ends
            cases absent.symm.trans found
        · rename_i query found
          rw [escaped_map_iff]
          constructor
          · intro escaped
            exact ⟨link, declared, query, found, escaped⟩
          · intro ends
            obtain ⟨-, -, other, otherFound, escaped⟩ := ends
            obtain rfl := Option.some.inj (found.symm.trans otherFound)
            exact escaped
  · simp [escaped_error_iff, Fault.place?]
  · rename_i other notEndless
    constructor
    · intro escaped
      exact absurd escaped (placed_error rfl fault)
    · intro ends
      obtain ⟨rfl, -⟩ | ⟨entries, rfl, -⟩ := ends
      · exact absurd rfl notEndless
      · exact absurd rfl (other entries)

/-- What the reader gives up on has no end, or has one key that names a kind of node. -/
theorem exists_kind_of_escaped
    {value : Value}
    (escaped : Escaped (readExpr value place) fault) :
    value = .again .map ∧ .endless = fault ∨
      ∃ (kind : NodeKind) (body : Value), value = .map [(.text kind.key, body)] := by
  by_cases named : ∃ (kind : NodeKind) (body : Value), value = .map [(.text kind.key, body)]
  · exact Or.inr named
  have unnamed : ∀ name body, value ≠ .map [(.text name, body)] := by
    intro name body whole
    rw [whole, readExpr_of_unnamed] at escaped
    · exact placed_error rfl fault escaped
    · intro kind same
      exact named ⟨kind, body, by rw [whole, same]⟩
  rw [readExpr.eq_def] at escaped
  split at escaped
  · exact absurd rfl (unnamed _ _)
  · exact absurd escaped (placed_error rfl fault)
  · exact Or.inl ⟨rfl, (escaped_error_iff.mp escaped).1⟩
  · exact absurd escaped (placed_error rfl fault)

theorem escapes_iff_escapesNode {kind : NodeKind} :
    Escapes (.map [(.text kind.key, body)]) fault ↔ EscapesNode kind body fault := by
  constructor
  · intro escapes
    generalize whole : Value.map [(.text kind.key, body)] = value at escapes
    cases escapes with
    | endless => cases whole
    | node escapes =>
        simp only [Value.map.injEq, List.cons.injEq, Prod.mk.injEq, Scalar.text.injEq, and_true]
          at whole
        obtain ⟨same, rfl⟩ := whole
        obtain rfl := NodeKind.key_injective same
        exact escapes
  · exact .node

theorem escapesNode_of_build?
    {kind : NodeKind}
    {build : List Expr → Expr}
    (built : kind.build? = some build) :
    EscapesNode kind body fault ↔
      body = .again .list ∧ .endless = fault ∨
      ∃ items, body = .list items ∧ EscapesItems items fault := by
  have shaped : kind.shape? = some .list := by
    cases kind with
    | andAll | orAny | withAll => rfl
    | negation | linked | comparison => cases built
  constructor
  · intro escapes
    cases escapes with
    | endless otherShaped =>
        obtain rfl := Option.some.inj (shaped.symm.trans otherShaped)
        exact Or.inl ⟨rfl, rfl⟩
    | group _ escapes => exact Or.inr ⟨_, rfl, escapes⟩
    | negation => cases built
    | linked => cases built
    | comparison => cases built
  · intro ends
    obtain ⟨rfl, rfl⟩ | ⟨items, rfl, escapes⟩ := ends
    · exact .endless shaped
    · exact .group built escapes

theorem escapesNode_negation :
    EscapesNode .negation body fault ↔ Escapes body fault := by
  constructor
  · intro escapes
    cases escapes with
    | endless shaped => cases shaped
    | group built => cases built
    | negation escapes => exact escapes
  · exact .negation

theorem escapesNode_linked :
    EscapesNode .linked body fault ↔
      body = .again .map ∧ .endless = fault ∨
      ∃ entries : Entries, body = .map entries ∧
        ∃ link,
          (∃ declaration, entries.get? "link" = some (.scalar (.text declaration)) ∧
            Link.parse declaration = .ok link) ∧
          ∃ query, entries.get? "query" = some query ∧ Escapes query fault := by
  constructor
  · intro escapes
    cases escapes with
    | endless shaped =>
        obtain rfl := Option.some.inj shaped
        exact Or.inl ⟨rfl, rfl⟩
    | group built => cases built
    | linked declared parsed found escapes =>
        exact Or.inr ⟨_, rfl, _, ⟨_, declared, parsed⟩, _, found, escapes⟩
  · intro ends
    obtain ⟨rfl, rfl⟩ | ⟨entries, rfl, link, ⟨declaration, declared, parsed⟩, query, found, escapes⟩ :=
      ends
    · exact .endless rfl
    · exact .linked declared parsed found escapes

theorem escapesItems_cons {item : Value} {rest : List Value} :
    EscapesItems (item :: rest) fault ↔
      Escapes item fault ∨
      ∃ expr, Denotes Value.Written item expr ∧ EscapesItems rest fault := by
  constructor
  · intro escapes
    cases escapes with
    | here escapes => exact Or.inl escapes
    | later denotes escapes => exact Or.inr ⟨_, denotes, escapes⟩
  · intro escapes
    obtain escapes | ⟨expr, denotes, escapes⟩ := escapes
    · exact .here escapes
    · exact .later denotes escapes

theorem escaped_readItems_cons {position : Nat} {item : Value} {rest : List Value} :
    Escaped (readItems place position (item :: rest)) fault ↔
      Escaped (readExpr item (place.index position)) fault ∨
      ∃ expr, Denotes Value.Written item expr ∧
        Escaped (readItems place (position + 1) rest) fault := by
  rw [readItems]
  simp only [escaped_bind_iff, readExpr_eq_ok_iff]
  apply or_congr_right
  refine exists_congr fun expr => and_congr_right fun _ => ?_
  constructor
  · intro escaped
    rcases escaped with atRest | ⟨exprs, -, atEnd⟩
    · exact atRest
    · exact absurd atEnd (not_escaped_ok _)
  · exact Or.inl

end Expressions

mutual

/-- The reader fails without a place just on the documents that escape. -/
theorem escaped_readExpr_iff (value : Value) (place : KeyPath) (fault : Fault) :
    Escaped (readExpr value place) fault ↔ Escapes value fault := by
  by_cases named : ∃ (kind : NodeKind) (body : Value), value = .map [(.text kind.key, body)]
  · obtain ⟨kind, body, whole⟩ := named
    rw [whole, escapes_iff_escapesNode]
    cases built : kind.build? with
    | some build =>
        rw [escaped_readExpr_of_build? built, escapesNode_of_build? built]
        refine or_congr_right (exists_congr fun items => and_congr_right fun listed => ?_)
        exact escaped_readItems_iff items (place.key kind.key) 0 fault
    | none =>
        cases kind with
        | negation =>
            rw [escaped_readExpr_negation, escapesNode_negation]
            exact escaped_readExpr_iff body (place.key NodeKind.negation.key) fault
        | linked =>
            rw [escaped_readExpr_linked, escapesNode_linked]
            refine or_congr_right (exists_congr fun entries => and_congr_right fun mapped =>
              exists_congr fun link => and_congr_right fun _ =>
                exists_congr fun query => and_congr_right fun found => ?_)
            exact escaped_readExpr_iff query _ fault
        | comparison operator => rw [readExpr_comparison, escaped_readComparison_iff]
        | andAll | orAny | withAll => cases built
  · constructor
    · intro escaped
      obtain ⟨rfl, rfl⟩ | other := exists_kind_of_escaped escaped
      · exact .endless
      · exact absurd other named
    · intro escapes
      cases escapes with
      | endless =>
          rw [readExpr]
          exact ⟨rfl, rfl⟩
      | node => exact absurd ⟨_, _, rfl⟩ named
termination_by sizeOf value
decreasing_by
  · simp [whole]
    omega
  · have smaller := Entries.sizeOf_lt_of_get? found
    simp [whole, mapped]
    omega
  · simp [whole, listed]
    omega

theorem escaped_readItems_iff
    (items : List Value)
    (place : KeyPath)
    (position : Nat)
    (fault : Fault) :
    Escaped (readItems place position items) fault ↔ EscapesItems items fault := by
  match items with
  | [] =>
      rw [readItems]
      constructor
      · intro escaped
        exact absurd escaped (not_escaped_ok [])
      · intro escapes
        cases escapes
  | item :: rest =>
      rw [escaped_readItems_cons, escapesItems_cons, escaped_readExpr_iff item,
        escaped_readItems_iff rest]
termination_by sizeOf items

end

/-- Every document gives an expression or a fault at a place, unless it leads the reader to
a weight without a finite binary64 or to data without end; and on those documents the
reader gives up, wherever they start. -/
theorem read_reports_iff (value : Value) (start : Text) :
    (((∃ expr, read value start = .ok expr) ∨
        ∃ fault place, read value start = .error fault ∧ fault.place? = some place) ↔
      ¬ ∃ fault, Escapes value fault) ∧
    ∀ fault, Escapes value fault ↔ read value start = .error fault ∧ fault.place? = none := by
  have escaped : ∀ fault, Escapes value fault ↔ Escaped (read value start) fault :=
    fun fault => (escaped_readExpr_iff value (.ofStart start) fault).symm
  refine ⟨?_, escaped⟩
  simp only [escaped]
  cases outcome : read value start with
  | ok expr => simp
  | error found =>
      cases named : found.place? with
      | none => simp [Escaped, named]
      | some place => simp [Escaped, named]

/-- A mapping that compares a field with a text, whose weight is beyond binary64. -/
def heavyEntries : Entries :=
  [(.text "field", .scalar (.text "f")),
   (.text "string", .scalar (.text "a")),
   (.text "boost", .scalar (.int (Nat.pow 10 400)))]

theorem names_heavyEntries : Names heavyEntries .string (.scalar (.text "a")) := by
  refine ⟨rfl, fun other different => ?_⟩
  cases other with
  | string => exact absurd rfl different
  | null | matchAll | phrase | phraseWildcard | wildcard | fuzzy | range | regex | array
  | proximity | unparsedArray => rfl

/-- A document fails without a fault at any of its places. -/
theorem read_heavyEntries :
    read (.map [(.text "eq", .map heavyEntries)]) "query" = .error .numberTooLarge ∧
      Fault.numberTooLarge.place? = none ∧
      ¬ ∃ fault place,
        read (.map [(.text "eq", .map heavyEntries)]) "query" = .error fault ∧
          fault.place? = some place := by
  have infinite : (Double.ofInt (Nat.pow 10 400)).isFinite = false := by decide +kernel
  have term : EscapesTerm heavyEntries .numberTooLarge :=
    .weight names_heavyEntries rfl infinite
  have node : EscapesNode (.comparison .eq) (.map heavyEntries) .numberTooLarge :=
    .comparison rfl rfl term
  have escaped : Escaped (readExpr (.map [(.text "eq", .map heavyEntries)]) (.ofStart "query"))
      .numberTooLarge :=
    (escaped_readExpr_iff _ _ _).mpr (.node node)
  refine ⟨escaped.1, rfl, ?_⟩
  intro reported
  obtain ⟨fault, place, failed, named⟩ := reported
  obtain rfl := Except.error.inj (escaped.1.symm.trans failed)
  cases named

end LinkedQuery.Document
