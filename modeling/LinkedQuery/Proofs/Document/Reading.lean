import LinkedQuery.Proofs.Document.Terms

/-!
Contract: the reader of query documents accepts its grammar.

Owns:
- the kind of node that a key names;
- what each kind of node is read as;
- the documents that are read, and the expression of each: those and that which
  the grammar gives, where every integer that is shown can be written.

Does not own: the faults of documents that are refused.
-/

namespace LinkedQuery

theorem Operator.find?_key (operator : Operator) :
    Operator.find? Operator.key (Text.ofString operator.key) = some operator := by
  cases operator <;> rfl

theorem Operator.key_of_find?_key
    {name : Text}
    {operator : Operator}
    (found : Operator.find? Operator.key name = some operator) :
    Text.ofString operator.key = name := by
  simpa using List.find?_some found

namespace Document

variable {place : KeyPath} {body : Value} {expr : Expr}

/-! ## Kinds of nodes -/

/-- All kinds of nodes. -/
def NodeKind.all : List NodeKind :=
  [.andAll, .orAny, .withAll, .negation, .linked] ++ Operator.all.map .comparison

/-- The kind that a key names. -/
def NodeKind.ofKey? (name : Text) : Option NodeKind :=
  all.find? fun kind => kind.key = name

theorem NodeKind.ofKey?_key (kind : NodeKind) : ofKey? kind.key = some kind := by
  cases kind with
  | andAll | orAny | withAll | negation | linked => rfl
  | comparison operator => cases operator <;> rfl

theorem NodeKind.key_injective {kind other : NodeKind} (same : kind.key = other.key) :
    kind = other := by
  have named := ofKey?_key kind
  rw [same, ofKey?_key] at named
  exact (Option.some.inj named).symm

theorem NodeKind.key_eq_not_iff {kind : NodeKind} :
    kind.key = "not" ↔ kind = .negation :=
  ⟨fun same => key_injective (show kind.key = NodeKind.negation.key from same),
    fun same => congrArg key same⟩

theorem NodeKind.key_eq_linked_iff {kind : NodeKind} :
    kind.key = "linked" ↔ kind = .linked :=
  ⟨fun same => key_injective (show kind.key = NodeKind.linked.key from same),
    fun same => congrArg key same⟩

theorem listNode?_key (kind : NodeKind) : listNode? kind.key = kind.build? := by
  cases kind with
  | andAll | orAny | withAll | negation | linked => rfl
  | comparison operator => cases operator <;> rfl

/-! ## Nodes -/

theorem readLink_eq_ok_iff {entries : Entries} {link : Link} :
    readLink entries place = .ok link ↔
      ∃ declaration, entries.get? "link" = some (.scalar (.text declaration)) ∧
        Link.parse declaration = .ok link := by
  unfold readLink
  split
  · rename_i declaration found
    simp only [found, Option.some.injEq, Value.scalar.injEq, Scalar.text.injEq, exists_eq_left']
    cases Link.parse declaration <;> simp
  · rename_i other
    simp only [reduceCtorEq, false_iff]
    rintro ⟨declaration, found, -⟩
    exact other declaration found

theorem readComparison_eq_ok_iff {operator : Operator} :
    readComparison operator body place = .ok expr ↔
      DenotesNode Value.Written (.comparison operator) body expr := by
  constructor
  · intro read
    unfold readComparison at read
    split at read
    · split at read
      · rename_i name found
        split at read
        · cases read
        · rename_i notBlank
          obtain ⟨term, termRead, rfl⟩ := except_map_eq_ok_iff.mp read
          exact .comparison found (Bool.eq_false_iff.mpr notBlank)
            ((readTerm_eq_ok_iff _ _ _).mp termRead)
      · cases read
    · cases read
    · cases read
  · rintro (⟨⟨⟩⟩ | _ | _ | ⟨found, notBlank, denotes⟩)
    simp only [readComparison, found, notBlank, Bool.false_eq_true, if_false]
    exact except_map_eq_ok_iff.mpr ⟨_, (readTerm_eq_ok_iff _ _ _).mpr denotes, rfl⟩

theorem readExpr_of_build?
    {kind : NodeKind}
    {build : List Expr → Expr}
    (built : kind.build? = some build) :
    readExpr (.map [(.text kind.key, body)]) place = .ok expr ↔
      ∃ items, body = .list items ∧ items ≠ [] ∧
        ∃ exprs, readItems (place.key kind.key) 0 items = .ok exprs ∧ build exprs = expr := by
  rw [readExpr.eq_def]
  simp only [listNode?_key, built]
  split
  · simp [except_map_eq_ok_iff]
  · simp
  · rename_i other _
    simp only [reduceCtorEq, false_iff]
    rintro ⟨_ | ⟨item, rest⟩, rfl, some, -⟩
    · exact some rfl
    · exact other item rest rfl

theorem readExpr_negation :
    readExpr (.map [(.text NodeKind.negation.key, body)]) place = .ok expr ↔
      ∃ child, readExpr body (place.key NodeKind.negation.key) = .ok child ∧
        .negation child = expr := by
  rw [readExpr.eq_def]
  simp only [listNode?_key, NodeKind.build?, NodeKind.key_eq_not_iff, if_true]
  exact except_map_eq_ok_iff

theorem readExpr_linked :
    readExpr (.map [(.text NodeKind.linked.key, body)]) place = .ok expr ↔
      ∃ entries : Entries, body = .map entries ∧
        ∃ link, readLink entries (place.key NodeKind.linked.key) = .ok link ∧
          ∃ query, entries.get? "query" = some query ∧
            ∃ child,
              readExpr query ((place.key NodeKind.linked.key).key "query") = .ok child ∧
              .linked link child = expr := by
  rw [readExpr.eq_def]
  simp only [listNode?_key, NodeKind.build?, NodeKind.key_eq_not_iff, NodeKind.key_eq_linked_iff,
    reduceCtorEq, if_true, if_false]
  split
  · rename_i entries
    simp only [Value.map.injEq, exists_eq_left']
    split
    · rename_i refused
      simp [refused]
    · rename_i link linkRead
      split
      · rename_i absent
        simp [absent]
      · rename_i query found
        simp [linkRead, found, except_map_eq_ok_iff]
  · simp
  · rename_i other _
    simp only [reduceCtorEq, false_iff]
    rintro ⟨entries, rfl, -⟩
    exact other entries rfl

theorem readExpr_comparison {operator : Operator} :
    readExpr (.map [(.text (NodeKind.comparison operator).key, body)]) place =
      readComparison operator body (place.key operator.key) := by
  rw [readExpr.eq_def]
  simp only [listNode?_key, NodeKind.build?, NodeKind.key_eq_not_iff, NodeKind.key_eq_linked_iff,
    reduceCtorEq, if_false]
  simp only [NodeKind.key, Operator.find?_key]

theorem readExpr_of_unnamed
    {name : Text}
    (unnamed : ∀ kind : NodeKind, kind.key ≠ name) :
    readExpr (.map [(.text name, body)]) place = .error (.unknownNode place name) := by
  have notAnd : ¬ name = "and" := fun same => unnamed .andAll same.symm
  have notOr : ¬ name = "or" := fun same => unnamed .orAny same.symm
  have notWith : ¬ name = "with" := fun same => unnamed .withAll same.symm
  have notNegation : ¬ name = "not" := fun same => unnamed .negation same.symm
  have notLinked : ¬ name = "linked" := fun same => unnamed .linked same.symm
  have notOperator : Operator.find? Operator.key name = none := by
    cases found : Operator.find? Operator.key name with
    | none => rfl
    | some operator =>
        exact absurd (Operator.key_of_find?_key found) (unnamed (.comparison operator))
  rw [readExpr.eq_def]
  simp only [listNode?, notAnd, notOr, notWith, notNegation, notLinked, notOperator, if_false]

/-! ## Documents -/

/-- What is read is a mapping with one key, which names a kind of node. -/
theorem exists_kind_of_readExpr
    {value : Value}
    (read : readExpr value place = .ok expr) :
    ∃ (kind : NodeKind) (body : Value), value = .map [(.text kind.key, body)] := by
  by_contra other
  have unnamed : ∀ name body, value = .map [(.text name, body)] → False := by
    rintro name body rfl
    rw [readExpr_of_unnamed] at read
    · cases read
    · rintro kind rfl
      exact other ⟨kind, body, rfl⟩
  rw [readExpr.eq_def] at read
  split at read
  · exact unnamed _ _ rfl
  · cases read
  · cases read
  · cases read

/-- A document whose key names a kind denotes what a node of that kind does. -/
theorem denotes_iff_denotesNode {shows : Value → Text → Prop} {kind : NodeKind} :
    Denotes shows (.map [(.text kind.key, body)]) expr ↔ DenotesNode shows kind body expr := by
  constructor
  · intro denotes
    generalize whole : Value.map [(.text kind.key, body)] = value at denotes
    obtain ⟨denotes⟩ := denotes
    simp only [Value.map.injEq, List.cons.injEq, Prod.mk.injEq, Scalar.text.injEq, and_true] at whole
    obtain ⟨same, rfl⟩ := whole
    obtain rfl := NodeKind.key_injective same
    exact denotes
  · exact .node

section Inversion

variable {shows : Value → Text → Prop}

theorem denotesNode_of_build?
    {kind : NodeKind}
    {build : List Expr → Expr}
    (built : kind.build? = some build) :
    DenotesNode shows kind body expr ↔
      ∃ items, body = .list items ∧ items ≠ [] ∧
        ∃ exprs, DenotesItems shows items exprs ∧ build exprs = expr := by
  constructor
  · intro denotes
    cases denotes with
    | group otherBuilt nonempty denotes =>
        obtain rfl := Option.some.inj (built.symm.trans otherBuilt)
        exact ⟨_, rfl, nonempty, _, denotes, rfl⟩
    | negation | linked | comparison => cases built
  · rintro ⟨items, rfl, nonempty, exprs, denotes, rfl⟩
    exact .group built nonempty denotes

theorem denotesNode_negation :
    DenotesNode shows .negation body expr ↔
      ∃ child, Denotes shows body child ∧ .negation child = expr := by
  constructor
  · rintro (⟨⟨⟩⟩ | denotes)
    exact ⟨_, denotes, rfl⟩
  · rintro ⟨child, denotes, rfl⟩
    exact .negation denotes

theorem denotesNode_linked :
    DenotesNode shows .linked body expr ↔
      ∃ entries : Entries, body = .map entries ∧
        ∃ link,
          (∃ declaration, entries.get? "link" = some (.scalar (.text declaration)) ∧
            Link.parse declaration = .ok link) ∧
          ∃ query, entries.get? "query" = some query ∧
            ∃ child, Denotes shows query child ∧ .linked link child = expr := by
  constructor
  · rintro (⟨⟨⟩⟩ | _ | ⟨declared, parsed, found, denotes⟩)
    exact ⟨_, rfl, _, ⟨_, declared, parsed⟩, _, found, _, denotes, rfl⟩
  · rintro ⟨entries, rfl, link, ⟨declaration, declared, parsed⟩, query, found, child, denotes, rfl⟩
    exact .linked declared parsed found denotes

end Inversion

mutual

/-- A document is read as the expression that it denotes. -/
theorem readExpr_eq_ok_iff (value : Value) (place : KeyPath) (expr : Expr) :
    readExpr value place = .ok expr ↔ Denotes Value.Written value expr := by
  by_cases named : ∃ (kind : NodeKind) (body : Value), value = .map [(.text kind.key, body)]
  · obtain ⟨kind, body, whole⟩ := named
    rw [whole, denotes_iff_denotesNode]
    cases built : kind.build? with
    | some build =>
        rw [readExpr_of_build? built, denotesNode_of_build? built]
        refine exists_congr fun items => and_congr_right fun listed => ?_
        simp only [readItems_eq_ok_iff items]
    | none =>
        cases kind with
        | negation =>
            rw [readExpr_negation, denotesNode_negation]
            simp only [readExpr_eq_ok_iff body]
        | linked =>
            rw [readExpr_linked, denotesNode_linked]
            simp only [readLink_eq_ok_iff]
            refine exists_congr fun entries => and_congr_right fun mapped =>
              exists_congr fun link => and_congr_right fun _ =>
                exists_congr fun query => and_congr_right fun found => ?_
            simp only [readExpr_eq_ok_iff query]
        | comparison operator => rw [readExpr_comparison, readComparison_eq_ok_iff]
        | andAll | orAny | withAll => cases built
  · constructor
    · exact fun read => absurd (exists_kind_of_readExpr read) named
    · rintro ⟨denotes⟩
      exact absurd ⟨_, _, rfl⟩ named
termination_by sizeOf value
decreasing_by
  · simp [whole]
    omega
  · have smaller := Entries.sizeOf_lt_of_get? found
    simp [whole, mapped]
    omega
  · simp [whole, listed]
    omega

theorem readItems_eq_ok_iff
    (items : List Value)
    (place : KeyPath)
    (position : Nat)
    (exprs : List Expr) :
    readItems place position items = .ok exprs ↔ DenotesItems Value.Written items exprs := by
  match items with
  | [] =>
      rw [readItems]
      constructor
      · rintro ⟨⟩
        exact .nil
      · rintro ⟨⟩
        rfl
  | item :: rest =>
      rw [readItems]
      simp only [except_seq_eq_ok_iff, except_pure_eq_ok_iff, readExpr_eq_ok_iff item,
        readItems_eq_ok_iff rest]
      constructor
      · rintro ⟨expr, denotes, others, restDenotes, rfl⟩
        exact .cons denotes restDenotes
      · rintro (_ | ⟨denotes, restDenotes⟩)
        exact ⟨_, denotes, _, restDenotes, rfl⟩
termination_by sizeOf items

end

/-- A document is read, wherever it starts, just if the grammar has it, with all
scalars written; and it is read as the expression that it denotes. -/
theorem read_eq_ok_iff (value : Value) (start : Text) (expr : Expr) :
    read value start = .ok expr ↔ Denotes Value.Written value expr :=
  readExpr_eq_ok_iff value (.ofStart start) expr

/-- The least integer that is too long to be written. -/
def longNumber : Value :=
  .scalar (.int (Nat.pow 10 maxDigits))

/-- A mapping that compares a field with that integer. -/
def longEntries : Entries :=
  [(.text "field", .scalar (.text "f")), (.text "string", longNumber)]

theorem names_longEntries : Names longEntries .string longNumber := by
  refine ⟨rfl, fun other different => ?_⟩
  cases other with
  | string => exact absurd rfl different
  | null | matchAll | phrase | phraseWildcard | wildcard | fuzzy | range | regex | array
  | proximity | unparsedArray => rfl

theorem longNumber_isOverlong : longNumber.isOverlong = true := by
  rw [longNumber, Value.isOverlong, Scalar.isOverlong]
  exact isOverlong_natCast_iff.mpr (Nat.le_refl _)

/-- The grammar without the limit has a document that is not read: a scalar in it is
too long to be written. -/
theorem not_read_longNumber :
    Denotes Value.Plain (.map [(.text "eq", .map longEntries)])
      (.comparison .eq ⟨"f"⟩ (.string longNumber.plain none)) ∧
    ∀ expr, read (.map [(.text "eq", .map longEntries)]) "query" ≠ .ok expr := by
  constructor
  · have term : DenotesTerm Value.Plain longEntries (.string longNumber.plain none) :=
      .simple names_longEntries .absent (.single rfl ⟨trivial, rfl⟩ .absent)
    have node : DenotesNode Value.Plain (.comparison .eq) (.map longEntries)
        (.comparison .eq ⟨"f"⟩ (.string longNumber.plain none)) :=
      .comparison rfl rfl term
    exact .node node
  · intro expr read
    have denotes : DenotesNode Value.Written (.comparison .eq) (.map longEntries) expr :=
      denotes_iff_denotesNode.mp ((readExpr_eq_ok_iff _ _ _).mp read)
    rcases denotes with ⟨⟨⟩⟩ | _ | _ | ⟨-, -, term⟩
    obtain ⟨weight, -, simple⟩ := (denotesTerm_of_names names_longEntries (by decide)).mp term
    rcases simple with _ | _ | ⟨-, ⟨-, written⟩, -⟩
    rw [longNumber_isOverlong] at written
    cases written

end Document

end LinkedQuery
