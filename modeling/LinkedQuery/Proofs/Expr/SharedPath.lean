import LinkedQuery.Proofs.Expr

/-!
Contract: the nested path that expressions share.

Owns:
- the nested path of a field as the text before its last dot;
- the comparisons of expressions that no link stands before;
- the path that working off the expressions finds: the one that all those
  comparisons lie on, or none;
- changes of expressions that leave it as it is.

Does not own: what a group of expressions compiles to.
-/

namespace LinkedQuery

/-! ## Nested paths of fields -/

namespace Field

/-- The name of a field is a path, a dot and a rest without dots. -/
def IsUnder (field : Field) (path : Text) : Prop :=
  ∃ last, .char '.' ∉ last ∧ field.name.toList = path.toList ++ .char '.' :: last

theorem dropWhile_append_of_dotless
    {last : List CodePoint}
    (dotless : .char '.' ∉ last)
    (codes : List CodePoint) :
    (last.reverse ++ codes).dropWhile (· != .char '.') = codes.dropWhile (· != .char '.') := by
  apply List.dropWhile_append_of_pos
  intro code member
  rw [bne_iff_ne]
  rintro rfl
  exact dotless (List.mem_reverse.mp member)

theorem pathCodes?_append
    (path : List CodePoint)
    {last : List CodePoint}
    (dotless : .char '.' ∉ last) :
    pathCodes? (path ++ .char '.' :: last) = some path := by
  rw [pathCodes?, List.reverse_append, List.reverse_cons, List.append_assoc,
    dropWhile_append_of_dotless dotless]
  simp

theorem pathCodes?_of_dotless
    {codes : List CodePoint}
    (dotless : .char '.' ∉ codes) :
    pathCodes? codes = none := by
  rw [pathCodes?, ← List.append_nil codes.reverse, dropWhile_append_of_dotless dotless,
    List.dropWhile_nil]

theorem exists_last_dot
    {codes : List CodePoint}
    (dotted : .char '.' ∈ codes) :
    ∃ path last, .char '.' ∉ last ∧ codes = path ++ .char '.' :: last := by
  obtain ⟨last, path, same, dotless⟩ :=
    List.eq_append_cons_of_mem (List.mem_reverse.mpr dotted)
  refine ⟨path.reverse, last.reverse, fun member => dotless (List.mem_reverse.mp member), ?_⟩
  have turned := congrArg List.reverse same
  rwa [List.reverse_reverse, List.reverse_append, List.reverse_cons, List.append_assoc,
    List.singleton_append] at turned

theorem nestedPath_eq_some_iff {field : Field} {path : Text} :
    field.nestedPath = some path ↔ field.IsUnder path := by
  rw [nestedPath, Option.map_eq_some_iff]
  constructor
  · rintro ⟨codes, found, rfl⟩
    by_cases dotted : CodePoint.char '.' ∈ field.name.toList
    · obtain ⟨front, last, dotless, same⟩ := exists_last_dot dotted
      rw [same, pathCodes?_append front dotless] at found
      obtain rfl := Option.some.inj found
      exact ⟨last, dotless, same⟩
    · rw [pathCodes?_of_dotless dotted] at found
      cases found
  · rintro ⟨last, dotless, same⟩
    exact ⟨path.toList, by rw [same, pathCodes?_append path.toList dotless], rfl⟩

theorem nestedPath_eq_none_iff {field : Field} :
    field.nestedPath = none ↔ .char '.' ∉ field.name.toList := by
  rw [nestedPath, Option.map_eq_none_iff]
  constructor
  · intro absent dotted
    obtain ⟨front, last, dotless, same⟩ := exists_last_dot dotted
    rw [same, pathCodes?_append front dotless] at absent
    cases absent
  · exact pathCodes?_of_dotless

end Field

namespace Expr

/-! ## Comparisons behind no link -/

/-- An expression compares a field, and no link stands before that comparison. -/
inductive Compares (field : Field) : Expr → Prop
  | comparison (operator : Operator) (term : Term) :
      Compares field (.comparison operator field term)
  | withAll {items : List Expr} {item : Expr} (member : item ∈ items)
      (below : Compares field item) : Compares field (.withAll items)
  | andAll {items : List Expr} {item : Expr} (member : item ∈ items)
      (below : Compares field item) : Compares field (.andAll items)
  | orAny {items : List Expr} {item : Expr} (member : item ∈ items)
      (below : Compares field item) : Compares field (.orAny items)
  | negation {child : Expr} (below : Compares field child) : Compares field (.negation child)

/-- One of some expressions compares a field, behind no link. -/
def SomeCompares (exprs : List Expr) (field : Field) : Prop :=
  ∃ expr ∈ exprs, expr.Compares field

section Constructors

variable {field : Field} {items : List Expr} {child : Expr}

@[simp] theorem compares_withAll_iff :
    (withAll items).Compares field ↔ SomeCompares items field := by
  constructor
  · rintro ⟨⟩
    exact ⟨_, ‹_›, ‹_›⟩
  · rintro ⟨item, member, below⟩
    exact .withAll member below

@[simp] theorem compares_andAll_iff :
    (andAll items).Compares field ↔ SomeCompares items field := by
  constructor
  · rintro ⟨⟩
    exact ⟨_, ‹_›, ‹_›⟩
  · rintro ⟨item, member, below⟩
    exact .andAll member below

@[simp] theorem compares_orAny_iff :
    (orAny items).Compares field ↔ SomeCompares items field := by
  constructor
  · rintro ⟨⟩
    exact ⟨_, ‹_›, ‹_›⟩
  · rintro ⟨item, member, below⟩
    exact .orAny member below

@[simp] theorem compares_negation_iff :
    (negation child).Compares field ↔ child.Compares field := by
  constructor
  · rintro ⟨⟩
    assumption
  · exact .negation

@[simp] theorem not_compares_linked (link : Link) : ¬ (linked link child).Compares field := by
  rintro ⟨⟩

@[simp] theorem compares_comparison_iff {operator : Operator} {other : Field} {term : Term} :
    (comparison operator other term).Compares field ↔ other = field := by
  constructor
  · rintro ⟨⟩
    rfl
  · rintro rfl
    exact .comparison operator term

@[simp] theorem not_compares_foreign (name : String) : ¬ (foreign name).Compares field := by
  rintro ⟨⟩

end Constructors

/-- The paths of an expression are those of the fields that it compares. -/
theorem mem_ownPaths_iff {expr : Expr} {path : Option Text} :
    path ∈ expr.ownPaths ↔ ∃ field, expr.Compares field ∧ field.nestedPath = path := by
  have among {items : List Expr}
      (each : ∀ item ∈ items,
        (path ∈ item.ownPaths ↔ ∃ field, item.Compares field ∧ field.nestedPath = path)) :
      path ∈ ownPathsAll items ↔ ∃ field, SomeCompares items field ∧ field.nestedPath = path := by
    rw [mem_ownPathsAll_iff]
    constructor
    · rintro ⟨item, member, own⟩
      obtain ⟨field, compares, same⟩ := (each item member).mp own
      exact ⟨field, ⟨item, member, compares⟩, same⟩
    · rintro ⟨field, ⟨item, member, compares⟩, same⟩
      exact ⟨item, member, (each item member).mpr ⟨field, compares, same⟩⟩
  induction expr using Expr.induction with
  | withAll items inductionHypothesis | andAll items inductionHypothesis
  | orAny items inductionHypothesis =>
      rw [ownPaths, among inductionHypothesis]
      simp
  | negation child inductionHypothesis =>
      simpa [ownPaths] using inductionHypothesis
  | linked link child => simp [ownPaths]
  | comparison operator field term => simp [ownPaths, eq_comm]
  | foreign name => simp [ownPaths]

theorem mem_ownPathsAll_iff_someCompares {exprs : List Expr} {path : Option Text} :
    path ∈ ownPathsAll exprs ↔ ∃ field, SomeCompares exprs field ∧ field.nestedPath = path := by
  have grouped := @mem_ownPaths_iff (.andAll exprs) path
  simpa [ownPaths] using grouped

theorem sharedPath_eq_some_iff_compares {exprs : List Expr} {path : Text} :
    sharedPath exprs = some path ↔
      (∃ field, SomeCompares exprs field) ∧
      ∀ field, SomeCompares exprs field → field.IsUnder path := by
  rw [sharedPath_eq_some_iff, sharesPath_iff, mem_ownPathsAll_iff_someCompares]
  simp only [mem_ownPathsAll_iff_someCompares, ← Field.nestedPath_eq_some_iff,
    forall_exists_index, and_imp, forall_apply_eq_imp_iff₂]
  constructor
  · rintro ⟨⟨field, compares, -⟩, same⟩
    exact ⟨⟨field, compares⟩, same⟩
  · rintro ⟨⟨field, compares⟩, same⟩
    exact ⟨⟨field, compares, same field compares⟩, same⟩

theorem sharedPath_eq_none_iff {exprs : List Expr} :
    sharedPath exprs = none ↔
      (∀ field, ¬ SomeCompares exprs field) ∨
      (∃ field, SomeCompares exprs field ∧ .char '.' ∉ field.name.toList) ∨
      ∃ first second,
        SomeCompares exprs first ∧ SomeCompares exprs second ∧
        first.nestedPath ≠ second.nestedPath := by
  simp only [← Field.nestedPath_eq_none_iff]
  constructor
  · intro unshared
    by_cases compared : ∃ field, SomeCompares exprs field
    · obtain ⟨field, compares⟩ := compared
      cases nested : field.nestedPath with
      | none => exact .inr (.inl ⟨field, compares, nested⟩)
      | some path =>
          -- Were no comparison under another path, this one would be shared.
          have strays : ∃ other, SomeCompares exprs other ∧ other.nestedPath ≠ some path := by
            apply Classical.byContradiction
            intro never
            have shared : sharedPath exprs = some path := by
              refine sharedPath_eq_some_iff_compares.mpr
                ⟨⟨field, compares⟩, fun other otherCompares => ?_⟩
              apply Field.nestedPath_eq_some_iff.mp
              apply Classical.byContradiction
              exact fun different => never ⟨other, otherCompares, different⟩
            rw [unshared] at shared
            cases shared
          obtain ⟨other, otherCompares, different⟩ := strays
          exact .inr (.inr ⟨other, field, otherCompares, compares, by rwa [nested]⟩)
    · exact .inl fun field compares => compared ⟨field, compares⟩
  · intro reason
    cases found : sharedPath exprs with
    | none => rfl
    | some path =>
        obtain ⟨⟨field, compares⟩, same⟩ := sharedPath_eq_some_iff_compares.mp found
        simp only [← Field.nestedPath_eq_some_iff] at same
        rcases reason with none | ⟨other, compared, flat⟩ | ⟨first, second, one, two, different⟩
        · exact absurd compares (none field)
        · rw [same other compared] at flat
          cases flat
        · exact absurd ((same first one).trans (same second two).symm) different

/-! ## Changes that keep the path -/

/-- Expressions that are changed around their comparisons: put in another order,
repeated, negated, or joined in a group or taken out of it, and with anything behind
links.  Changes inside a group are changes of its items, taken out and put back. -/
inductive Rearranges : List Expr → List Expr → Prop
  | reorder {exprs others : List Expr} (order : exprs.Perm others) : Rearranges exprs others
  | duplicate {exprs : List Expr} {expr : Expr} (member : expr ∈ exprs) :
      Rearranges exprs (expr :: exprs)
  | negate (expr : Expr) (rest : List Expr) : Rearranges (expr :: rest) (.negation expr :: rest)
  | groupWith (items rest : List Expr) : Rearranges (items ++ rest) (.withAll items :: rest)
  | groupAnd (items rest : List Expr) : Rearranges (items ++ rest) (.andAll items :: rest)
  | groupOr (items rest : List Expr) : Rearranges (items ++ rest) (.orAny items :: rest)
  | relink (link other : Link) (child changed : Expr) (rest : List Expr) :
      Rearranges (.linked link child :: rest) (.linked other changed :: rest)
  | undo {exprs others : List Expr} (done : Rearranges exprs others) : Rearranges others exprs
  | trans {exprs between others : List Expr} (first : Rearranges exprs between)
      (second : Rearranges between others) : Rearranges exprs others

theorem Rearranges.someCompares_iff
    {exprs others : List Expr}
    (rearranges : Rearranges exprs others)
    (field : Field) :
    SomeCompares exprs field ↔ SomeCompares others field := by
  induction rearranges with
  | reorder order => simp [SomeCompares, order.mem_iff]
  | duplicate member =>
      constructor
      · rintro ⟨expr, inExprs, compares⟩
        exact ⟨expr, List.mem_cons_of_mem _ inExprs, compares⟩
      · rintro ⟨expr, inOthers, compares⟩
        rcases List.mem_cons.mp inOthers with rfl | inExprs
        · exact ⟨expr, member, compares⟩
        · exact ⟨expr, inExprs, compares⟩
  | negate expr rest => simp [SomeCompares]
  | groupWith items rest | groupAnd items rest | groupOr items rest =>
      simp [SomeCompares, or_and_right, exists_or]
  | relink link other child changed rest => simp [SomeCompares]
  | undo _ inductionHypothesis => exact inductionHypothesis.symm
  | trans _ _ first second => exact first.trans second

theorem Rearranges.sharedPath_eq
    {exprs others : List Expr}
    (rearranges : Rearranges exprs others) :
    sharedPath others = sharedPath exprs := by
  apply sharedPath_congr
  intro path
  simp only [mem_ownPathsAll_iff_someCompares, rearranges.someCompares_iff]

/-- The path that working off expressions finds is the one that all their comparisons
behind no link lie on.  None is found just if there is no such comparison, or one of a
field without dots, or two under different paths.  So no change around the comparisons
touches it. -/
theorem sharedPath_decided (exprs : List Expr) :
    (∀ path, sharedPath exprs = some path ↔
      (∃ field, SomeCompares exprs field) ∧
      ∀ field, SomeCompares exprs field → field.IsUnder path) ∧
    (sharedPath exprs = none ↔
      (∀ field, ¬ SomeCompares exprs field) ∨
      (∃ field, SomeCompares exprs field ∧ .char '.' ∉ field.name.toList) ∨
      ∃ first second,
        SomeCompares exprs first ∧ SomeCompares exprs second ∧
        first.nestedPath ≠ second.nestedPath) ∧
    ∀ others, Rearranges exprs others → sharedPath others = sharedPath exprs := by
  refine ⟨fun _ => sharedPath_eq_some_iff_compares, sharedPath_eq_none_iff, ?_⟩
  exact fun others rearranges => rearranges.sharedPath_eq

/-! ## A comparison beside a link -/

/-- A field under a path has a value. -/
def nestedPresence : Expr :=
  .comparison .contains ⟨⟨[.char 'p', .char '.', .char 'f']⟩⟩ .matchAll

/-- A field of a linked document has a value. -/
def linkedPresence (table name : Char) : Expr :=
  .linked ⟨none, none, ⟨none, ⟨[.char table]⟩, none⟩, none⟩
    (.comparison .contains ⟨⟨[.char name]⟩⟩ .matchAll)

/-- A comparison, and a group with a link. -/
def besideLink : List Expr :=
  [nestedPresence, .andAll [linkedPresence 'a' 'g']]

/-- The comparison negated in a group of its own, behind another link. -/
def behindOtherLink : List Expr :=
  [linkedPresence 'b' 'h', .orAny [.negation nestedPresence]]

theorem rearranges_besideLink : Rearranges besideLink behindOtherLink := by
  have negated : Rearranges besideLink [.negation nestedPresence, .andAll [linkedPresence 'a' 'g']] :=
    .negate _ _
  have grouped :
      Rearranges [.negation nestedPresence, .andAll [linkedPresence 'a' 'g']]
        [.orAny [.negation nestedPresence], .andAll [linkedPresence 'a' 'g']] :=
    .groupOr [.negation nestedPresence] _
  have reordered :
      Rearranges [.orAny [.negation nestedPresence], .andAll [linkedPresence 'a' 'g']]
        [.andAll [linkedPresence 'a' 'g'], .orAny [.negation nestedPresence]] :=
    .reorder (.swap _ _ _)
  have takenOut :
      Rearranges [.andAll [linkedPresence 'a' 'g'], .orAny [.negation nestedPresence]]
        [linkedPresence 'a' 'g', .orAny [.negation nestedPresence]] :=
    .undo (.groupAnd [linkedPresence 'a' 'g'] _)
  have relinked :
      Rearranges [linkedPresence 'a' 'g', .orAny [.negation nestedPresence]] behindOtherLink :=
    .relink _ _ _ _ _
  exact negated.trans (grouped.trans (reordered.trans (takenOut.trans relinked)))

theorem sharedPath_decided_besideLink :
    Rearranges besideLink behindOtherLink ∧
    sharedPath besideLink = some ⟨[.char 'p']⟩ ∧
    sharedPath behindOtherLink = some ⟨[.char 'p']⟩ := by
  have found : sharedPath besideLink = some ⟨[.char 'p']⟩ := by cbv
  obtain ⟨-, -, kept⟩ := sharedPath_decided besideLink
  exact ⟨rearranges_besideLink, found, (kept _ rearranges_besideLink).trans found⟩

end Expr

end LinkedQuery
