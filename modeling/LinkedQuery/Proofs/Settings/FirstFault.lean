import LinkedQuery.Proofs.Settings.Validation
import Mathlib.Data.List.Nodup
import Mathlib.Data.Prod.Lex
import Mathlib.Order.Bounds.Basic

/-!
Contract: the fault that declarations of indexes are refused for.

Owns:
- the positions of repeated declarations and of links that lead nowhere;
- which fault is reported: the lack of declarations, else the first repeated one,
  else the first link to an undeclared entity;
- the judgement of declarations, which reports just that fault.

Does not own: the wording of faults.
-/

namespace LinkedQuery.Settings

variable {declarations front rest : List Declaration} {fault other : Fault}

/-! ## Positions of faults -/

/-- What is shown of the declaration at a position is shown of an earlier one. -/
def Repeats {α : Type} (shown : Declaration → α) (declarations : List Declaration)
    (position : Nat) : Prop :=
  ∃ earlier < position, ∃ former declaration,
    declarations[earlier]? = some former ∧
    declarations[position]? = some declaration ∧
    shown former = shown declaration

/-- The declaration at a position repeats a name or a backend name. -/
def IsRepeated (declarations : List Declaration) (position : Nat) : Prop :=
  Repeats Declaration.entity declarations position ∨
  Repeats (·.options.backendName) declarations position

/-- A link of a declaration, both given by their positions, leads to an entity that is
not declared. -/
def Strays (declarations : List Declaration) (place : ℕ ×ₗ ℕ) : Prop :=
  ∃ declaration link,
    declarations[(ofLex place).1]? = some declaration ∧
    declaration.options.links[(ofLex place).2]? = some link ∧
    link.entity ∉ declarations.map Declaration.entity

/-- The fault that declarations are refused for.  A repeated declaration comes before
any link, the first one before all others, and its name before its backend name. -/
inductive Reports (declarations : List Declaration) : Fault → Prop
  | none (empty : declarations = []) : Reports declarations .noIndexes
  | name
      {position : Nat}
      {declaration : Declaration}
      (first : IsLeast {position | IsRepeated declarations position} position)
      (stands : declarations[position]? = some declaration)
      (repeated : Repeats Declaration.entity declarations position) :
      Reports declarations (.nameTwice position declaration.entity)
  | backendName
      {position : Nat}
      {declaration : Declaration}
      (first : IsLeast {position | IsRepeated declarations position} position)
      (stands : declarations[position]? = some declaration)
      (fresh : ¬ Repeats Declaration.entity declarations position) :
      Reports declarations (.backendTwice position declaration.options.backendName)
  | target
      {position linkPosition : Nat}
      {declaration : Declaration}
      {link : Link}
      (distinct : ∀ position, ¬ IsRepeated declarations position)
      (first : IsLeast {place | Strays declarations place} (toLex (position, linkPosition)))
      (stands : declarations[position]? = some declaration)
      (linkStands : declaration.options.links[linkPosition]? = some link) :
      Reports declarations (.undeclaredTarget position linkPosition link.entity)

theorem repeats_at_length_iff
    {α : Type}
    {shown : Declaration → α}
    {declaration : Declaration} :
    Repeats shown (front ++ declaration :: rest) front.length ↔
      shown declaration ∈ front.map shown := by
  have stands : (front ++ declaration :: rest)[front.length]? = some declaration := by simp
  rw [List.mem_map]
  constructor
  · rintro ⟨earlier, before, former, found, formerStands, foundStands, same⟩
    rw [List.getElem?_append_left before] at formerStands
    rw [stands] at foundStands
    exact ⟨former, List.mem_of_getElem? formerStands, by rw [same, Option.some.inj foundStands]⟩
  · rintro ⟨former, member, same⟩
    obtain ⟨earlier, formerStands⟩ := List.mem_iff_getElem?.mp member
    have before : earlier < front.length := (List.getElem?_eq_some_iff.mp formerStands).1
    refine ⟨earlier, before, former, declaration, ?_, stands, same⟩
    rw [List.getElem?_append_left before]
    exact formerStands

theorem not_repeats_of_nodup
    {α : Type}
    {shown : Declaration → α}
    (nodup : (declarations.map shown).Nodup)
    (position : Nat) :
    ¬ Repeats shown declarations position := by
  rintro ⟨earlier, before, former, declaration, formerStands, stands, same⟩
  have inside : position < (declarations.map shown).length := by
    rw [List.length_map]
    exact (List.getElem?_eq_some_iff.mp stands).1
  apply List.nodup_iff_getElem?_ne_getElem?.mp nodup earlier position before inside
  rw [List.getElem?_map, List.getElem?_map, formerStands, stands, Option.map_some,
    Option.map_some, same]

theorem FitTogether.not_isRepeated (fit : FitTogether declarations) (position : Nat) :
    ¬ IsRepeated declarations position := by
  rintro (name | backendName)
  · exact not_repeats_of_nodup fit.names position name
  · exact not_repeats_of_nodup fit.backendNames position backendName

theorem FitTogether.not_strays (fit : FitTogether declarations) (place : ℕ ×ₗ ℕ) :
    ¬ Strays declarations place := by
  rintro ⟨declaration, link, stands, linkStands, undeclared⟩
  exact undeclared
    (fit.targets declaration (List.mem_of_getElem? stands) link (List.mem_of_getElem? linkStands))

/-- Declarations that are refused for a fault do not fit together. -/
theorem Reports.not_fitTogether (reports : Reports declarations fault) :
    ¬ FitTogether declarations := by
  intro fit
  cases reports with
  | none empty => exact fit.nonempty empty
  | name first => exact fit.not_isRepeated _ first.1
  | backendName first => exact fit.not_isRepeated _ first.1
  | target _ first => exact fit.not_strays _ first.1

/-- Declarations are refused for one fault. -/
theorem Reports.unique
    (reports : Reports declarations fault)
    (otherReports : Reports declarations other) :
    fault = other := by
  cases reports with
  | none empty =>
      subst empty
      cases otherReports with
      | none => rfl
      | name _ stands | backendName _ stands | target _ _ stands => cases stands
  | name first stands repeated =>
      cases otherReports with
      | none empty =>
          subst empty
          cases stands
      | name otherFirst otherStands =>
          obtain rfl := first.unique otherFirst
          rw [Option.some.inj (stands.symm.trans otherStands)]
      | backendName otherFirst _ fresh =>
          obtain rfl := first.unique otherFirst
          exact absurd repeated fresh
      | target distinct => exact absurd first.1 (distinct _)
  | backendName first stands fresh =>
      cases otherReports with
      | none empty =>
          subst empty
          cases stands
      | name otherFirst _ repeated =>
          obtain rfl := first.unique otherFirst
          exact absurd repeated fresh
      | backendName otherFirst otherStands =>
          obtain rfl := first.unique otherFirst
          rw [Option.some.inj (stands.symm.trans otherStands)]
      | target distinct => exact absurd first.1 (distinct _)
  | target distinct first stands linkStands =>
      cases otherReports with
      | none empty =>
          subst empty
          cases stands
      | name otherFirst => exact absurd otherFirst.1 (distinct _)
      | backendName otherFirst => exact absurd otherFirst.1 (distinct _)
      | target _ otherFirst otherStands otherLinkStands =>
          obtain ⟨rfl, rfl⟩ := Prod.mk.inj (toLex.injective (first.unique otherFirst))
          obtain rfl := Option.some.inj (stands.symm.trans otherStands)
          rw [Option.some.inj (linkStands.symm.trans otherLinkStands)]

/-! ## Repeated declarations -/

/-- What earlier declarations show has been taken down in some list. -/
def Taken {α : Type} (shown : Declaration → α) (front : List Declaration) (list : List α) : Prop :=
  ∀ item, item ∈ list ↔ item ∈ front.map shown

theorem Taken.concat
    {α : Type}
    {shown : Declaration → α}
    {list : List α}
    (taken : Taken shown front list)
    (declaration : Declaration) :
    Taken shown (front ++ [declaration]) (shown declaration :: list) := by
  intro item
  rw [List.mem_cons, taken item, List.map_append, List.mem_append, List.map_singleton,
    List.mem_singleton, or_comm]

theorem Taken.repeats_iff
    {α : Type}
    [DecidableEq α]
    {shown : Declaration → α}
    {list : List α}
    (taken : Taken shown front list)
    (declaration : Declaration)
    (rest : List Declaration) :
    Repeats shown (front ++ declaration :: rest) front.length ↔
      list.contains (shown declaration) = true := by
  rw [repeats_at_length_iff, List.contains_iff_mem, taken]

/-- From a position before which nothing is repeated, the first repeated declaration
is reported. -/
theorem reports_of_checkDistinct
    {names : List Entity}
    {backendNames : List Text}
    (named : Taken Declaration.entity front names)
    (backed : Taken (·.options.backendName) front backendNames)
    (clean : ∀ position < front.length, ¬ IsRepeated (front ++ rest) position)
    (failed : checkDistinct names backendNames front.length rest = .error fault) :
    Reports (front ++ rest) fault := by
  induction rest generalizing front names backendNames with
  | nil => cases failed
  | cons declaration rest inductionHypothesis =>
      have stands : (front ++ declaration :: rest)[front.length]? = some declaration := by simp
      have least (repeated : IsRepeated (front ++ declaration :: rest) front.length) :
          IsLeast {position | IsRepeated (front ++ declaration :: rest) position}
            front.length := by
        refine ⟨repeated, fun position isRepeated => ?_⟩
        by_contra before
        exact clean position (Nat.lt_of_not_le before) isRepeated
      have nameTaken := named.repeats_iff declaration rest
      have backendTaken := backed.repeats_iff declaration rest
      rw [checkDistinct] at failed
      split at failed
      · rename_i contained
        have repeated := nameTaken.mpr contained
        obtain rfl := Except.error.inj failed
        exact .name (least (.inl repeated)) stands repeated
      rename_i newName
      split at failed
      · rename_i contained
        have repeated := backendTaken.mpr contained
        obtain rfl := Except.error.inj failed
        exact .backendName (least (.inr repeated)) stands fun twice =>
          newName (nameTaken.mp twice)
      · rename_i newBackendName
        have further : front ++ declaration :: rest = front ++ [declaration] ++ rest := by simp
        rw [further]
        apply inductionHypothesis (named.concat declaration) (backed.concat declaration)
        · intro position before
          rw [← further]
          rw [List.length_append, List.length_singleton] at before
          rcases Nat.lt_succ_iff_lt_or_eq.mp before with earlier | rfl
          · exact clean position earlier
          · rintro (repeated | repeated)
            · exact newName (nameTaken.mp repeated)
            · exact newBackendName (backendTaken.mp repeated)
        · rw [List.length_append, List.length_singleton]
          exact failed

/-! ## Links to undeclared entities -/

theorem checkLinks_eq_error
    {names : List Entity}
    {position start : Nat}
    {links : List Link}
    (failed : checkLinks names position start links = .error fault) :
    ∃ index link,
      fault = .undeclaredTarget position (start + index) link.entity ∧
      links[index]? = some link ∧
      link.entity ∉ names ∧
      ∀ earlier < index, ∀ former, links[earlier]? = some former → former.entity ∈ names := by
  induction links generalizing start with
  | nil => cases failed
  | cons link rest inductionHypothesis =>
      rw [checkLinks] at failed
      split at failed
      · rename_i declared
        obtain ⟨index, found, rfl, stands, undeclared, before⟩ := inductionHypothesis failed
        refine ⟨index + 1, found, by rw [Nat.add_right_comm, Nat.add_assoc], stands, undeclared, ?_⟩
        intro earlier earlierBefore former formerStands
        cases earlier with
        | zero => exact Option.some.inj formerStands ▸ List.contains_iff_mem.mp declared
        | succ earlier =>
            exact before earlier (Nat.lt_of_succ_lt_succ earlierBefore) former formerStands
      · rename_i undeclared
        obtain rfl := Except.error.inj failed
        exact ⟨0, link, rfl, rfl, fun member => undeclared (List.contains_iff_mem.mpr member),
          fun _ never => absurd never (Nat.not_lt_zero _)⟩

theorem checkTargets_eq_error
    {names : List Entity}
    {start : Nat}
    (failed : checkTargets names start declarations = .error fault) :
    ∃ index declaration linkIndex link,
      fault = .undeclaredTarget (start + index) linkIndex link.entity ∧
      declarations[index]? = some declaration ∧
      declaration.options.links[linkIndex]? = some link ∧
      link.entity ∉ names ∧
      (∀ earlier < index, ∀ former, declarations[earlier]? = some former →
        ∀ link ∈ former.options.links, link.entity ∈ names) ∧
      ∀ earlier < linkIndex, ∀ former, declaration.options.links[earlier]? = some former →
        former.entity ∈ names := by
  induction declarations generalizing start with
  | nil => cases failed
  | cons declaration rest inductionHypothesis =>
      rw [checkTargets] at failed
      cases checked : checkLinks names start 0 declaration.options.links with
      | error found =>
          rw [checked] at failed
          obtain rfl := Except.error.inj failed
          obtain ⟨index, link, rfl, stands, undeclared, before⟩ := checkLinks_eq_error checked
          rw [Nat.zero_add]
          exact ⟨0, declaration, index, link, rfl, rfl, stands, undeclared,
            fun _ never => absurd never (Nat.not_lt_zero _), before⟩
      | ok _ =>
          rw [checked] at failed
          obtain ⟨index, found, linkIndex, link, rfl, stands, linkStands, undeclared, before,
            linksBefore⟩ := inductionHypothesis failed
          refine ⟨index + 1, found, linkIndex, link, by rw [Nat.add_right_comm, Nat.add_assoc],
            stands, linkStands, undeclared, ?_, linksBefore⟩
          intro earlier earlierBefore former formerStands
          cases earlier with
          | zero =>
              obtain rfl := Option.some.inj formerStands
              exact (checkLinks_eq_ok_iff names start 0 _).mp checked
          | succ earlier =>
              exact before earlier (Nat.lt_of_succ_lt_succ earlierBefore) former formerStands

/-- Where nothing is repeated, the first link to an undeclared entity is reported. -/
theorem reports_of_checkTargets
    (distinct : ∀ position, ¬ IsRepeated declarations position)
    (failed :
      checkTargets (declarations.map Declaration.entity) 0 declarations = .error fault) :
    Reports declarations fault := by
  obtain ⟨position, declaration, linkPosition, link, rfl, stands, linkStands, undeclared, before,
    linksBefore⟩ := checkTargets_eq_error failed
  rw [Nat.zero_add]
  refine .target distinct ⟨⟨declaration, link, stands, linkStands, undeclared⟩, ?_⟩ stands
    linkStands
  rintro place ⟨found, stray, foundStands, strayStands, strayUndeclared⟩
  by_contra notAfter
  rcases Prod.Lex.lt_iff.mp (lt_of_not_ge notAfter) with earlier | ⟨same, linkEarlier⟩
  · exact strayUndeclared
      (before _ earlier found foundStands stray (List.mem_of_getElem? strayStands))
  · rw [same] at foundStands
    obtain rfl := Option.some.inj (stands.symm.trans foundStands)
    exact strayUndeclared (linksBefore _ linkEarlier stray strayStands)

/-! ## The judgement of declarations -/

theorem reports_of_checkIndexes (failed : checkIndexes declarations = .error fault) :
    Reports declarations fault := by
  rw [checkIndexes] at failed
  split at failed
  · rename_i empty
    obtain rfl := Except.error.inj failed
    exact .none (List.isEmpty_iff.mp empty)
  cases checked : checkDistinct [] [] 0 declarations with
  | error found =>
      rw [checked] at failed
      obtain rfl := Except.error.inj failed
      have named : Taken Declaration.entity [] [] := fun _ => Iff.rfl
      exact reports_of_checkDistinct named (fun _ => Iff.rfl)
        (fun _ never => absurd never (Nat.not_lt_zero _)) checked
  | ok _ =>
      rw [checked] at failed
      obtain ⟨⟨names, -⟩, backendNames, -⟩ := checkDistinct_eq_ok_iff.mp checked
      apply reports_of_checkTargets _ failed
      rintro position (repeated | repeated)
      · exact not_repeats_of_nodup names position repeated
      · exact not_repeats_of_nodup backendNames position repeated

/-- Declarations are accepted just if they fit together.  Otherwise they are refused for
one fault, which is of a value and not of a type: the lack of declarations, else the
first declaration that repeats a name or a backend name, else the first link to an
entity that is not declared. -/
theorem checkIndexes_reports_first (declarations : List Declaration) :
    (checkIndexes declarations = .ok () ↔ FitTogether declarations) ∧
    ∀ fault, checkIndexes declarations = .error fault ↔
      Reports declarations fault ∧ fault.isTypeFault = false := by
  refine ⟨checkIndexes_eq_ok_iff, fun fault => ⟨fun failed => ?_, fun reported => ?_⟩⟩
  · have reports := reports_of_checkIndexes failed
    refine ⟨reports, ?_⟩
    cases reports <;> rfl
  · obtain ⟨reports, -⟩ := reported
    cases checked : checkIndexes declarations with
    | ok _ => exact absurd (checkIndexes_eq_ok_iff.mp checked) reports.not_fitTogether
    | error found => rw [(reports_of_checkIndexes checked).unique reports]

end LinkedQuery.Settings
