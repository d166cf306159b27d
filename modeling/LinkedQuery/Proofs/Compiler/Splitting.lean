import LinkedQuery.Proofs.Compiler.Compilation
import Mathlib

/-!
Contract: joins split at the entities on their path.

Owns:
- the parts of a resolved path as the paths that are resolved for them;
- a join by way of an entity on its path, which compiles like the join itself;
- a join to the root itself, which compiles like its child.

Does not own: the search, whose first chains have first parts.
-/

namespace LinkedQuery.Compiler

open Traversal
open LinkedQuery.Topology (joinTo lettered)

variable {compiler : Compiler} {root : Link} {target : Entity} {path : List Link}

/-- Discovery that answers around a root answers around what is within reach. -/
theorem Answered.of_reaches
    {start middle : Entity}
    (answered : compiler.Answered start)
    (reached : Reaches compiler.linksOf start middle) :
    compiler.Answered middle := by
  rintro entity ⟨back, backChain⟩
  obtain ⟨front, frontChain⟩ := reached
  exact answered entity ⟨front ++ back, frontChain.append backChain⟩

/-- An entity on a resolved path splits it into the paths that are resolved from
the root to there and from there to the target. -/
theorem resolvePath_split
    (resolved : (compiler.resolvePath root target).outcome = .ok path)
    {middle : Entity}
    (onPath : middle ∈ root.entity :: path.map Link.entity) :
    ∃ front back,
      path = front ++ back ∧
      (compiler.resolvePath root middle).outcome = .ok front ∧
      (compiler.resolvePath (.toSelf middle) target).outcome = .ok back := by
  obtain ⟨answered, first⟩ := resolvePath_eq_ok_iff.mp resolved
  have cut :
      ∃ front back,
        path = front ++ back ∧
        Chain compiler.joinsOf root.entity front middle ∧
        Chain compiler.joinsOf middle back target := by
    rcases List.mem_cons.mp onPath with rfl | met
    · exact ⟨[], path, rfl, rfl, first.chain⟩
    · obtain ⟨front, back, same, -, frontChain, backChain⟩ := first.chain.cut met
      exact ⟨front, back, same, frontChain, backChain⟩
  obtain ⟨front, back, rfl, frontChain, backChain⟩ := cut
  have joined : Reaches compiler.joinsOf root.entity middle := ⟨front, frontChain⟩
  have reached : Reaches compiler.linksOf root.entity middle :=
    joined.mono fun entity _ => compiler.joinsOf_subset entity
  refine ⟨front, back, rfl, ?_, ?_⟩
  · exact resolvePath_eq_ok_iff.mpr ⟨answered, first.front frontChain backChain⟩
  · exact resolvePath_eq_ok_iff.mpr
      ⟨answered.of_reaches reached, first.back frontChain backChain⟩

/-- A survey that ends well was answered for every entity within reach. -/
theorem answered_of_survey
    {topology : Topology}
    (surveyed :
      (compiler.survey (compiler.reach root.entity) (.rooted root.entity)).outcome =
        .ok topology) :
    compiler.Answered root.entity := by
  rcases survey_cases compiler (compiler.reach root.entity) (.rooted root.entity) with
    ⟨answered, -⟩ | ⟨front, entity, back, refusal, -, -, -, failed⟩
  · intro entity reached
    exact answered entity (mem_reach_iff.mpr reached)
  · rw [failed] at surveyed
    cases surveyed

/-- A join compiles like the join to any entity on its path followed by the join
from there; and where discovery succeeds, a join to the root compiles like its
child. -/
theorem compile_linked_split
    (compiler : Compiler)
    (root : Link)
    (child : Expr) :
    (∀ (link : Link) (path : List Link),
      (compiler.resolvePath root link.entity).outcome = .ok path →
      ∀ middle : Link, middle.entity ∈ root.entity :: path.map Link.entity →
        (compiler.compile root (.linked middle (.linked link child))).outcome =
          (compiler.compile root (.linked link child)).outcome) ∧
    ((∃ topology,
        (compiler.survey (compiler.reach root.entity) (.rooted root.entity)).outcome =
          .ok topology) →
      ∀ link : Link, link.entity = root.entity →
        (compiler.compile root (.linked link child)).outcome =
          (compiler.compile root child).outcome) := by
  constructor
  · intro link path resolved middle onPath
    obtain ⟨front, back, rfl, frontResolved, backResolved⟩ := resolvePath_split resolved onPath
    rw [compile_linked_outcome, frontResolved, compile_linked_outcome, backResolved,
      compile_linked_outcome, resolved]
    simp only [Except.bind]
    cases (compiler.compile (.toSelf link.entity) child).outcome with
    | error error => rfl
    | ok query => exact (fold_append front back).symm
  · rintro ⟨topology, surveyed⟩ link here
    have resolved : (compiler.resolvePath root link.entity).outcome = .ok [] := by
      rw [here]
      exact resolvePath_eq_ok_iff.mpr ⟨answered_of_survey surveyed, firstChain_nil root.entity⟩
    rw [compile_linked_outcome, resolved, here, compile_toSelf]
    cases (compiler.compile root child).outcome <;> rfl

/-- A condition on the field `f` at any root. -/
def presentThere : Expr :=
  .comparison .eq ⟨⟨[.char 'f']⟩⟩ .matchAll

/-- The compiled form of the condition. -/
def presentQuery : Dsl :=
  .leaf (.present ⟨[.char 'f']⟩)

/-- The path from `a` to `d` goes over `b`, so a join to `d` may go by way of `b`; and a
join from `a` to itself adds nothing. -/
theorem compile_linked_split_crossing :
    ((atRest crossing).resolvePath (about 'a') (lettered 'd')).outcome =
      .ok [joinTo 'b', joinTo 'd'] ∧
    ((atRest crossing).compile (about 'a')
        (.linked (joinTo 'b') (.linked (joinTo 'd') presentThere))).outcome =
      .ok (guardedAt 'B' (guardedAt 'D' presentQuery)) ∧
    ((atRest crossing).compile (about 'a') (.linked (joinTo 'd') presentThere)).outcome =
      .ok (guardedAt 'B' (guardedAt 'D' presentQuery)) ∧
    ((atRest crossing).compile (about 'a') (.linked (joinTo 'a') presentThere)).outcome =
      .ok presentQuery := by
  have resolved :
      ((atRest crossing).resolvePath (about 'a') (lettered 'd')).outcome =
        .ok [joinTo 'b', joinTo 'd'] := by
    cbv
  have direct :
      ((atRest crossing).compile (about 'a') (.linked (joinTo 'd') presentThere)).outcome =
        .ok (guardedAt 'B' (guardedAt 'D' presentQuery)) := by
    cbv
  obtain ⟨split, here⟩ := compile_linked_split (atRest crossing) (about 'a') presentThere
  obtain ⟨topology, surveyed, -⟩ := Traced.bind_eq_ok_iff.mp resolved
  refine ⟨resolved, ?_, direct, here ⟨topology, surveyed⟩ (joinTo 'a') rfl⟩
  rw [← direct]
  exact split (joinTo 'd') _ resolved (joinTo 'b') (by decide)

end LinkedQuery.Compiler
