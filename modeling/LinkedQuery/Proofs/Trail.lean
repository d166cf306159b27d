import LinkedQuery.Proofs.Expr
import LinkedQuery.Proofs.Traced
import LinkedQuery.Settings

/-!
Contract: computations with their trails.

Owns:
- how trails are put together in a sequence;
- the events that report what became of a command: results, a file that was
  written, a failure;
- a computation with all other events left out, which keeps its outcome and is
  put together in the same way;
- silent computations, which report nothing: compilation and the setup of a
  compiler.

Does not own: the events of a report.
-/

namespace LinkedQuery

/-- Whether an event reports what became of a command. -/
def Event.isReport : Event → Bool
  | .heading _ => true
  | .line _ => true
  | .wrote _ _ => true
  | .failed _ _ => true
  | _ => false

variable {ε ζ α β : Type}

namespace Traced

/-! ## Sequences -/

@[simp] theorem ok_bind (value : α) (next : α → Traced ε β) : (ok value >>= next) = next value :=
  rfl

@[simp] theorem lift_ok_bind (value : α) (next : α → Traced ε β) :
    (lift (.ok value) >>= next) = next value := rfl

@[simp] theorem lift_error_bind (error : ε) (next : α → Traced ε β) :
    (lift (.error error) >>= next) = fail error := rfl

theorem emitAll_bind (events : List Event) (next : Unit → Traced ε β) :
    (emitAll events >>= next) = ⟨events ++ (next ()).events, (next ()).outcome⟩ := rfl

/-- The events of a part that ends well come before those of the next. -/
theorem ended_bind (events : List Event) (value : α) (next : α → Traced ε β) :
    ((⟨events, .ok value⟩ : Traced ε α) >>= next) = (emitAll events >>= fun _ => next value) := rfl

theorem emitAll_append_bind (first second : List Event) (next : Unit → Traced ε β) :
    (emitAll (first ++ second) >>= next) =
      (emitAll first >>= fun _ => emitAll second >>= next) := by
  simp only [emitAll_bind, List.append_assoc]

@[simp] theorem emitAll_bind_lift (events : List Event) (outcome : Except ε β) :
    (emitAll events >>= fun _ => lift outcome) = ⟨events, outcome⟩ := by
  rw [emitAll_bind]
  show (⟨events ++ [], outcome⟩ : Traced ε β) = _
  rw [List.append_nil]

/-- Nothing is added by handing the value on. -/
@[simp] theorem bind_pure (traced : Traced ε α) : (traced >>= pure) = traced := by
  show andThen traced ok = traced
  unfold andThen
  obtain ⟨events, outcome⟩ := traced
  cases outcome with
  | error error => rfl
  | ok value => exact emitAll_bind_lift events (.ok value)

@[simp] theorem mapError_lift (restate : ε → ζ) (outcome : Except ε α) :
    (lift outcome).mapError restate = lift (outcome.mapError restate) := rfl

/-! ## Reports -/

/-- A computation of which only the events that report are kept. -/
def reports (traced : Traced ε α) : Traced ε α :=
  ⟨traced.events.filter Event.isReport, traced.outcome⟩

@[simp] theorem reports_bind (first : Traced ε α) (next : α → Traced ε β) :
    (first >>= next).reports = first.reports >>= fun value => (next value).reports := by
  show (andThen first next).reports = andThen first.reports _
  unfold andThen reports
  cases first.outcome with
  | error error => rfl
  | ok value => simp only [List.filter_append]

@[simp] theorem reports_mapError (restate : ε → ζ) (traced : Traced ε α) :
    (traced.mapError restate).reports = traced.reports.mapError restate := rfl

@[simp] theorem reports_lift (outcome : Except ε α) : (lift outcome).reports = lift outcome := rfl

/-! ## Silence -/

/-- A computation reports nothing. -/
def Silent (traced : Traced ε α) : Prop :=
  ∀ event ∈ traced.events, event.isReport = false

/-- Of a silent computation only the outcome is kept. -/
theorem Silent.reports_eq {traced : Traced ε α} (silent : traced.Silent) :
    traced.reports = lift traced.outcome := by
  have nothing : traced.events.filter Event.isReport = [] := by
    rw [List.filter_eq_nil_iff]
    intro event member
    rw [silent event member]
    exact Bool.false_ne_true
  unfold reports
  rw [nothing]
  rfl

theorem Silent.mapError {traced : Traced ε α} (silent : traced.Silent) (restate : ε → ζ) :
    (traced.mapError restate).Silent := silent

theorem silent_lift (outcome : Except ε α) : (lift outcome).Silent := by
  intro event member
  cases member

theorem silent_ok (value : α) : (ok value : Traced ε α).Silent :=
  silent_lift (.ok value)

theorem silent_pure (value : α) : (pure value : Traced ε α).Silent :=
  silent_lift (.ok value)

theorem silent_fail (error : ε) : (fail error : Traced ε α).Silent :=
  silent_lift (.error error)

theorem silent_emit {event : Event} (reportsNot : event.isReport = false) :
    (emit event : Traced ε Unit).Silent := by
  intro other member
  obtain rfl := List.mem_singleton.mp member
  exact reportsNot

/-- An event that does not report is left out. -/
theorem reports_emit_bind
    {event : Event}
    (reportsNot : event.isReport = false)
    (next : Unit → Traced ε β) :
    (emit event >>= next).reports = (next ()).reports := by
  rw [reports_bind, (silent_emit reportsNot).reports_eq]
  rfl

theorem Silent.bind {first : Traced ε α} {next : α → Traced ε β} (silent : first.Silent)
    (silentNext : ∀ value, (next value).Silent) : (first >>= next).Silent := by
  show (andThen first next).Silent
  unfold andThen
  cases first.outcome with
  | error error => exact silent
  | ok value =>
      intro event member
      exact (List.mem_append.mp member).elim (silent event) (silentNext value event)

end Traced

open Traced

/-! ## Compilation -/

namespace Compiler

variable (compiler : Compiler)

theorem silent_survey (entities : List Entity) (topology : Topology) :
    (compiler.survey entities topology).Silent := by
  induction entities generalizing topology with
  | nil => exact silent_ok topology
  | cons entity rest inductionHypothesis =>
      rw [survey]
      cases compiler.discover entity with
      | error refusal => exact silent_fail _
      | ok links => exact (silent_emit rfl).bind fun _ => inductionHypothesis _

theorem silent_resolvePath (root : Link) (target : Entity) :
    (compiler.resolvePath root target).Silent :=
  (compiler.silent_survey _ _).bind fun _ =>
    (silent_lift _).bind fun _ => (silent_emit rfl).bind fun _ => silent_pure _

theorem silent_filter (index type : Text) (query : Dsl) :
    (compiler.filter index type query).Silent := by
  unfold filter
  cases compiler.ignoreVisibility with
  | true => exact silent_ok query
  | false =>
      cases compiler.visibility index type with
      | error refusal => exact silent_fail _
      | ok clause => exact (silent_emit rfl).bind fun _ => silent_pure _

theorem silent_join (hop : Link) (query : Dsl) : (compiler.join hop query).Silent := by
  unfold join
  cases compiler.resolve hop.entity with
  | error refusal => exact silent_fail _
  | ok options =>
      exact (compiler.silent_filter _ _ query).bind fun _ =>
        (silent_emit rfl).bind fun _ => silent_pure _

theorem silent_fold (path : List Link) (query : Dsl) : (compiler.fold path query).Silent := by
  induction path with
  | nil => exact silent_ok query
  | cons hop rest inductionHypothesis =>
      exact inductionHypothesis.bind fun inner => compiler.silent_join hop inner

theorem silent_compileAll
    {root : Link}
    {items : List Expr}
    (each : ∀ item ∈ items, (compiler.compile root item).Silent) :
    (compiler.compileAll root items).Silent := by
  induction items with
  | nil => exact silent_ok []
  | cons item rest inductionHypothesis =>
      obtain ⟨ofItem, ofRest⟩ := List.forall_mem_cons.mp each
      exact ofItem.bind fun _ => (inductionHypothesis ofRest).bind fun _ => silent_pure _

/-- Compilation leaves its trail without a report. -/
theorem silent_compile (root : Link) (expr : Expr) : (compiler.compile root expr).Silent := by
  induction expr using Expr.induction generalizing root with
  | withAll items inductionHypothesis =>
      rw [compile]
      cases Expr.sharedPath items with
      | none => exact silent_fail _
      | some path =>
          exact (compiler.silent_compileAll fun item member =>
            inductionHypothesis item member root).bind fun _ => silent_pure _
  | andAll items inductionHypothesis =>
      exact (compiler.silent_compileAll fun item member =>
        inductionHypothesis item member root).bind fun _ => silent_pure _
  | orAny items inductionHypothesis =>
      exact (compiler.silent_compileAll fun item member =>
        inductionHypothesis item member root).bind fun _ => silent_pure _
  | negation child inductionHypothesis =>
      exact (inductionHypothesis root).bind fun _ => silent_pure _
  | linked link child inductionHypothesis =>
      rw [compile]
      refine (compiler.silent_resolvePath root link.entity).bind fun path => ?_
      cases path.isEmpty with
      | true => exact inductionHypothesis root
      | false =>
          exact (inductionHypothesis (.toSelf link.entity)).bind fun _ =>
            compiler.silent_fold path _
  | comparison operator field term => exact silent_lift _
  | foreign name => exact silent_fail _

theorem silent_dump (root : Link) (expr : Expr) : (compiler.dump root expr).Silent :=
  ((compiler.silent_compile root expr).mapError _).bind fun _ => silent_lift _

end Compiler

theorem Settings.silent_toCompiler (settings : Settings) : settings.toCompiler.Silent := by
  unfold toCompiler
  refine (silent_lift _).bind fun catalog => (silent_emit rfl).bind fun _ => ?_
  cases settings.compiler.ignoreVisibility with
  | true => exact (silent_emit rfl).bind fun _ => (silent_lift _).bind fun _ => silent_pure _
  | false => exact (silent_lift _).bind fun _ => silent_pure _

end LinkedQuery
