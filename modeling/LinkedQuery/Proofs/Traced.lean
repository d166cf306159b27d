import LinkedQuery.Traced

/-!
Contract: the outcomes of computations, their events aside.

Owns:
- the parts of a good outcome, and the error of a bad one;
- the outcome of each way to build a traced computation, as rules for the
  simplifier;
- what a traced computation that ended well did before;
- a failure restated part by part;
- sequences of three, events included.

Does not own: what the events are.
-/

namespace LinkedQuery

variable {ε α β : Type}

theorem except_map_eq_ok_iff {outcome : Except ε α} {restate : α → β} {result : β} :
    outcome.map restate = .ok result ↔ ∃ value, outcome = .ok value ∧ restate value = result := by
  cases outcome with
  | error error => simp [Except.map]
  | ok value => simp [Except.map]

theorem except_map_eq_error_iff {outcome : Except ε α} {restate : α → β} {error : ε} :
    outcome.map restate = .error error ↔ outcome = .error error := by
  cases outcome with
  | error error => simp [Except.map]
  | ok value => simp [Except.map]

theorem except_mapError_eq_ok_iff
    {ζ : Type}
    {outcome : Except ε α}
    {restate : ε → ζ}
    {value : α} :
    outcome.mapError restate = .ok value ↔ outcome = .ok value := by
  cases outcome with
  | error error =>
      constructor
      · intro same
        cases same
      · intro same
        cases same
  | ok value =>
      constructor
      · intro same
        exact congrArg Except.ok (Except.ok.inj same)
      · intro same
        exact congrArg Except.ok (Except.ok.inj same)

theorem except_bind_eq_ok_iff {outcome : Except ε α} {next : α → Except ε β} {result : β} :
    outcome.bind next = .ok result ↔
      ∃ value, outcome = .ok value ∧ next value = .ok result := by
  cases outcome with
  | error error => simp [Except.bind]
  | ok value => simp [Except.bind]

theorem except_seq_eq_ok_iff {outcome : Except ε α} {next : α → Except ε β} {result : β} :
    (outcome >>= next) = .ok result ↔ ∃ value, outcome = .ok value ∧ next value = .ok result :=
  except_bind_eq_ok_iff

theorem except_pure_eq_ok_iff {value result : α} :
    (pure value : Except ε α) = .ok result ↔ value = result :=
  Except.ok.injEq value result ▸ Iff.rfl

/-- A judgement followed by another one passes just if both do. -/
theorem except_check_eq_ok_iff {first : Except ε Unit} {next : Except ε α} {result : α} :
    (first >>= fun _ => next) = .ok result ↔ first = .ok () ∧ next = .ok result := by
  cases first with
  | error error => simp [bind, Except.bind]
  | ok value => simp [bind, Except.bind]

/-- A guard passes just if its condition for failure does not hold. -/
theorem except_guard_eq_ok_iff
    {condition : Prop}
    [Decidable condition]
    {error : ε}
    {next : Except ε α}
    {result : α} :
    (if condition then .error error else next) = .ok result ↔
      ¬ condition ∧ next = .ok result := by
  by_cases holds : condition
  · simp [holds]
  · simp [holds]

/-- The error of an outcome that has one. -/
def errorOf? : Except ε α → Option ε
  | .error error => some error
  | .ok _ => none

@[simp] theorem errorOf?_ok (value : α) : errorOf? (.ok value : Except ε α) = none := rfl

@[simp] theorem errorOf?_error (error : ε) :
    errorOf? (.error error : Except ε α) = some error := rfl

theorem errorOf?_eq_some_iff {outcome : Except ε α} {error : ε} :
    errorOf? outcome = some error ↔ outcome = .error error := by
  cases outcome <;> simp

theorem errorOf?_eq_none_iff {outcome : Except ε α} :
    errorOf? outcome = none ↔ ∃ value, outcome = .ok value := by
  cases outcome <;> simp

theorem errorOf?_map (outcome : Except ε α) (restate : α → β) :
    errorOf? (outcome.map restate) = errorOf? outcome := by
  cases outcome <;> rfl

/-- What is done with a value brings in no error if it ends well. -/
theorem errorOf?_bind_of_ok
    {outcome : Except ε α}
    {next : α → Except ε β}
    (ends : ∀ value, outcome = .ok value → ∃ result, next value = .ok result) :
    errorOf? (outcome.bind next) = errorOf? outcome := by
  cases outcome with
  | error error => rfl
  | ok value =>
      obtain ⟨result, ended⟩ := ends value rfl
      simp only [Except.bind, ended, errorOf?_ok]

namespace Traced

@[simp] theorem outcome_ok (value : α) : (ok value : Traced ε α).outcome = .ok value := rfl

@[simp] theorem outcome_pure (value : α) : (pure value : Traced ε α).outcome = .ok value := rfl

@[simp] theorem outcome_fail (error : ε) : (fail error : Traced ε α).outcome = .error error := rfl

@[simp] theorem outcome_emit (event : Event) : (emit event : Traced ε Unit).outcome = .ok () := rfl

@[simp] theorem outcome_lift (outcome : Except ε α) : (lift outcome).outcome = outcome := rfl

@[simp] theorem outcome_bind (first : Traced ε α) (next : α → Traced ε β) :
    (first >>= next).outcome = first.outcome.bind fun value => (next value).outcome := by
  show (andThen first next).outcome = _
  unfold andThen
  cases first.outcome <;> rfl

/-- What follows an emission decides the outcome. -/
@[simp] theorem outcome_emit_bind (event : Event) (next : Unit → Traced ε β) :
    (emit event >>= next).outcome = (next ()).outcome := by
  rw [outcome_bind]
  rfl

@[simp] theorem outcome_mapError {ζ : Type} (restate : ε → ζ) (traced : Traced ε α) :
    (traced.mapError restate).outcome = traced.outcome.mapError restate := rfl

/-- A sequence ends well just if both of its parts do. -/
theorem bind_eq_ok_iff {first : Traced ε α} {next : α → Traced ε β} {result : β} :
    (first >>= next).outcome = .ok result ↔
      ∃ value, first.outcome = .ok value ∧ (next value).outcome = .ok result := by
  rw [outcome_bind, except_bind_eq_ok_iff]

/-- A computation whose value is only restated ends well just if it does. -/
theorem bind_pure_eq_ok_iff {first : Traced ε α} {restate : α → β} {result : β} :
    (first >>= fun value => pure (restate value)).outcome = .ok result ↔
      ∃ value, first.outcome = .ok value ∧ result = restate value := by
  rw [bind_eq_ok_iff]
  simp only [outcome_pure, Except.ok.injEq, eq_comm]

@[simp] theorem mapError_pure {ζ : Type} (restate : ε → ζ) (value : α) :
    (pure value : Traced ε α).mapError restate = pure value := rfl

/-- A failure can be restated in each part of a sequence. -/
theorem mapError_bind {ζ : Type}
    (restate : ε → ζ)
    (first : Traced ε α)
    (next : α → Traced ε β) :
    (first >>= next).mapError restate =
      (first.mapError restate >>= fun value => (next value).mapError restate) := by
  show (andThen first next).mapError restate = andThen (first.mapError restate) _
  unfold andThen mapError
  cases first.outcome <;> rfl

/-- A sequence that ends with its value as it is adds nothing. -/
theorem bind_ok (traced : Traced ε α) : (traced >>= ok) = traced := by
  obtain ⟨events, outcome⟩ := traced
  cases outcome with
  | error error => rfl
  | ok value =>
      show Traced.mk (events ++ []) (.ok value) = _
      rw [List.append_nil]

/-- Three computations in sequence, events included. -/
theorem bind_bind {γ : Type}
    (first : Traced ε α)
    (second : α → Traced ε β)
    (third : β → Traced ε γ) :
    (first >>= second >>= third) = (first >>= fun value => second value >>= third) := by
  show andThen (andThen first second) third =
    andThen first fun value => andThen (second value) third
  cases ended : first.outcome with
  | error error => simp only [andThen, ended]
  | ok value =>
      cases next : (second value).outcome with
      | error error => simp only [andThen, ended, next]
      | ok result => simp only [andThen, ended, next, List.append_assoc]

end Traced

end LinkedQuery
