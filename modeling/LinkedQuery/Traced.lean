import LinkedQuery.Event

/-!
Contract: computations that may fail and leave a trail of events.

Owns:
- the result type: the events in order, those before a failure included, and
  the outcome;
- sequencing, emission and failure.

Does not own: what the events mean.
-/

namespace LinkedQuery

/-- An outcome together with the events that led to it. -/
structure Traced (ε α : Type) where
  events : List Event
  outcome : Except ε α

namespace Traced

/-- A value without events. -/
def ok {ε α : Type} (value : α) : Traced ε α :=
  ⟨[], .ok value⟩

/-- A failure without events. -/
def fail {ε α : Type} (error : ε) : Traced ε α :=
  ⟨[], .error error⟩

/-- One event. -/
def emit {ε : Type} (event : Event) : Traced ε Unit :=
  ⟨[event], .ok ()⟩

/-- Some events in order. -/
def emitAll {ε : Type} (events : List Event) : Traced ε Unit :=
  ⟨events, .ok ()⟩

/-- An outcome without events. -/
def lift {ε α : Type} (outcome : Except ε α) : Traced ε α :=
  ⟨[], outcome⟩

/-- Go on with the value of a computation; a failure ends it. -/
def andThen {ε α β : Type} (first : Traced ε α) (next : α → Traced ε β) : Traced ε β :=
  match first.outcome with
  | .error error => ⟨first.events, .error error⟩
  | .ok value =>
      let rest := next value
      ⟨first.events ++ rest.events, rest.outcome⟩

instance {ε : Type} : Monad (Traced ε) where
  pure := ok
  bind := andThen

/-- The same computation with its failure restated. -/
def mapError {ε ζ α : Type} (restate : ε → ζ) (traced : Traced ε α) : Traced ζ α :=
  ⟨traced.events, traced.outcome.mapError restate⟩

end Traced

end LinkedQuery
