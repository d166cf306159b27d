import LinkedQuery.Value

/-!
Contract: settings laid over other settings.

Owns:
- the overlay: mappings merge key by key, anything else replaces what was
  there;
- the order of keys: those below first, then the new ones.

Does not own: what the settings mean.
-/

namespace LinkedQuery

mutual

/-- A value over another one. -/
def Value.overlay : Value → Value → Value
  | .map below, .map above => .map (Entries.overlay below above)
  | _, .map above => .map above
  | _, .scalar above => .scalar above
  | _, .list above => .list above
  | _, .set above => .set above
  | _, .pair first second => .pair first second
  | _, .again shape => .again shape

/-- The entries of a mapping over those of another one, one after the other. -/
def Entries.overlay (below : Entries) : List (Scalar × Value) → Entries
  | [] => below
  | (key, above) :: rest =>
      let merged :=
        match Entries.find? key.key below with
        | some old => Value.overlay old above
        | none => above
      Entries.overlay (Entries.put key merged below) rest

end

end LinkedQuery
