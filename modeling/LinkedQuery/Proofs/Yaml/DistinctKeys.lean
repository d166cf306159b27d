import LinkedQuery.Proofs.Settings.Layer
import LinkedQuery.Proofs.Traced
import LinkedQuery.Yaml

/-!
Contract: the mappings of YAML documents repeat no key.

Owns:
- steps of the building of a document, each of which keeps the keys of filled
  mappings apart;
- the values of built nodes, whose mappings have different keys at every depth;
- the same for the value of a whole text.

Does not own: which of equal keys gives the value.
-/

namespace LinkedQuery.Yaml

/-! ## Filled mappings -/

/-- The keys of some entries are different. -/
def KeysApart (entries : List (Scalar × NodeId)) : Prop :=
  (entries.map fun entry => entry.1.key).Nodup

theorem map_key_putEntry (key : Scalar) (value : NodeId) (entries : List (Scalar × NodeId)) :
    (Build.putEntry key value entries).map (fun entry => entry.1.key) =
      if key.key ∈ entries.map (fun entry => entry.1.key) then
        entries.map fun entry => entry.1.key
      else
        entries.map (fun entry => entry.1.key) ++ [key.key] := by
  induction entries with
  | nil => rfl
  | cons entry rest inductionHypothesis =>
      obtain ⟨other, old⟩ := entry
      by_cases same : other.key = key.key
      · simp [Build.putEntry, same]
      · rw [Build.putEntry, if_neg same, List.map_cons, inductionHypothesis, List.map_cons]
        have different : key.key ≠ other.key := fun alike => same alike.symm
        by_cases present : key.key ∈ rest.map fun entry => entry.1.key
        · rw [if_pos present, if_pos (List.mem_cons_of_mem _ present)]
        · rw [if_neg present, if_neg (List.not_mem_cons_of_ne_of_not_mem different present),
            List.cons_append]

theorem KeysApart.putEntry
    {entries : List (Scalar × NodeId)}
    (apart : KeysApart entries)
    (key : Scalar)
    (value : NodeId) :
    KeysApart (Build.putEntry key value entries) := by
  rw [KeysApart, map_key_putEntry]
  split
  · exact apart
  · rename_i absent
    exact List.nodup_append.mpr
      ⟨apart, List.nodup_singleton _, fun found member other isNew same =>
        absent (List.mem_singleton.mp isNew ▸ same ▸ member)⟩

/-- Every mapping that has been filled has different keys. -/
def Building.KeysDistinct (building : Building) : Prop :=
  ∀ id entries, building.progressOf id = .filled (.map entries) → KeysApart entries

namespace Building

theorem keysDistinct_ofGraph (graph : Graph) : (ofGraph graph).KeysDistinct := by
  intro id entries filled
  simp only [ofGraph, progressOf, Array.getD_eq_getD_getElem?, Array.getElem?_replicate] at filled
  split at filled <;> cases filled

theorem KeysDistinct.advance
    {building : Building}
    (distinct : building.KeysDistinct)
    {id : NodeId}
    {reached : Progress}
    (apart : ∀ entries, reached = .filled (.map entries) → KeysApart entries) :
    (building.advance id reached).KeysDistinct := by
  intro other entries filled
  simp only [Building.advance, progressOf, Array.getD_eq_getD_getElem?,
    Array.getElem?_setIfInBounds] at filled
  split at filled
  · split at filled
    · exact apart entries filled
    · cases filled
  · apply distinct other entries
    rw [progressOf, Array.getD_eq_getD_getElem?]
    exact filled

end Building

namespace Build

/-! ## Steps of the work -/

/-- A step that starts where the keys of filled mappings are different ends, if it
ends well, where they still are, with a result of some kind. -/
def Ensures {α : Type} (step : Build α) (result : α → Prop) : Prop :=
  ∀ before after value, before.KeysDistinct → step.run before = .ok (value, after) →
    after.KeysDistinct ∧ result value

section Steps

variable {α β : Type} {result : α → Prop} {other : β → Prop}

theorem ensures_pure {value : α} (holds : result value) : Ensures (pure value) result := by
  intro before after found distinct ran
  obtain ⟨rfl, rfl⟩ := Prod.mk.inj (Except.ok.inj ran)
  exact ⟨distinct, holds⟩

theorem Ensures.bind
    {step : Build α}
    {next : α → Build β}
    (ensures : Ensures step result)
    (nextEnsures : ∀ value, result value → Ensures (next value) other) :
    Ensures (step >>= next) other := by
  intro before after found distinct ran
  obtain ⟨⟨value, between⟩, stepRan, nextRan⟩ := except_seq_eq_ok_iff.mp ran
  obtain ⟨stillDistinct, holds⟩ := ensures _ _ _ distinct stepRan
  exact nextEnsures value holds _ _ _ stillDistinct nextRan

theorem ensures_throw (fault : Fault) : Ensures (throw fault : Build α) result := by
  intro before after found distinct ran
  cases ran

theorem ensures_get : Ensures get Building.KeysDistinct := by
  intro before after found distinct ran
  obtain ⟨rfl, rfl⟩ := Prod.mk.inj (Except.ok.inj ran)
  exact ⟨distinct, distinct⟩

theorem ensures_set {building : Building} (distinct : building.KeysDistinct) :
    Ensures (set building) fun _ => True := by
  intro before after found _ ran
  obtain ⟨rfl, rfl⟩ := Prod.mk.inj (Except.ok.inj ran)
  exact ⟨distinct, trivial⟩

theorem ensures_lift (outcome : Except Fault α) :
    Ensures (liftM outcome : Build α) fun _ => True := by
  intro before after found distinct ran
  obtain ⟨value, -, lifted⟩ := except_seq_eq_ok_iff.mp ran
  obtain ⟨rfl, rfl⟩ := Prod.mk.inj (Except.ok.inj lifted)
  exact ⟨distinct, trivial⟩

theorem ensures_modify
    {change : Building → Building}
    (kept : ∀ building : Building, building.KeysDistinct → (change building).KeysDistinct) :
    Ensures (modify change) fun _ => True := by
  intro before after found distinct ran
  obtain ⟨rfl, rfl⟩ := Prod.mk.inj (Except.ok.inj ran)
  exact ⟨kept before distinct, trivial⟩

theorem ensures_forIn
    {items : List α}
    {step : α → Build β}
    (each : ∀ item, Ensures (step item) fun _ => True) :
    Ensures
      (forIn items PUnit.unit fun item _ => do
        let _ ← step item
        pure (ForInStep.yield PUnit.unit))
      fun _ => True := by
  induction items with
  | nil => exact ensures_pure trivial
  | cons item rest inductionHypothesis =>
      rw [List.forIn_cons]
      simp only [bind_assoc, pure_bind]
      exact (each item).bind fun _ _ => inductionHypothesis

end Steps

theorem ensures_begin (id : NodeId) : Ensures (begin id) fun _ => True := by
  rw [begin]
  apply ensures_get.bind
  intro building distinct
  split
  · exact ensures_pure trivial
  · exact ensures_pure trivial
  · exact ensures_pure trivial
  · split
    · have waiting : (building.enqueue id).KeysDistinct := by
        apply distinct.advance
        intro _ same
        cases same
      exact (ensures_set waiting).bind fun _ _ => ensures_pure trivial
    · apply (ensures_lift _).bind
      intro scalar _
      have built : (building.advance id (.scalar scalar)).KeysDistinct :=
        distinct.advance fun _ same => by cases same
      exact (ensures_set built).bind fun _ _ => ensures_pure trivial

theorem ensures_fillEntries
    {mapping : List (Scalar × NodeId)}
    (apart : KeysApart mapping)
    (entries : List NodeEntry) :
    Ensures (fillEntries mapping entries) KeysApart := by
  induction entries generalizing mapping with
  | nil => exact ensures_pure apart
  | cons entry rest inductionHypothesis =>
      obtain ⟨key, value⟩ := entry
      rw [fillEntries]
      apply (ensures_begin key).bind
      intro found _
      cases found with
      | none => exact ensures_throw _
      | some scalar =>
          exact (ensures_begin value).bind fun _ _ =>
            inductionHypothesis (apart.putEntry scalar value)

theorem ensures_mappingEntries (id : NodeId) : Ensures (mappingEntries id) KeysApart := by
  rw [mappingEntries]
  apply ensures_get.bind
  intro building distinct
  split
  · apply (ensures_lift _).bind
    intro graph _
    have same : { building with graph := graph }.KeysDistinct := distinct
    have none : KeysApart [] := List.nodup_nil
    exact (ensures_set same).bind fun _ _ => ensures_fillEntries none _
  · exact ensures_throw _

theorem ensures_sequenceItems (id : NodeId) : Ensures (sequenceItems id) fun _ => True := by
  rw [sequenceItems]
  apply ensures_get.bind
  intro building _
  split
  · exact ensures_pure trivial
  · exact ensures_throw _

theorem ensures_fillPairs (items : List NodeId) : Ensures (fillPairs items) fun _ => True := by
  induction items with
  | nil => exact ensures_pure trivial
  | cons item rest inductionHypothesis =>
      rw [fillPairs]
      apply ensures_get.bind
      intro building _
      split
      · apply (ensures_begin _).bind
        intro _ _
        apply (ensures_begin _).bind
        intro _ _
        exact inductionHypothesis.bind fun _ _ => ensures_pure trivial
      · exact ensures_throw _

/-- The parts of a mapping have different keys. -/
theorem ensures_parts (id : NodeId) :
    Ensures (parts id) fun found => ∀ entries, found = .map entries → KeysApart entries := by
  rw [parts]
  apply ensures_get.bind
  intro building _
  split
  · apply (ensures_sequenceItems id).bind
    intro items _
    apply (ensures_forIn ensures_begin).bind
    intro _ _
    exact ensures_pure fun _ same => by cases same
  · apply (ensures_mappingEntries id).bind
    intro entries apart
    apply ensures_pure
    intro others same
    exact Parts.map.inj same ▸ apart
  · apply (ensures_mappingEntries id).bind
    intro entries _
    exact ensures_pure fun _ same => by cases same
  · apply (ensures_sequenceItems id).bind
    intro items _
    apply (ensures_fillPairs items).bind
    intro pairs _
    exact ensures_pure fun _ same => by cases same
  · exact ensures_throw _

theorem ensures_fillAll (steps : Nat) : Ensures (fillAll steps) fun _ => True := by
  induction steps with
  | zero => exact ensures_pure trivial
  | succ steps inductionHypothesis =>
      rw [fillAll]
      apply ensures_get.bind
      intro building _
      split
      · exact ensures_pure trivial
      · rename_i id _ _
        apply (ensures_parts id).bind
        intro found apart
        have kept :
            ∀ building : Building, building.KeysDistinct →
              (building.fill id found).KeysDistinct := by
          intro building distinct
          apply distinct.advance
          intro entries same
          exact apart entries (Progress.filled.inj same)
        exact (ensures_modify kept).bind fun _ _ => inductionHypothesis

end Build

theorem Building.keysDistinct_ofRoot
    {graph : Graph}
    {root : NodeId}
    {building : Building}
    (built : ofRoot graph root = .ok building) :
    building.KeysDistinct := by
  obtain ⟨⟨_, found⟩, ran, same⟩ := except_seq_eq_ok_iff.mp built
  obtain rfl := except_pure_eq_ok_iff.mp same
  have work := (Build.ensures_begin root).bind fun _ _ => Build.ensures_fillAll graph.size
  exact (work _ _ _ (keysDistinct_ofGraph graph) ran).1

/-! ## Values of nodes -/

/-- All values that are known have mappings with different keys. -/
def KnownDistinct (known : Known) : Prop :=
  ∀ id value, known.lookup id = some value → value.keysDistinct = true

/-- A search for values that knows only such values ends with a result of some kind
and knows only such values. -/
def Upholds {α : Type} (search : StateM Known α) (result : α → Prop) : Prop :=
  ∀ known, KnownDistinct known →
    KnownDistinct (search.run known).2 ∧ result (search.run known).1

section Searches

variable {α β : Type} {result : α → Prop} {other : β → Prop}

theorem upholds_pure {value : α} (holds : result value) : Upholds (pure value) result :=
  fun _ distinct => ⟨distinct, holds⟩

theorem Upholds.bind
    {search : StateM Known α}
    {next : α → StateM Known β}
    (upholds : Upholds search result)
    (nextUpholds : ∀ value, result value → Upholds (next value) other) :
    Upholds (search >>= next) other := by
  intro known distinct
  obtain ⟨stillDistinct, holds⟩ := upholds known distinct
  exact nextUpholds _ holds _ stillDistinct

theorem upholds_get : Upholds get KnownDistinct :=
  fun _ distinct => ⟨distinct, distinct⟩

theorem upholds_mapM
    {items : List α}
    {search : α → StateM Known β}
    (other : β → Prop)
    (each : ∀ item ∈ items, Upholds (search item) other) :
    Upholds (items.mapM search) fun found => ∀ value ∈ found, other value := by
  induction items with
  | nil =>
      rw [List.mapM_nil]
      exact upholds_pure fun _ member => by cases member
  | cons item rest inductionHypothesis =>
      rw [List.mapM_cons]
      obtain ⟨first, others⟩ := List.forall_mem_cons.mp each
      apply first.bind
      intro value holds
      apply (inductionHypothesis others).bind
      intro values hold
      exact upholds_pure (List.forall_mem_cons.mpr ⟨holds, hold⟩)

end Searches

/-- The mappings of a value have different keys. -/
def Unfolded.KeysDistinct (found : Unfolded) : Prop :=
  found.value.keysDistinct = true

theorem upholds_add {found : Unfolded} (distinct : found.KeysDistinct) (id : NodeId) :
    Upholds (modify fun known => (id, found.value) :: known) fun _ => True := by
  intro known knownDistinct
  refine ⟨?_, trivial⟩
  intro other value looked
  change List.lookup other ((id, found.value) :: known) = some value at looked
  rw [List.lookup_cons] at looked
  split at looked
  · exact Option.some.inj looked ▸ distinct
  · exact knownDistinct other value looked

theorem keysDistinct_zip
    {keys : List Scalar}
    {values : List Value}
    (apart : (keys.map Scalar.key).Nodup)
    (each : ∀ value ∈ values, value.keysDistinct = true) :
    Entries.keysDistinct (keys.zip values) = true := by
  induction keys generalizing values with
  | nil => rw [List.zip_nil_left, Entries.keysDistinct]
  | cons key rest inductionHypothesis =>
      cases values with
      | nil => rw [List.zip_nil_right, Entries.keysDistinct]
      | cons value others =>
          obtain ⟨fresh, restApart⟩ := List.nodup_cons.mp apart
          obtain ⟨valueDistinct, othersDistinct⟩ := List.forall_mem_cons.mp each
          have absent : Entries.find? key.key (rest.zip others) = none := by
            apply Entries.find?_eq_none_iff.mpr
            intro repeated
            obtain ⟨entry, member, same⟩ := List.mem_map.mp repeated
            exact fresh (List.mem_map.mpr ⟨entry.1, (List.of_mem_zip member).1, same⟩)
          exact Entries.keysDistinct_cons.mpr
            ⟨absent, valueDistinct, inductionHypothesis restApart othersDistinct⟩

theorem Unfolded.keysDistinct_map
    {entries : List (Scalar × NodeId)}
    {found : List Unfolded}
    (apart : KeysApart entries)
    (each : ∀ unfolded ∈ found, unfolded.KeysDistinct) :
    (Unfolded.map (entries.map Prod.fst) found).KeysDistinct := by
  apply keysDistinct_zip
  · rw [List.map_map]
    exact apart
  · exact List.forall_mem_map.mpr each

theorem upholds_unfoldParts
    {find : Opened → NodeId → StateM Known Unfolded}
    (finds : ∀ opened id, Upholds (find opened id) Unfolded.KeysDistinct)
    (opened : Opened)
    (id : NodeId)
    {parts : Parts}
    (apart : ∀ entries, parts = .map entries → KeysApart entries) :
    Upholds (Building.unfoldParts find opened id parts) Unfolded.KeysDistinct := by
  cases parts with
  | set members => exact upholds_pure rfl
  | list items =>
      rw [Building.unfoldParts]
      split
      · exact upholds_pure rfl
      · apply (upholds_mapM Unfolded.KeysDistinct fun item _ => finds _ item).bind
        intro found _
        exact upholds_pure rfl
  | map entries =>
      rw [Building.unfoldParts]
      split
      · exact upholds_pure rfl
      · apply (upholds_mapM Unfolded.KeysDistinct fun item _ => finds _ item).bind
        intro found each
        exact upholds_pure (Unfolded.keysDistinct_map (apart entries rfl) each)
  | pairs pairs =>
      rw [Building.unfoldParts]
      split
      · exact upholds_pure rfl
      · apply (upholds_mapM (fun _ => True) ?_).bind
        · intro found _
          exact upholds_pure rfl
        · rintro ⟨⟨first, second⟩, position⟩ _
          dsimp only
          split
          · exact upholds_pure trivial
          · exact (finds _ first).bind fun _ _ =>
              (finds _ second).bind fun _ _ => upholds_pure trivial

theorem upholds_unfold
    {building : Building}
    (distinct : building.KeysDistinct)
    (steps : Nat)
    (opened : Opened)
    (id : NodeId) :
    Upholds (building.unfold steps opened id) Unfolded.KeysDistinct := by
  induction steps generalizing opened id with
  | zero => exact upholds_pure rfl
  | succ steps inductionHypothesis =>
      rw [Building.unfold]
      split
      · exact upholds_pure rfl
      · exact upholds_pure rfl
      · exact upholds_pure rfl
      · rename_i parts filled
        apply upholds_get.bind
        intro known knownDistinct
        split
        · rename_i value looked
          exact upholds_pure (knownDistinct id value looked)
        · have apart : ∀ entries, parts = .map entries → KeysApart entries := by
            intro entries same
            exact distinct id entries (same ▸ filled)
          apply (upholds_unfoldParts inductionHypothesis opened id apart).bind
          intro found foundDistinct
          dsimp only
          split
          · exact (upholds_add foundDistinct id).bind fun _ _ => upholds_pure foundDistinct
          · exact upholds_pure foundDistinct

theorem keysDistinct_contentOf
    {graph : Graph}
    {root : NodeId}
    {value : Value}
    (built : contentOf graph root = .ok value) :
    value.keysDistinct = true := by
  obtain ⟨building, buildingBuilt, found⟩ := except_seq_eq_ok_iff.mp built
  obtain rfl := except_pure_eq_ok_iff.mp found
  have distinct := Building.keysDistinct_ofRoot buildingBuilt
  have nothingKnown : KnownDistinct [] := fun _ _ known => by cases known
  exact (upholds_unfold distinct (8 * graph.size + 8) .none root [] nothingKnown).2

/-- The value of a text has mappings with different keys. -/
theorem keysDistinct_read
    {chars : List Char}
    {value : Value}
    (found : read chars = .ok value) :
    value.keysDistinct = true := by
  obtain ⟨stream, -, rest⟩ := except_seq_eq_ok_iff.mp found
  obtain ⟨rooted?, -, content⟩ := except_seq_eq_ok_iff.mp rest
  cases rooted? with
  | none =>
      obtain rfl := except_pure_eq_ok_iff.mp content
      rfl
  | some rooted => exact keysDistinct_contentOf content

theorem keysDistinct_readBytes
    {bytes : List UInt8}
    {value : Value}
    (found : readBytes bytes = .ok value) :
    value.keysDistinct = true := by
  unfold readBytes at found
  split at found
  · cases found
  · exact keysDistinct_read (except_mapError_eq_ok_iff.mp found)

end LinkedQuery.Yaml
