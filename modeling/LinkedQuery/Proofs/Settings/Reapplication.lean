import LinkedQuery.Proofs.Settings.Layer
import LinkedQuery.Proofs.Yaml.DistinctKeys
import LinkedQuery.Settings.File

/-!
Contract: layers of settings that are applied again.

Owns:
- layers that leave what is below them as it is;
- the laws of the overlay: a layer applied twice, a layer over itself, and the
  empty layer above and below;
- settings files, whose mappings repeat no key, so that a file that is laid over
  itself need not be.

Does not own: what an overlay holds at each path of keys.
-/

namespace LinkedQuery

/-! ## Layers that change nothing -/

namespace Entries

variable {below above entries : Entries}

theorem put_of_find?
    {spelled : Scalar}
    {value : Value}
    (found : find? spelled.key entries = some value) :
    put spelled value entries = entries := by
  induction entries with
  | nil => cases found
  | cons entry rest inductionHypothesis =>
      obtain ⟨other, old⟩ := entry
      by_cases same : other.key = spelled.key
      · rw [find?, if_pos same] at found
        rw [put, if_pos same, Option.some.inj found]
      · rw [find?, if_neg same] at found
        rw [put, if_neg same, inductionHypothesis found]

theorem put_of_not_found
    {spelled : Scalar}
    (absent : find? spelled.key entries = none)
    (value : Value) :
    put spelled value entries = entries ++ [(spelled, value)] := by
  induction entries with
  | nil => rfl
  | cons entry rest inductionHypothesis =>
      obtain ⟨other, old⟩ := entry
      by_cases same : other.key = spelled.key
      · rw [find?, if_pos same] at absent
        cases absent
      · rw [find?, if_neg same] at absent
        rw [put, if_neg same, inductionHypothesis absent, List.cons_append]

/-- Every entry of a layer meets a value that it leaves as it is. -/
def LeavesAlone (above below : Entries) : Prop :=
  ∀ entry ∈ above, ∃ value,
    find? entry.1.key below = some value ∧ value.overlay entry.2 = value

theorem LeavesAlone.overlay_eq (leaves : LeavesAlone above below) :
    overlay below above = below := by
  induction above with
  | nil => rw [overlay]
  | cons entry rest inductionHypothesis =>
      obtain ⟨spelled, upper⟩ := entry
      obtain ⟨value, found, kept⟩ := leaves (spelled, upper) List.mem_cons_self
      have resolved : resolve (find? spelled.key below) upper = value := by
        rw [found]
        exact kept
      rw [overlay_cons, resolved, put_of_find? found]
      exact inductionHypothesis fun other member => leaves other (List.mem_cons_of_mem _ member)

/-- A layer that shares no key with what is below goes behind it. -/
theorem overlay_of_fresh
    (distinct : keysDistinct above = true)
    (fresh : ∀ entry ∈ above, find? entry.1.key below = none) :
    overlay below above = below ++ above := by
  induction above generalizing below with
  | nil => rw [overlay, List.append_nil]
  | cons entry rest inductionHypothesis =>
      obtain ⟨spelled, upper⟩ := entry
      obtain ⟨absentLater, -, restDistinct⟩ := keysDistinct_cons.mp distinct
      obtain ⟨absent, restFresh⟩ := List.forall_mem_cons.mp fresh
      have stillFresh :
          ∀ other ∈ rest, find? other.1.key (put spelled upper below) = none := by
        intro other member
        have different : spelled.key ≠ other.1.key := by
          intro same
          rw [same, find?_of_mem restDistinct member] at absentLater
          cases absentLater
        rw [find?_put, if_neg different]
        exact restFresh other member
      have resolved : resolve (find? spelled.key below) upper = upper := by
        rw [absent]
        rfl
      rw [overlay_cons, resolved, inductionHypothesis restDistinct stillFresh,
        put_of_not_found absent, List.append_assoc, List.singleton_append]

end Entries

/-! ## Layers applied twice -/

namespace Value

/-- A property of all values, shown from the values of a mapping upwards. -/
@[elab_as_elim]
theorem mapInduction
    {motive : Value → Prop}
    (map : ∀ entries : Entries, (∀ entry ∈ entries, motive entry.2) → motive (.map entries))
    (other : ∀ value, (∀ entries, value ≠ .map entries) → motive value) :
    ∀ value, motive value
  | .map entries => map entries fun entry _ => mapInduction map other entry.2
  | .scalar _ | .list _ | .set _ | .pair _ _ | .again _ => other _ fun _ same => by cases same
termination_by value => sizeOf value
decreasing_by
  have smaller := List.sizeOf_lt_of_mem (by assumption)
  obtain ⟨spelled, value⟩ := entry
  simp only [Prod.mk.sizeOf_spec, Value.map.sizeOf_spec] at smaller ⊢
  omega

/-- A value is absorbed where it was laid over anything before. -/
def Absorbed (above : Value) : Prop :=
  ∀ below : Value, (below.overlay above).overlay above = below.overlay above

theorem Absorbed.resolve {above : Value} (absorbed : above.Absorbed) (lower : Option Value) :
    (Entries.resolve lower above).overlay above = Entries.resolve lower above := by
  cases lower with
  | none =>
      -- Over a value that is no mapping, the upper value stands alone.
      have alone : (Value.scalar .null).overlay above = above :=
        overlay_of_not_maps fun _ _ maps => by cases maps.1
      have absorbedAlone := absorbed (.scalar .null)
      rwa [alone] at absorbedAlone
  | some old => exact absorbed old

/-- Entries that are absorbed leave alone whatever they have been resolved to. -/
theorem overlay_map_of_resolved
    {upper settled : Entries}
    (absorbed : ∀ entry ∈ upper, entry.2.Absorbed)
    (resolved :
      ∀ entry ∈ upper, ∃ lower,
        Entries.find? entry.1.key settled = some (Entries.resolve lower entry.2)) :
    (Value.map settled).overlay (.map upper) = .map settled := by
  have leaves : Entries.LeavesAlone upper settled := by
    intro entry member
    obtain ⟨lower, found⟩ := resolved entry member
    exact ⟨_, found, (absorbed entry member).resolve lower⟩
  rw [overlay_map_map, leaves.overlay_eq]

theorem absorbed_of_keysDistinct {above : Value} (distinct : above.keysDistinct = true) :
    above.Absorbed := by
  induction above using mapInduction with
  | map upper inductionHypothesis =>
      have absorbed : ∀ entry ∈ upper, entry.2.Absorbed := fun entry member =>
        inductionHypothesis entry member (Entries.keysDistinct_of_mem distinct member)
      intro below
      by_cases mapping : ∃ lower, below = .map lower
      · obtain ⟨lower, rfl⟩ := mapping
        rw [overlay_map_map]
        apply overlay_map_of_resolved absorbed
        intro entry member
        refine ⟨Entries.find? entry.1.key lower, ?_⟩
        rw [Entries.find?_overlay distinct, Entries.find?_of_mem distinct member]
      · have replaced : below.overlay (.map upper) = .map upper :=
          overlay_of_not_maps fun lower _ maps => mapping ⟨lower, maps.1⟩
        rw [replaced]
        apply overlay_map_of_resolved absorbed
        intro entry member
        exact ⟨none, Entries.find?_of_mem distinct member⟩
  | other above notMap =>
      intro below
      have replaced : ∀ lower : Value, lower.overlay above = above := fun lower =>
        overlay_of_not_maps fun _ upper maps => notMap upper maps.2
      rw [replaced, replaced]

end Value

namespace Entries

variable {below above entries : Entries}

theorem overlay_overlay (distinct : keysDistinct above = true) :
    overlay (overlay below above) above = overlay below above := by
  have absorbed : (Value.map above).Absorbed := Value.absorbed_of_keysDistinct distinct
  simpa only [Value.overlay_map_map, Value.map.injEq] using absorbed (.map below)

theorem nil_overlay (distinct : keysDistinct above = true) : overlay [] above = above :=
  overlay_of_fresh distinct fun _ _ => by rw [find?]

theorem overlay_self (distinct : keysDistinct entries = true) :
    overlay entries entries = entries := by
  have again : overlay (overlay [] entries) entries = overlay [] entries :=
    overlay_overlay distinct
  rwa [nil_overlay distinct] at again

end Entries

/-! ## Files over themselves -/

namespace Settings

theorem keysDistinct_readFile
    {files : FileTree}
    {path : Text}
    {entries : Entries}
    (found : readFile files path = .ok entries) :
    Entries.keysDistinct entries = true := by
  unfold readFile at found
  split at found
  · cases found
  · cases found
  · split at found
    · cases found
    · cases found
    · cases found
    · rename_i value read
      have distinct := Yaml.keysDistinct_readBytes read
      have isMapping := except_mapError_eq_ok_iff.mp found
      unfold entriesOf at isMapping
      split at isMapping
      · obtain rfl := Except.ok.inj isMapping
        rw [Entries.keysDistinct]
      · obtain rfl := Except.ok.inj isMapping
        exact distinct
      · cases isMapping

/-- The settings of what two files hold, the second over the first, even where both
are one file. -/
def ofLayers (below above : Except FileFault Entries) : Except FileFault Settings := do
  let lower ← below
  let upper ← above
  (ofEntries (Entries.overlay lower upper)).mapError .settings

theorem ofLayers_self
    {layer : Except FileFault Entries}
    (distinct : ∀ entries, layer = .ok entries → Entries.keysDistinct entries = true) :
    ofLayers layer layer = layer.bind fun entries => (ofEntries entries).mapError .settings := by
  cases layer with
  | error fault => rfl
  | ok entries =>
      show (ofEntries (Entries.overlay entries entries)).mapError FileFault.settings = _
      rw [Entries.overlay_self (distinct entries rfl)]
      rfl

/-- A file that is its own default is read once, as if it were laid over itself. -/
theorem ofFiles_eq_ofLayers (files : FileTree) (path defaults : Text) :
    ofFiles files path defaults =
      ofLayers (readFile files defaults)
        (readFile files (if PathName.same path defaults then defaults else path)) := by
  unfold ofFiles
  by_cases same : PathName.same path defaults = true
  · rw [if_pos same, ofLayers_self fun _ => keysDistinct_readFile]
    simp only [same, if_true, pure_bind]
    rfl
  · simp only [same, if_false, pure_bind, Bool.false_eq_true]
    rfl

/-- A layer that is applied again changes nothing, nor does a layer over itself or an
empty one; so the settings of files are those of their layers even where a file is its
own default and is not laid over itself. -/
theorem overlay_reapplied
    (below above : Entries)
    (belowDistinct : Entries.keysDistinct below = true)
    (aboveDistinct : Entries.keysDistinct above = true) :
    Entries.overlay (Entries.overlay below above) above = Entries.overlay below above ∧
    Entries.overlay below below = below ∧
    Entries.overlay below [] = below ∧
    Entries.overlay [] above = above ∧
    ∀ (files : FileTree) (path defaults : Text),
      ofFiles files path defaults =
        ofLayers (readFile files defaults)
          (readFile files (if PathName.same path defaults then defaults else path)) := by
  refine ⟨Entries.overlay_overlay aboveDistinct, Entries.overlay_self belowDistinct, ?_,
    Entries.nil_overlay aboveDistinct, ofFiles_eq_ofLayers⟩
  rw [Entries.overlay]

theorem overlay_reapplied_layers :
    Entries.keysDistinct defaultLayer = true ∧ Entries.keysDistinct userLayer = true ∧
    Entries.overlay (Entries.overlay defaultLayer userLayer) userLayer =
      Entries.overlay defaultLayer userLayer ∧
    Entries.overlay defaultLayer defaultLayer = defaultLayer ∧
    Entries.overlay [] userLayer = userLayer := by
  have lowerDistinct : Entries.keysDistinct defaultLayer = true := by decide
  have upperDistinct : Entries.keysDistinct userLayer = true := by decide
  obtain ⟨again, itself, -, alone, -⟩ :=
    overlay_reapplied defaultLayer userLayer lowerDistinct upperDistinct
  exact ⟨lowerDistinct, upperDistinct, again, itself, alone⟩

end Settings

end LinkedQuery
