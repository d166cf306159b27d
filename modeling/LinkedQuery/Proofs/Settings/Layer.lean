import LinkedQuery.Settings.Layer
import Mathlib.Data.List.Induction
import Mathlib.Data.List.Nodup

/-!
Contract: what an overlay of settings holds at each path of keys.

Owns:
- the value of nested mappings at a path, and mappings without repeated keys;
- what stands under a key after an overlay, and the order of its keys;
- the rule for all paths: the layers meet as far as both hold mappings, and from there
  on the upper one decides where it has the next key.

Does not own: what the settings mean.
-/

namespace LinkedQuery

/-! ## Paths and keys -/

namespace Value

/-- The value at the end of a path of keys. -/
def at? : Value → List Key → Option Value
  | value, [] => some value
  | .map entries, key :: rest => (Entries.find? key entries).bind fun value => at? value rest
  | _, _ :: _ => none

theorem at?_nil (value : Value) : value.at? [] = some value := by
  cases value <;> rfl

theorem at?_map_cons (entries : Entries) (key : Key) (rest : List Key) :
    (Value.map entries).at? (key :: rest) =
      (Entries.find? key entries).bind fun value => value.at? rest :=
  rfl

theorem at?_map_singleton (entries : Entries) (key : Key) :
    (Value.map entries).at? [key] = Entries.find? key entries := by
  rw [at?_map_cons]
  cases Entries.find? key entries with
  | none => rfl
  | some value => exact at?_nil value

theorem at?_cons_of_not_map
    {value : Value}
    {key : Key}
    {rest : List Key}
    (notMap : ∀ entries, value ≠ .map entries) :
    value.at? (key :: rest) = none := by
  cases value with
  | map entries => exact absurd rfl (notMap entries)
  | scalar | list | set | pair | again => rfl

theorem at?_cons_eq_some_iff {value inner : Value} {key : Key} {rest : List Key} :
    value.at? (key :: rest) = some inner ↔
      ∃ entries next, value = .map entries ∧ Entries.find? key entries = some next ∧
        next.at? rest = some inner := by
  constructor
  · intro stands
    by_cases mapping : ∃ entries, value = .map entries
    · obtain ⟨entries, rfl⟩ := mapping
      obtain ⟨next, found, further⟩ := Option.bind_eq_some_iff.mp stands
      exact ⟨entries, next, rfl, found, further⟩
    · rw [at?_cons_of_not_map fun entries same => mapping ⟨entries, same⟩] at stands
      cases stands
  · intro stands
    obtain ⟨entries, next, rfl, found, further⟩ := stands
    exact Option.bind_eq_some_iff.mpr ⟨next, found, further⟩

theorem at?_append (value : Value) (front back : List Key) :
    value.at? (front ++ back) = (value.at? front).bind fun inner => inner.at? back := by
  induction front generalizing value with
  | nil => simp [at?_nil]
  | cons key rest inductionHypothesis =>
      cases value with
      | map entries =>
          simp only [List.cons_append, at?_map_cons]
          cases Entries.find? key entries with
          | none => rfl
          | some inner => exact inductionHypothesis inner
      | scalar | list | set | pair | again => rfl

/-- A mapping stands at the end of a path. -/
def IsMapAt (value : Value) (path : List Key) : Prop :=
  ∃ entries, value.at? path = some (.map entries)

end Value

mutual

/-- Whether no mapping that is reached through mappings has a key twice. -/
def Value.keysDistinct : Value → Bool
  | .map entries => Entries.keysDistinct entries
  | _ => true

/-- Whether the entries of a mapping have different keys, and so have all mappings
reached through them. -/
def Entries.keysDistinct : List (Scalar × Value) → Bool
  | [] => true
  | (key, value) :: rest =>
      (Entries.find? key.key rest).isNone && value.keysDistinct && Entries.keysDistinct rest

end

namespace Entries

variable {key : Key} {entries below above : Entries} {value : Value}

theorem keysDistinct_cons {spelled : Scalar} {rest : Entries} :
    keysDistinct ((spelled, value) :: rest) = true ↔
      find? spelled.key rest = none ∧ value.keysDistinct = true ∧ keysDistinct rest = true := by
  rw [keysDistinct, Bool.and_eq_true, Bool.and_eq_true, Option.isNone_iff_eq_none, and_assoc]

theorem find?_eq_none_iff :
    find? key entries = none ↔ key ∉ entries.map fun entry => entry.1.key := by
  induction entries with
  | nil => simp [find?]
  | cons entry rest inductionHypothesis =>
      by_cases same : entry.1.key = key
      · simp [find?, same]
      · simp [find?, same, inductionHypothesis, Ne.symm same]

theorem nodup_of_keysDistinct (distinct : keysDistinct entries = true) :
    (entries.map fun entry => entry.1.key).Nodup := by
  induction entries with
  | nil => exact List.nodup_nil
  | cons entry rest inductionHypothesis =>
      obtain ⟨absent, -, restDistinct⟩ := keysDistinct_cons.mp distinct
      exact List.nodup_cons.mpr ⟨find?_eq_none_iff.mp absent, inductionHypothesis restDistinct⟩

theorem keysDistinct_of_find?
    (distinct : keysDistinct entries = true)
    (found : find? key entries = some value) :
    value.keysDistinct = true := by
  induction entries with
  | nil => cases found
  | cons entry rest inductionHypothesis =>
      obtain ⟨-, valueDistinct, restDistinct⟩ := keysDistinct_cons.mp distinct
      by_cases same : entry.1.key = key
      · have standsThere : some entry.2 = some value := by
          rw [← found, find?, if_pos same]
        exact Option.some.inj standsThere ▸ valueDistinct
      · have later : find? key rest = some value := by
          rw [← found, find?, if_neg same]
        exact inductionHypothesis restDistinct later

theorem find?_of_mem
    (distinct : keysDistinct entries = true)
    {entry : Scalar × Value}
    (member : entry ∈ entries) :
    find? entry.1.key entries = some entry.2 := by
  induction entries with
  | nil => cases member
  | cons first rest inductionHypothesis =>
      obtain ⟨absent, -, restDistinct⟩ := keysDistinct_cons.mp distinct
      rcases List.mem_cons.mp member with rfl | inRest
      · rw [find?, if_pos rfl]
      · have found := inductionHypothesis restDistinct inRest
        have different : first.1.key ≠ entry.1.key := by
          intro same
          rw [same, found] at absent
          cases absent
        rw [find?, if_neg different, found]

theorem keysDistinct_of_mem
    (distinct : keysDistinct entries = true)
    {entry : Scalar × Value}
    (member : entry ∈ entries) :
    entry.2.keysDistinct = true :=
  keysDistinct_of_find? distinct (find?_of_mem distinct member)

end Entries

theorem Value.keysDistinct_of_at?
    {value inner : Value}
    {path : List Key}
    (distinct : value.keysDistinct = true)
    (stands : value.at? path = some inner) :
    inner.keysDistinct = true := by
  induction path generalizing value with
  | nil =>
      rw [at?_nil] at stands
      exact Option.some.inj stands ▸ distinct
  | cons key rest inductionHypothesis =>
      obtain ⟨entries, next, rfl, found, further⟩ := at?_cons_eq_some_iff.mp stands
      exact inductionHypothesis (Entries.keysDistinct_of_find? distinct found) further

/-! ## One level -/

theorem Value.overlay_map_map (below above : Entries) :
    (Value.map below).overlay (.map above) = .map (Entries.overlay below above) := by
  rw [Value.overlay]

theorem Value.overlay_of_not_maps
    {below above : Value}
    (notMaps : ∀ lower upper, ¬ (below = .map lower ∧ above = .map upper)) :
    below.overlay above = above := by
  cases above with
  | map upper =>
      cases below with
      | map lower => exact absurd ⟨rfl, rfl⟩ (notMaps lower upper)
      | scalar | list | set | pair | again => rw [Value.overlay]; simp
  | scalar | list | set | pair | again => rw [Value.overlay]

namespace Entries

variable {key : Key} {below above : Entries}

theorem find?_put (spelled : Scalar) (value : Value) (entries : Entries) :
    find? key (put spelled value entries) =
      if spelled.key = key then some value else find? key entries := by
  induction entries with
  | nil => rfl
  | cons entry rest inductionHypothesis =>
      obtain ⟨other, old⟩ := entry
      by_cases same : other.key = spelled.key
      · by_cases wanted : spelled.key = key <;> simp [put, find?, same, wanted]
      · rw [put, if_neg same, find?, find?, inductionHypothesis]
        by_cases wanted : other.key = key
        · have different : spelled.key ≠ key := fun alike => same (wanted.trans alike.symm)
          rw [if_pos wanted, if_neg different, if_pos wanted]
        · rw [if_neg wanted, if_neg wanted]

theorem map_fst_put (spelled : Scalar) (value : Value) (entries : Entries) :
    (put spelled value entries).map Prod.fst =
      entries.map Prod.fst ++ if (find? spelled.key entries).isNone then [spelled] else [] := by
  induction entries with
  | nil => rfl
  | cons entry rest inductionHypothesis =>
      by_cases same : entry.1.key = spelled.key
      · simp [put, find?, same]
      · simp [put, find?, same, inductionHypothesis]

/-- What an upper value leaves where a lower one may stand. -/
def resolve (lower : Option Value) (upper : Value) : Value :=
  lower.elim upper fun old => old.overlay upper

theorem overlay_cons (spelled : Scalar) (value : Value) (rest : Entries) :
    overlay below ((spelled, value) :: rest) =
      overlay (put spelled (resolve (find? spelled.key below) value) below) rest := by
  rw [overlay]
  cases find? spelled.key below <;> rfl

theorem find?_overlay (distinct : keysDistinct above = true) :
    find? key (overlay below above) =
      match find? key above with
      | none => find? key below
      | some upper => some (resolve (find? key below) upper) := by
  induction above generalizing below with
  | nil => rw [overlay, find?]
  | cons entry rest inductionHypothesis =>
      obtain ⟨spelled, value⟩ := entry
      obtain ⟨absent, -, restDistinct⟩ := keysDistinct_cons.mp distinct
      rw [overlay_cons, inductionHypothesis restDistinct, find?_put]
      by_cases same : spelled.key = key
      · -- The rest of the upper layer has no such key and leaves the entry alone.
        subst same
        simp [find?, absent]
      · simp [find?, same]

theorem map_fst_overlay (distinct : keysDistinct above = true) :
    (overlay below above).map Prod.fst =
      below.map Prod.fst ++
        (above.map Prod.fst).filter fun spelled => (find? spelled.key below).isNone := by
  induction above generalizing below with
  | nil => simp [overlay]
  | cons entry rest inductionHypothesis =>
      obtain ⟨spelled, value⟩ := entry
      obtain ⟨absent, -, restDistinct⟩ := keysDistinct_cons.mp distinct
      have othersKept :
          ((rest.map Prod.fst).filter fun other =>
            (find? other.key (put spelled (resolve (find? spelled.key below) value) below)).isNone) =
          (rest.map Prod.fst).filter fun other => (find? other.key below).isNone := by
        apply List.filter_congr
        intro other member
        obtain ⟨restEntry, restMember, rfl⟩ := List.mem_map.mp member
        have different : spelled.key ≠ restEntry.1.key := by
          intro same
          apply find?_eq_none_iff.mp absent
          rw [same]
          exact List.mem_map_of_mem restMember
        rw [find?_put, if_neg different]
      rw [overlay_cons, inductionHypothesis restDistinct, othersKept, map_fst_put, List.map_cons,
        List.filter_cons]
      cases find? spelled.key below with
      | none => simp
      | some old => simp

theorem nodup_overlay
    (belowDistinct : keysDistinct below = true)
    (aboveDistinct : keysDistinct above = true) :
    ((overlay below above).map fun entry => entry.1.key).Nodup := by
  have spelledOut :
      ((overlay below above).map fun entry => entry.1.key) =
        (below.map fun entry => entry.1.key) ++
          ((above.map Prod.fst).filter fun spelled => (find? spelled.key below).isNone).map
            Scalar.key := by
    have spelled : (overlay below above).map Prod.fst = _ := map_fst_overlay aboveDistinct
    have mapped := congrArg (List.map Scalar.key) spelled
    simpa only [List.map_append, List.map_map, Function.comp_def] using mapped
  rw [spelledOut]
  apply List.Nodup.append (nodup_of_keysDistinct belowDistinct)
  · have aboveNodup : ((above.map Prod.fst).map Scalar.key).Nodup := by
      simpa only [List.map_map, Function.comp_def] using nodup_of_keysDistinct aboveDistinct
    exact aboveNodup.sublist (List.filter_sublist.map Scalar.key)
  · intro shared inBelow inAbove
    obtain ⟨spelled, member, rfl⟩ := List.mem_map.mp inAbove
    have absent : (find? spelled.key below).isNone = true := (List.mem_filter.mp member).2
    exact find?_eq_none_iff.mp (Option.isNone_iff_eq_none.mp absent) inBelow

end Entries

/-! ## All paths -/

/-- Two values hold a mapping at every prefix of a path. -/
def BothMaps (below above : Value) (path : List Key) : Prop :=
  ∀ front, front <+: path → below.IsMapAt front ∧ above.IsMapAt front

/-- The longest prefix of a path along which two values hold mappings. -/
structure IsMeeting (below above : Value) (path shared : List Key) : Prop where
  isPrefix : shared <+: path
  bothMaps : BothMaps below above shared
  longest : ∀ front, front <+: path → BothMaps below above front → front.length ≤ shared.length

theorem Value.IsMapAt.front
    {value : Value}
    {path front : List Key}
    (mapping : value.IsMapAt path)
    (before : front <+: path) :
    value.IsMapAt front := by
  obtain ⟨back, rfl⟩ := before
  obtain ⟨entries, stands⟩ := mapping
  rw [Value.at?_append] at stands
  obtain ⟨inner, innerStands, further⟩ := Option.bind_eq_some_iff.mp stands
  cases back with
  | nil =>
      rw [Value.at?_nil] at further
      exact ⟨entries, innerStands.trans further⟩
  | cons key rest =>
      obtain ⟨innerEntries, -, rfl, -⟩ := Value.at?_cons_eq_some_iff.mp further
      exact ⟨innerEntries, innerStands⟩

theorem bothMaps_iff {below above : Value} {path : List Key} :
    BothMaps below above path ↔ below.IsMapAt path ∧ above.IsMapAt path := by
  constructor
  · intro both
    exact both path (List.prefix_refl path)
  · intro both front before
    exact ⟨both.1.front before, both.2.front before⟩

theorem exists_isMeeting (below above : Entries) (path : List Key) :
    ∃ shared, IsMeeting (.map below) (.map above) path shared := by
  induction path using List.reverseRecOn with
  | nil =>
      have both : BothMaps (.map below) (.map above) [] :=
        bothMaps_iff.mpr ⟨⟨below, rfl⟩, ⟨above, rfl⟩⟩
      exact ⟨[], List.prefix_refl [], both, fun front before _ => before.length_le⟩
  | append_singleton front key inductionHypothesis =>
      by_cases both : BothMaps (.map below) (.map above) (front ++ [key])
      · exact ⟨front ++ [key], List.prefix_refl _, both, fun _ before _ => before.length_le⟩
      · obtain ⟨shared, isPrefix, sharedBoth, longest⟩ := inductionHypothesis
        refine ⟨shared, isPrefix.trans (List.prefix_append front [key]), sharedBoth, ?_⟩
        intro other before otherBoth
        rcases List.prefix_concat_iff.mp before with whole | shorter
        · exact absurd (whole ▸ otherBoth) both
        · exact longest other shorter otherBoth

theorem IsMeeting.not_bothMaps
    {below above : Value}
    {shared rest : List Key}
    {key : Key}
    (meeting : IsMeeting below above (shared ++ key :: rest) shared) :
    ¬ BothMaps below above (shared ++ [key]) := by
  intro both
  have further : shared ++ [key] <+: shared ++ key :: rest := ⟨rest, by simp⟩
  have tooLong := meeting.longest _ further both
  simp only [List.length_append, List.length_singleton] at tooLong
  omega

theorem Value.overlay_at?_of_maps
    {below above : Value}
    {lower upper : Entries}
    {path : List Key}
    (distinct : above.keysDistinct = true)
    (lowerStands : below.at? path = some (.map lower))
    (upperStands : above.at? path = some (.map upper)) :
    (below.overlay above).at? path = some (.map (Entries.overlay lower upper)) := by
  induction path generalizing below above with
  | nil =>
      rw [at?_nil] at lowerStands upperStands
      rw [at?_nil, Option.some.inj lowerStands, Option.some.inj upperStands, overlay_map_map]
  | cons key rest inductionHypothesis =>
      obtain ⟨lowerEntries, old, rfl, oldFound, lowerFurther⟩ :=
        at?_cons_eq_some_iff.mp lowerStands
      obtain ⟨upperEntries, new, rfl, newFound, upperFurther⟩ :=
        at?_cons_eq_some_iff.mp upperStands
      have newDistinct := Entries.keysDistinct_of_find? distinct newFound
      have standsThere :
          Entries.find? key (Entries.overlay lowerEntries upperEntries) =
            some (old.overlay new) := by
        rw [Entries.find?_overlay distinct, newFound, oldFound]
        rfl
      rw [overlay_map_map]
      exact at?_cons_eq_some_iff.mpr
        ⟨_, _, rfl, standsThere, inductionHypothesis newDistinct lowerFurther upperFurther⟩

/-- One key past the mappings of both layers, the upper one decides if it has that key. -/
theorem Entries.overlay_at?_cons
    {lower upper : Entries}
    {key : Key}
    {rest : List Key}
    (distinct : keysDistinct upper = true)
    (notBoth : ¬ ((Value.map lower).IsMapAt [key] ∧ (Value.map upper).IsMapAt [key])) :
    (Value.map (overlay lower upper)).at? (key :: rest) =
      if (find? key upper).isSome then
        (Value.map upper).at? (key :: rest)
      else
        (Value.map lower).at? (key :: rest) := by
  simp only [Value.at?_map_cons]
  rw [find?_overlay distinct]
  cases upperFound : find? key upper with
  | none => rfl
  | some new =>
      cases lowerFound : find? key lower with
      | none => rfl
      | some old =>
          have notMaps : ∀ lowerInner upperInner,
              ¬ (old = .map lowerInner ∧ new = .map upperInner) := by
            intro lowerInner upperInner maps
            obtain ⟨rfl, rfl⟩ := maps
            apply notBoth
            exact ⟨⟨lowerInner, (Value.at?_map_singleton lower key).trans lowerFound⟩,
              ⟨upperInner, (Value.at?_map_singleton upper key).trans upperFound⟩⟩
          have replaced : old.overlay new = new := Value.overlay_of_not_maps notMaps
          change (old.overlay new).at? rest = new.at? rest
          rw [replaced]

/-- Two layers of settings meet at the longest prefix of a path along which both hold
mappings.  Where that is the whole path, the overlay holds a mapping with the keys of the
lower layer and then the other keys of the upper one; elsewhere the upper layer decides
what stands at the path if it has the next key, and the lower one otherwise. -/
theorem Entries.overlay_at?
    (below above : Entries)
    (belowDistinct : keysDistinct below = true)
    (aboveDistinct : keysDistinct above = true)
    (path : List Key) :
    ∃ shared, IsMeeting (.map below) (.map above) path shared ∧
      (shared = path →
        ∃ lower upper merged,
          (Value.map below).at? path = some (.map lower) ∧
          (Value.map above).at? path = some (.map upper) ∧
          (Value.map (overlay below above)).at? path = some (.map merged) ∧
          merged.map Prod.fst =
            lower.map Prod.fst ++
              (upper.map Prod.fst).filter (fun spelled => (find? spelled.key lower).isNone) ∧
          (merged.map fun entry => entry.1.key).Nodup) ∧
      ∀ key rest, path = shared ++ key :: rest →
        (Value.map (overlay below above)).at? path =
          if ((Value.map above).at? (shared ++ [key])).isSome then
            (Value.map above).at? path
          else
            (Value.map below).at? path := by
  obtain ⟨shared, meeting⟩ := exists_isMeeting below above path
  obtain ⟨⟨lower, lowerStands⟩, ⟨upper, upperStands⟩⟩ := bothMaps_iff.mp meeting.bothMaps
  have belowWell : (Value.map below).keysDistinct = true := belowDistinct
  have aboveWell : (Value.map above).keysDistinct = true := aboveDistinct
  have lowerDistinct : keysDistinct lower = true :=
    Value.keysDistinct_of_at? belowWell lowerStands
  have upperDistinct : keysDistinct upper = true :=
    Value.keysDistinct_of_at? aboveWell upperStands
  have mergedStands :
      (Value.map (overlay below above)).at? shared = some (.map (overlay lower upper)) := by
    rw [← Value.overlay_map_map]
    exact Value.overlay_at?_of_maps aboveWell lowerStands upperStands
  refine ⟨shared, meeting, ?_, ?_⟩
  · intro whole
    subst whole
    exact ⟨lower, upper, overlay lower upper, lowerStands, upperStands, mergedStands,
      map_fst_overlay upperDistinct, nodup_overlay lowerDistinct upperDistinct⟩
  · intro key rest split
    subst split
    have notBoth : ¬ ((Value.map lower).IsMapAt [key] ∧ (Value.map upper).IsMapAt [key]) := by
      intro maps
      apply meeting.not_bothMaps
      rw [bothMaps_iff]
      simpa only [Value.IsMapAt, Value.at?_append, lowerStands, upperStands, Option.bind_some]
        using maps
    simp only [Value.at?_append, mergedStands, lowerStands, upperStands, Option.bind_some,
      Value.at?_map_singleton]
    exact overlay_at?_cons upperDistinct notBoth

/-- Settings of the log and of the output. -/
def defaultLayer : Entries :=
  [(.text "log", .map [(.text "level", .scalar (.text "INFO")), (.text "dir", .scalar .null)]),
   (.text "formats", .list [.scalar (.text "console")])]

/-- Settings with another level, and with a mapping in the place of a list. -/
def userLayer : Entries :=
  [(.text "formats", .map [(.text "json", .scalar (.bool true))]),
   (.text "log", .map [(.text "level", .scalar (.text "DEBUG"))])]

theorem Entries.overlay_at?_layers :
    Entries.keysDistinct defaultLayer = true ∧ Entries.keysDistinct userLayer = true ∧
    ∃ shared,
      IsMeeting (.map defaultLayer) (.map userLayer) [.text "formats", .text "json"] shared ∧
      ∀ key rest, [.text "formats", .text "json"] = shared ++ key :: rest →
        (Value.map (overlay defaultLayer userLayer)).at? [.text "formats", .text "json"] =
          if ((Value.map userLayer).at? (shared ++ [key])).isSome then
            (Value.map userLayer).at? [.text "formats", .text "json"]
          else
            (Value.map defaultLayer).at? [.text "formats", .text "json"] := by
  have lowerDistinct : keysDistinct defaultLayer = true := by decide
  have upperDistinct : keysDistinct userLayer = true := by decide
  obtain ⟨shared, meeting, -, decided⟩ :=
    overlay_at? defaultLayer userLayer lowerDistinct upperDistinct
      [.text "formats", .text "json"]
  exact ⟨lowerDistinct, upperDistinct, shared, meeting, decided⟩

end LinkedQuery
