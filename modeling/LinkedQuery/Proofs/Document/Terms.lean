import LinkedQuery.Proofs.Document.Grammar
import LinkedQuery.Proofs.Traced
import Mathlib.Data.List.Nodup

/-!
Contract: the terms that mappings are read as.

Owns:
- scalars, weights and distances as they are read;
- each kind of term without terms below it;
- arrays, whose members are read as terms in turn.

Does not own: the expressions around terms.
-/

namespace LinkedQuery.Document

variable {place : KeyPath}

/-! ## Scalars, weights and distances -/

theorem scalarText_eq_ok_iff {term : KeyPath} {value : Value} {text : Text} :
    scalarText term place value = .ok text ↔ value.Written text := by
  have shown :
      (if value.isOverlong then .error (.overlong term) else .ok value.plain :
          Except Fault Text) = .ok text ↔
        value.plain = text ∧ value.isOverlong = false := by
    rw [except_guard_eq_ok_iff, Bool.not_eq_true, Except.ok.injEq, and_comm]
  cases value with
  | scalar value =>
      cases value with
      | null | bool => simp [scalarText, Value.Written, Value.Plain, Value.IsScalar]
      | int | float | nan | text | date | dateTime | bytes =>
          simpa [scalarText, Value.Written, Value.Plain, Value.IsScalar] using shown
  | set | pair => simpa [scalarText, Value.Written, Value.Plain, Value.IsScalar] using shown
  | list | map | again => simp [scalarText, Value.Written, Value.Plain, Value.IsScalar]

theorem scalarTexts_eq_ok_iff
    {term : KeyPath}
    {position : Nat}
    {values : List Value}
    {texts : List Text} :
    scalarTexts term place position values = .ok texts ↔
      List.Forall₂ Value.Written values texts := by
  induction values generalizing position texts with
  | nil => simp [scalarTexts, eq_comm]
  | cons value rest inductionHypothesis =>
      simp only [scalarTexts, except_seq_eq_ok_iff, scalarText_eq_ok_iff, inductionHypothesis,
        except_pure_eq_ok_iff, List.forall₂_cons_left_iff]
      constructor
      · rintro ⟨text, written, others, restWritten, rfl⟩
        exact ⟨text, others, written, restWritten, rfl⟩
      · rintro ⟨text, others, written, restWritten, rfl⟩
        exact ⟨text, written, others, restWritten, rfl⟩

theorem weight?_eq_ok_iff {value : Option Value} {weight : Option Double} :
    weight? place value = .ok weight ↔ Weighs value weight := by
  constructor
  · intro read
    unfold weight? at read
    split at read
    · obtain rfl := Except.ok.inj read
      exact .absent
    · obtain rfl := Except.ok.inj read
      exact .null
    · split at read
      · obtain rfl := Except.ok.inj read
        exact .int ‹_›
      · cases read
    · rename_i scalar _ _
      cases scalar with
      | float =>
          obtain rfl := Except.ok.inj read
          exact .float
      | nan =>
          obtain rfl := Except.ok.inj read
          exact .nan
      | null | bool | int | text | date | dateTime | bytes => cases read
    · cases read
  · intro weighs
    cases weighs with
    | int finite => exact if_pos finite
    | absent | null | float | nan => rfl

theorem boost?_eq_ok_iff {weight : Option Double} {boost : Option Boost} :
    boost? place weight = .ok boost ↔ Boosts weight boost := by
  cases weight with
  | none =>
      constructor
      · rintro ⟨⟩
        exact .absent
      · rintro ⟨⟩
        rfl
  | some weight =>
      by_cases admissible : (Number.float weight).isAdmissible = true
      · simp only [boost?, Boost.ofNumber, dif_pos admissible]
        constructor
        · rintro ⟨⟩
          exact .present rfl
        · rintro (_ | same)
          rename_i boost
          cases boost
          cases same
          rfl
      · simp only [boost?, Boost.ofNumber, dif_neg admissible, reduceCtorEq, false_iff]
        rintro (_ | same)
        rename_i boost
        exact admissible (same ▸ boost.admissible)

/-! ## Terms -/

theorem TermKind.mem_all (kind : TermKind) : kind ∈ TermKind.all := by
  cases kind <;> decide

theorem presentKinds_eq_singleton_iff {entries : Entries} {kind : TermKind} :
    presentKinds entries = [kind] ↔ ∃ value, Names entries kind value := by
  have distinct : (presentKinds entries).Nodup :=
    List.Nodup.filter _ (by decide)
  have present : ∀ other, other ∈ presentKinds entries ↔ (entries.get? other.key).isSome := by
    intro other
    simp [presentKinds, TermKind.mem_all]
  constructor
  · intro single
    simp only [single, List.mem_singleton] at present
    obtain ⟨value, found⟩ := Option.isSome_iff_exists.mp ((present kind).mp rfl)
    refine ⟨value, found, fun other different => ?_⟩
    rw [← Option.not_isSome_iff_eq_none, ← present]
    exact different
  · rintro ⟨value, found, others⟩
    rw [← List.perm_singleton, List.perm_ext_iff_of_nodup distinct (List.nodup_singleton kind)]
    intro other
    rw [present, List.mem_singleton]
    by_cases same : other = kind
    · simp [same, found]
    · simp [same, others other same]

/-- A mapping names at most one kind. -/
theorem Names.unique
    {entries : Entries}
    {kind otherKind : TermKind}
    {value otherValue : Value}
    (names : Names entries kind value)
    (otherNames : Names entries otherKind otherValue) :
    kind = otherKind ∧ value = otherValue := by
  have sameKind : kind = otherKind := by
    by_contra different
    have absent := otherNames.2 kind different
    rw [names.1] at absent
    cases absent
  subst sameKind
  exact ⟨rfl, Option.some.inj (names.1.symm.trans otherNames.1)⟩

section Simple

variable {value : Value} {entries : Entries} {weight : Option Double} {term : Term}

/-- The texts with a boost are read alike, whatever their kind. -/
theorem readSimple_of_build?
    {kind : TermKind}
    {build : Text → Option Boost → Term}
    (built : kind.build? = some build) :
    readSimple kind value entries place weight = .ok term ↔
      ∃ text, value.Written text ∧ ∃ boost, Boosts weight boost ∧ build text boost = term := by
  cases kind with
  | string | phrase | phraseWildcard | wildcard | regex | unparsedArray =>
      obtain rfl := Option.some.inj built
      simp only [readSimple, except_seq_eq_ok_iff, scalarText_eq_ok_iff, boost?_eq_ok_iff,
        except_pure_eq_ok_iff]
  | null | matchAll | fuzzy | range | array | proximity => cases built

theorem distance_iff {distance : Nat} :
    Distance entries distance ↔
      (entries.get? "distance").getD (.scalar (.int 0)) = .scalar (.int distance) := by
  constructor
  · rintro (absent | present)
    · rw [absent]
      rfl
    · rw [present]
      rfl
  · intro stands
    cases found : entries.get? "distance" with
    | none =>
        rw [found] at stands
        cases stands
        exact .absent found
    | some value =>
        rw [found] at stands
        obtain rfl : value = .scalar (.int distance) := stands
        exact .present found

theorem readFuzzy_eq_ok_iff :
    readSimple .fuzzy value entries place weight = .ok term ↔
      ∃ distance, Distance entries distance ∧
        ∃ text, value.Written text ∧ ∃ boost, Boosts weight boost ∧
          .fuzzy text distance boost = term := by
  simp only [readSimple, distance_iff]
  constructor
  · intro read
    split at read
    · rename_i distance stands
      simp only [except_seq_eq_ok_iff, scalarText_eq_ok_iff, boost?_eq_ok_iff] at read
      obtain ⟨text, written, boost, boosts, built⟩ := read
      cases distance with
      | ofNat distance =>
          exact ⟨distance, stands, text, written, boost, boosts, Except.ok.inj built⟩
      | negSucc => cases built
    · cases read
  · rintro ⟨distance, stands, text, written, boost, boosts, rfl⟩
    simp only [stands, except_seq_eq_ok_iff, scalarText_eq_ok_iff, boost?_eq_ok_iff]
    exact ⟨text, written, boost, boosts, rfl⟩

theorem readRange_eq_ok_iff :
    readSimple .range value entries place weight = .ok term ↔
      ∃ start stop, value = .list [start, stop] ∧
        ∃ startText, start.Written startText ∧ ∃ stopText, stop.Written stopText ∧
          ∃ boost, Boosts weight boost ∧ .range startText stopText boost = term := by
  simp only [readSimple]
  split
  · simp only [except_seq_eq_ok_iff, scalarText_eq_ok_iff, boost?_eq_ok_iff,
      except_pure_eq_ok_iff]
    simp
  · rename_i other
    simp only [reduceCtorEq, false_iff]
    rintro ⟨start, stop, rfl, -⟩
    exact other start stop rfl

theorem readProximity_eq_ok_iff :
    readSimple .proximity value entries place weight = .ok term ↔
      ∃ parts, value = .list parts ∧
        ∃ texts, List.Forall₂ Value.Written parts texts ∧
          ∃ boost, Boosts weight boost ∧ .proximity texts boost = term := by
  simp only [readSimple]
  split
  · simp only [except_seq_eq_ok_iff, scalarTexts_eq_ok_iff, boost?_eq_ok_iff,
      except_pure_eq_ok_iff]
    simp
  · rename_i other
    simp only [reduceCtorEq, false_iff]
    rintro ⟨parts, rfl, -⟩
    exact other parts rfl

/-- The kinds without a text of their own want to be confirmed. -/
theorem readConfirmed_eq_ok_iff :
    (readSimple .null value entries place weight = .ok term ↔
      value = .scalar (.bool true) ∧ .null = term) ∧
    (readSimple .matchAll value entries place weight = .ok term ↔
      value = .scalar (.bool true) ∧ .matchAll = term) := by
  simp only [readSimple]
  split
  · simp
  · rename_i other
    simp only [reduceCtorEq, false_iff, not_and]
    exact ⟨fun same => (other same).elim, fun same => (other same).elim⟩

/-- A term without terms below it is read just as the grammar has it. -/
theorem readSimple_eq_ok_iff {kind : TermKind} :
    readSimple kind value entries place weight = .ok term ↔
      DenotesSimple Value.Written entries weight kind value term := by
  constructor
  · intro read
    cases built : kind.build? with
    | some build =>
        obtain ⟨text, written, boost, boosts, rfl⟩ := (readSimple_of_build? built).mp read
        exact .single built written boosts
    | none =>
        cases kind with
        | null =>
            obtain ⟨rfl, rfl⟩ := readConfirmed_eq_ok_iff.1.mp read
            exact .null
        | matchAll =>
            obtain ⟨rfl, rfl⟩ := readConfirmed_eq_ok_iff.2.mp read
            exact .matchAll
        | fuzzy =>
            obtain ⟨distance, stands, text, written, boost, boosts, rfl⟩ :=
              readFuzzy_eq_ok_iff.mp read
            exact .fuzzy written stands boosts
        | range =>
            obtain ⟨start, stop, rfl, _, startWritten, _, stopWritten, boost, boosts, rfl⟩ :=
              readRange_eq_ok_iff.mp read
            exact .range startWritten stopWritten boosts
        | proximity =>
            obtain ⟨parts, rfl, texts, written, boost, boosts, rfl⟩ :=
              readProximity_eq_ok_iff.mp read
            exact .proximity written boosts
        | array => cases read
        | string | phrase | phraseWildcard | wildcard | regex | unparsedArray => cases built
  · intro denotes
    cases denotes with
    | null => exact readConfirmed_eq_ok_iff.1.mpr ⟨rfl, rfl⟩
    | matchAll => exact readConfirmed_eq_ok_iff.2.mpr ⟨rfl, rfl⟩
    | single built written boosts =>
        exact (readSimple_of_build? built).mpr ⟨_, written, _, boosts, rfl⟩
    | fuzzy written stands boosts =>
        exact readFuzzy_eq_ok_iff.mpr ⟨_, stands, _, written, _, boosts, rfl⟩
    | range startWritten stopWritten boosts =>
        exact readRange_eq_ok_iff.mpr
          ⟨_, _, rfl, _, startWritten, _, stopWritten, _, boosts, rfl⟩
    | proximity written boosts =>
        exact readProximity_eq_ok_iff.mpr ⟨_, rfl, _, written, _, boosts, rfl⟩

end Simple

/-! ## Terms below terms -/

/-- A mapping is read as a term just if it names one kind. -/
theorem exists_names_of_readTerm
    {entries : Entries}
    {term : Term}
    (read : readTerm entries place = .ok term) :
    ∃ kind value, Names entries kind value := by
  rw [readTerm] at read
  split at read
  · rename_i single
    exact ⟨_, presentKinds_eq_singleton_iff.mp single⟩
  · rename_i kind _ single
    exact ⟨kind, presentKinds_eq_singleton_iff.mp single⟩
  · cases read

theorem readTerm_of_names
    {entries : Entries}
    {kind : TermKind}
    {value : Value}
    (names : Names entries kind value)
    (notArray : kind ≠ .array)
    {term : Term} :
    readTerm entries place = .ok term ↔
      ∃ weight, Weighs (entries.get? "boost") weight ∧
        DenotesSimple Value.Written entries weight kind value term := by
  have single := presentKinds_eq_singleton_iff.mpr ⟨value, names⟩
  cases kind with
  | array => exact absurd rfl notArray
  | null | matchAll | string | phrase | phraseWildcard | wildcard | fuzzy | range | regex
  | proximity | unparsedArray =>
      rw [readTerm]
      simp only [single, names.1, Option.getD_some, except_seq_eq_ok_iff, weight?_eq_ok_iff,
        readSimple_eq_ok_iff]

theorem readTerm_of_names_array
    {entries : Entries}
    {value : Value}
    (names : Names entries .array value)
    {term : Term} :
    readTerm entries place = .ok term ↔
      ∃ weight, Weighs (entries.get? "boost") weight ∧
        ∃ items, value = .list items ∧
          ∃ members, readMembers place (place.key "array") 0 items = .ok members ∧
            ∃ boost, Boosts weight boost ∧ .array members boost = term := by
  have single := presentKinds_eq_singleton_iff.mpr ⟨value, names⟩
  have found : entries.get? "array" = some value := names.1
  rw [readTerm]
  simp only [single]
  constructor
  · intro read
    split at read
    · cases read
    rename_i weight weighed
    refine ⟨weight, weight?_eq_ok_iff.mp weighed, ?_⟩
    split at read
    · rename_i items listed
      refine ⟨items, Option.some.inj (found.symm.trans listed), ?_⟩
      split at read
      · cases read
      · rename_i members membersRead
        simp only [except_map_eq_ok_iff, boost?_eq_ok_iff] at read
        exact ⟨members, membersRead, read⟩
    · cases read
    · cases read
  · rintro ⟨weight, weighs, items, rfl, members, membersRead, built⟩
    simp only [weight?_eq_ok_iff.mpr weighs]
    split
    · rename_i others listed
      obtain rfl : items = others := by simpa using found.symm.trans listed
      simpa only [membersRead, except_map_eq_ok_iff, boost?_eq_ok_iff] using built
    · rename_i endless
      cases found.symm.trans endless
    · rename_i other _
      exact absurd found (other items)

theorem readMembers_map_cons
    {term : KeyPath}
    {position : Nat}
    {entries : Entries}
    {rest : List Value}
    {members : List Term} :
    readMembers term place position (.map entries :: rest) = .ok members ↔
      ∃ member, readTerm entries (place.index position) = .ok member ∧
        ∃ others, readMembers term place (position + 1) rest = .ok others ∧
          member :: others = members := by
  rw [readMembers]
  simp only [except_seq_eq_ok_iff, except_pure_eq_ok_iff]

theorem readMembers_cons
    {item : Value}
    (notMap : ∀ entries, item ≠ .map entries)
    {term : KeyPath}
    {position : Nat}
    {rest : List Value}
    {members : List Term} :
    readMembers term place position (item :: rest) = .ok members ↔
      ∃ text, item.Written text ∧
        ∃ others, readMembers term place (position + 1) rest = .ok others ∧
          .string text none :: others = members := by
  by_cases endless : item = .again .map
  · subst endless
    simp [readMembers, Value.Written, Value.Plain, Value.IsScalar]
  · rw [readMembers]
    · simp only [except_seq_eq_ok_iff, scalarText_eq_ok_iff, except_pure_eq_ok_iff]
    · exact notMap
    · exact endless

/-- What a mapping that names a kind without terms below denotes. -/
theorem denotesTerm_of_names
    {shows : Value → Text → Prop}
    {entries : Entries}
    {kind : TermKind}
    {value : Value}
    (names : Names entries kind value)
    (notArray : kind ≠ .array)
    {term : Term} :
    DenotesTerm shows entries term ↔
      ∃ weight, Weighs (entries.get? "boost") weight ∧
        DenotesSimple shows entries weight kind value term := by
  constructor
  · rintro (⟨named, weighs, denotes⟩ | ⟨named, -⟩)
    · obtain ⟨rfl, rfl⟩ := names.unique named
      exact ⟨_, weighs, denotes⟩
    · exact absurd (names.unique named).1 notArray
  · rintro ⟨weight, weighs, denotes⟩
    exact .simple names weighs denotes

/-- What a mapping that names an array denotes. -/
theorem denotesTerm_of_names_array
    {shows : Value → Text → Prop}
    {entries : Entries}
    {value : Value}
    (names : Names entries .array value)
    {term : Term} :
    DenotesTerm shows entries term ↔
      ∃ weight, Weighs (entries.get? "boost") weight ∧
        ∃ items, value = .list items ∧
          ∃ members, DenotesMembers shows items members ∧
            ∃ boost, Boosts weight boost ∧ .array members boost = term := by
  constructor
  · rintro (⟨named, -, denotes⟩ | ⟨named, weighs, denotes, boosts⟩)
    · obtain ⟨rfl, rfl⟩ := names.unique named
      rcases denotes with _ | _ | ⟨⟨⟩⟩
    · obtain ⟨-, rfl⟩ := names.unique named
      exact ⟨_, weighs, _, rfl, _, denotes, _, boosts, rfl⟩
  · rintro ⟨weight, weighs, items, rfl, members, denotes, boost, boosts, rfl⟩
    exact .array names weighs denotes boosts

theorem DenotesTerm.exists_names
    {shows : Value → Text → Prop}
    {entries : Entries}
    {term : Term}
    (denotes : DenotesTerm shows entries term) :
    ∃ kind value, Names entries kind value := by
  rcases denotes with ⟨names, -⟩ | ⟨names, -⟩
  · exact ⟨_, _, names⟩
  · exact ⟨_, _, names⟩

theorem denotesMembers_map_cons
    {entries : Entries}
    {rest : List Value}
    {members : List Term} :
    DenotesMembers Value.Written (.map entries :: rest) members ↔
      ∃ member, DenotesTerm Value.Written entries member ∧
        ∃ others, DenotesMembers Value.Written rest others ∧ member :: others = members := by
  constructor
  · rintro (_ | ⟨denotes, restDenotes⟩ | ⟨⟨⟨isScalar, -⟩, -⟩, -⟩)
    · exact ⟨_, denotes, _, restDenotes, rfl⟩
    · exact isScalar.elim
  · rintro ⟨member, denotes, others, restDenotes, rfl⟩
    exact .term denotes restDenotes

theorem denotesMembers_cons
    {item : Value}
    (notMap : ∀ entries, item ≠ .map entries)
    {rest : List Value}
    {members : List Term} :
    DenotesMembers Value.Written (item :: rest) members ↔
      ∃ text, item.Written text ∧
        ∃ others, DenotesMembers Value.Written rest others ∧
          .string text none :: others = members := by
  constructor
  · rintro (_ | _ | ⟨written, restDenotes⟩)
    · exact absurd rfl (notMap _)
    · exact ⟨_, written, _, restDenotes, rfl⟩
  · rintro ⟨text, written, others, restDenotes, rfl⟩
    exact .text written restDenotes

mutual

/-- A mapping is read as the term that it denotes. -/
theorem readTerm_eq_ok_iff (entries : Entries) (place : KeyPath) (term : Term) :
    readTerm entries place = .ok term ↔ DenotesTerm Value.Written entries term := by
  by_cases named : ∃ kind value, Names entries kind value
  · obtain ⟨kind, value, names⟩ := named
    by_cases isArray : kind = .array
    · subst isArray
      rw [readTerm_of_names_array names, denotesTerm_of_names_array names]
      -- The items are smaller than the mapping only because they were found in it.
      refine exists_congr fun weight => and_congr_right fun _ => exists_congr fun items =>
        and_congr_right fun listed => ?_
      simp only [readMembers_eq_ok_iff items]
    · rw [readTerm_of_names names isArray, denotesTerm_of_names names isArray]
  · exact ⟨fun read => absurd (exists_names_of_readTerm read) named,
      fun denotes => absurd denotes.exists_names named⟩
termination_by sizeOf entries
decreasing_by
  have smaller := Entries.sizeOf_lt_of_get? names.1
  simp only [listed, Value.list.sizeOf_spec] at smaller
  omega

theorem readMembers_eq_ok_iff
    (items : List Value)
    (term place : KeyPath)
    (position : Nat)
    (members : List Term) :
    readMembers term place position items = .ok members ↔
      DenotesMembers Value.Written items members := by
  match items with
  | [] =>
      rw [readMembers]
      constructor
      · rintro ⟨⟩
        exact .nil
      · rintro ⟨⟩
        rfl
  | item :: rest =>
      by_cases mapped : ∃ entries, item = .map entries
      · obtain ⟨entries, rfl⟩ := mapped
        rw [readMembers_map_cons, denotesMembers_map_cons]
        simp only [readTerm_eq_ok_iff entries, readMembers_eq_ok_iff rest]
      · have notMap := not_exists.mp mapped
        rw [readMembers_cons notMap, denotesMembers_cons notMap]
        simp only [readMembers_eq_ok_iff rest]
termination_by sizeOf items

end

end LinkedQuery.Document
