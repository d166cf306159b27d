import LinkedQuery.Proofs.Document.Reading

/-!
Contract: documents on which the reader gives up without naming a place.

Owns:
- the place that a fault of a document names;
- the documents that lead the reader, past parts that it reads, to a weight which has no
  finite binary64, or to data without end;
- the terms whose reading fails without a place: just those of such documents.

Does not own: which of several faults at places is found first.
-/

namespace LinkedQuery.Document

/-- The place that a fault names.  A number that is too large and data without end are
failures of the reader itself, and name none. -/
def Fault.place? : Fault → Option KeyPath
  | .notSingleKey place => some place
  | .keyNotText place => some place
  | .notNonEmptyList place => some place
  | .unknownNode place _ => some place
  | .notLinked place => some place
  | .notText place => some place
  | .badLink place _ => some place
  | .missing place => some place
  | .notObject place => some place
  | .blankField place => some place
  | .notOneTerm place => some place
  | .notNumber place => some place
  | .numberTooLarge => none
  | .notTrue place => some place
  | .notInteger place => some place
  | .notRange place => some place
  | .notList place => some place
  | .notScalar place => some place
  | .badTerm place _ => some place
  | .overlong place => some place
  | .endless => none

/-! ## Documents on which the reader gives up -/

/-- The shape of a node's body; the body of a negation is a document of its own. -/
def NodeKind.shape? : NodeKind → Option Shape
  | .andAll => some .list
  | .orAny => some .list
  | .withAll => some .list
  | .negation => none
  | .linked => some .map
  | .comparison _ => some .map

mutual

/-- A mapping that names one kind of terms, and has a weight that is an integer without a
finite binary64; or an array that has no end, or that holds such a mapping behind members
which are read. -/
inductive EscapesTerm : Entries → Fault → Prop
  | weight {entries : Entries} {kind : TermKind} {value : Value} {number : Int} :
      Names entries kind value →
      entries.get? "boost" = some (.scalar (.int number)) →
      (Double.ofInt number).isFinite = false →
      EscapesTerm entries .numberTooLarge
  | endless {entries : Entries} {weight : Option Double} :
      Names entries .array (.again .list) →
      Weighs (entries.get? "boost") weight →
      EscapesTerm entries .endless
  | member {entries : Entries} {items : List Value} {weight : Option Double} {fault : Fault} :
      Names entries .array (.list items) →
      Weighs (entries.get? "boost") weight →
      EscapesMembers items fault →
      EscapesTerm entries fault

inductive EscapesMembers : List Value → Fault → Prop
  | here {entries : Entries} {rest : List Value} {fault : Fault} :
      EscapesTerm entries fault →
      EscapesMembers (.map entries :: rest) fault
  | endless {rest : List Value} : EscapesMembers (.again .map :: rest) .endless
  | afterTerm {entries : Entries} {rest : List Value} {member : Term} {fault : Fault} :
      DenotesTerm Value.Written entries member →
      EscapesMembers rest fault →
      EscapesMembers (.map entries :: rest) fault
  | afterText {item : Value} {rest : List Value} {text : Text} {fault : Fault} :
      item.Written text →
      EscapesMembers rest fault →
      EscapesMembers (item :: rest) fault

end

mutual

/-- A document that leads the reader to a mapping on which it gives up: everything before,
parents and earlier items alike, is as the grammar has it. -/
inductive Escapes : Value → Fault → Prop
  | endless : Escapes (.again .map) .endless
  | node {kind : NodeKind} {body : Value} {fault : Fault} :
      EscapesNode kind body fault →
      Escapes (.map [(.text kind.key, body)]) fault

inductive EscapesNode : NodeKind → Value → Fault → Prop
  | endless {kind : NodeKind} {shape : Shape} :
      kind.shape? = some shape →
      EscapesNode kind (.again shape) .endless
  | group
      {kind : NodeKind}
      {build : List Expr → Expr}
      {items : List Value}
      {fault : Fault} :
      kind.build? = some build →
      EscapesItems items fault →
      EscapesNode kind (.list items) fault
  | negation {body : Value} {fault : Fault} :
      Escapes body fault →
      EscapesNode .negation body fault
  | linked
      {entries : Entries}
      {declaration : Text}
      {link : Link}
      {query : Value}
      {fault : Fault} :
      entries.get? "link" = some (.scalar (.text declaration)) →
      Link.parse declaration = .ok link →
      entries.get? "query" = some query →
      Escapes query fault →
      EscapesNode .linked (.map entries) fault
  | comparison {operator : Operator} {entries : Entries} {name : Text} {fault : Fault} :
      entries.get? "field" = some (.scalar (.text name)) →
      Text.isAllBlank name = false →
      EscapesTerm entries fault →
      EscapesNode (.comparison operator) (.map entries) fault

inductive EscapesItems : List Value → Fault → Prop
  | here {item : Value} {rest : List Value} {fault : Fault} :
      Escapes item fault →
      EscapesItems (item :: rest) fault
  | later {item : Value} {rest : List Value} {expr : Expr} {fault : Fault} :
      Denotes Value.Written item expr →
      EscapesItems rest fault →
      EscapesItems (item :: rest) fault

end

/-! ## Failures without a place -/

/-- A reading failed with a fault that names no place. -/
def Escaped {α : Type} (outcome : Except Fault α) (fault : Fault) : Prop :=
  outcome = .error fault ∧ fault.place? = none

section Escaped

variable {α β : Type} {fault : Fault}

@[simp] theorem not_escaped_ok (value : α) : ¬ Escaped (.ok value) fault := by
  intro escaped
  cases escaped.1

theorem escaped_error_iff {other : Fault} :
    Escaped (.error other : Except Fault α) fault ↔ other = fault ∧ other.place? = none := by
  unfold Escaped
  constructor
  · intro escaped
    obtain rfl := Except.error.inj escaped.1
    exact ⟨rfl, escaped.2⟩
  · intro same
    exact ⟨congrArg Except.error same.1, same.1 ▸ same.2⟩

theorem escaped_map_iff {outcome : Except Fault α} {restate : α → β} :
    Escaped (outcome.map restate) fault ↔ Escaped outcome fault := by
  unfold Escaped
  rw [except_map_eq_error_iff]

theorem escaped_bind_iff {outcome : Except Fault α} {next : α → Except Fault β} :
    Escaped (outcome >>= next) fault ↔
      Escaped outcome fault ∨ ∃ value, outcome = .ok value ∧ Escaped (next value) fault := by
  cases outcome with
  | error other => simp [Escaped, bind, Except.bind]
  | ok value => simp [Escaped, bind, Except.bind]

/-- All failures of a reading name a place. -/
def Placed (outcome : Except Fault α) : Prop :=
  ∀ fault, ¬ Escaped outcome fault

theorem placed_ok (value : α) : Placed (.ok value) :=
  fun _ => not_escaped_ok value

theorem placed_error {place : KeyPath} (named : fault.place? = some place) :
    Placed (.error fault : Except Fault α) := by
  intro other escaped
  have unnamed := (escaped_error_iff.mp escaped).2
  rw [named] at unnamed
  cases unnamed

theorem Placed.map {outcome : Except Fault α} (placed : Placed outcome) (restate : α → β) :
    Placed (outcome.map restate) := by
  intro fault escaped
  exact placed fault (escaped_map_iff.mp escaped)

theorem Placed.bind
    {outcome : Except Fault α}
    {next : α → Except Fault β}
    (placed : Placed outcome)
    (nextPlaced : ∀ value, Placed (next value)) :
    Placed (outcome >>= next) := by
  intro fault escaped
  rcases escaped_bind_iff.mp escaped with first | ⟨value, -, second⟩
  · exact placed fault first
  · exact nextPlaced value fault second

end Escaped

/-! ## Scalars, weights and simple terms -/

section Simple

variable {place : KeyPath} {fault : Fault}

theorem placed_scalarText (term place : KeyPath) (value : Value) :
    Placed (scalarText term place value) := by
  unfold scalarText
  split
  · exact placed_error rfl
  · exact placed_error rfl
  · exact placed_error rfl
  · exact placed_error rfl
  · exact placed_error rfl
  · split
    · exact placed_error rfl
    · exact placed_ok _

theorem placed_scalarTexts (term place : KeyPath) (position : Nat) (values : List Value) :
    Placed (scalarTexts term place position values) := by
  induction values generalizing position with
  | nil => exact placed_ok []
  | cons value rest inductionHypothesis =>
      unfold scalarTexts
      apply (placed_scalarText term (place.index position) value).bind
      intro text
      apply (inductionHypothesis (position + 1)).bind
      intro texts
      exact placed_ok _

theorem placed_boost? (place : KeyPath) (weight : Option Double) : Placed (boost? place weight) := by
  unfold boost?
  split
  · exact placed_ok none
  · split
    · exact placed_ok _
    · exact placed_error rfl

theorem escaped_weight?_iff {value : Option Value} :
    Escaped (weight? place value) fault ↔
      ∃ number, value = some (.scalar (.int number)) ∧
        (Double.ofInt number).isFinite = false ∧ .numberTooLarge = fault := by
  constructor
  · intro escaped
    unfold weight? at escaped
    split at escaped
    · exact absurd escaped (not_escaped_ok none)
    · exact absurd escaped (not_escaped_ok none)
    · rename_i number
      split at escaped
      · exact absurd escaped (not_escaped_ok _)
      · rename_i infinite
        exact ⟨number, rfl, Bool.eq_false_iff.mpr infinite, (escaped_error_iff.mp escaped).1⟩
    · split at escaped
      · exact absurd escaped (not_escaped_ok _)
      · exact absurd escaped (placed_error rfl fault)
    · exact absurd escaped (placed_error rfl fault)
  · intro stands
    obtain ⟨number, rfl, infinite, rfl⟩ := stands
    simp only [weight?, infinite, Bool.false_eq_true, if_false]
    exact ⟨rfl, rfl⟩

/-- Whatever is wrong with a term that has no terms below it is at a place. -/
theorem placed_readSimple
    (kind : TermKind)
    (value : Value)
    (entries : Entries)
    (place : KeyPath)
    (weight : Option Double) :
    Placed (readSimple kind value entries place weight) := by
  have boosted :
      ∀ build : Option Boost → Term,
        Placed (boost? place weight >>= fun boost => pure (build boost)) := by
    intro build
    exact (placed_boost? place weight).bind fun boost => placed_ok (build boost)
  have single :
      ∀ build : Text → Option Boost → Term,
        Placed
          (scalarText place (place.key kind.key) value >>= fun text =>
            boost? place weight >>= fun boost => pure (build text boost)) := by
    intro build
    exact (placed_scalarText place _ value).bind fun text => boosted (build text)
  cases kind with
  | string | phrase | phraseWildcard | wildcard | regex | unparsedArray => exact single _
  | null | matchAll =>
      simp only [readSimple]
      split
      · exact placed_ok _
      · exact placed_error rfl
  | fuzzy =>
      simp only [readSimple]
      split
      · rename_i distance _
        apply (placed_scalarText place _ value).bind
        intro text
        apply (placed_boost? place weight).bind
        intro boost
        cases distance with
        | ofNat distance => exact placed_ok _
        | negSucc distance => exact placed_error rfl
      · exact placed_error rfl
  | range =>
      simp only [readSimple]
      split
      · rename_i start stop
        apply (placed_scalarText place _ start).bind
        intro startText
        apply (placed_scalarText place _ stop).bind
        intro stopText
        exact boosted _
      · exact placed_error rfl
  | proximity =>
      simp only [readSimple]
      split
      · rename_i parts
        apply (placed_scalarTexts place _ 0 parts).bind
        intro texts
        exact boosted _
      · exact placed_error rfl
  | array => exact placed_error rfl

end Simple

/-! ## Terms -/

section Terms

variable {place : KeyPath} {fault : Fault} {entries : Entries} {value : Value}

/-- A mapping that names no kind of terms is at fault at its place. -/
theorem exists_names_of_escaped
    (escaped : Escaped (readTerm entries place) fault) :
    ∃ kind value, Names entries kind value := by
  rw [readTerm] at escaped
  split at escaped
  · rename_i single
    exact ⟨_, presentKinds_eq_singleton_iff.mp single⟩
  · rename_i kind _ single
    exact ⟨kind, presentKinds_eq_singleton_iff.mp single⟩
  · exact absurd escaped (placed_error rfl fault)

theorem escaped_readTerm_of_names
    {kind : TermKind}
    (names : Names entries kind value)
    (notArray : kind ≠ .array) :
    Escaped (readTerm entries place) fault ↔
      Escaped (weight? (place.key "boost") (entries.get? "boost")) fault := by
  have single := presentKinds_eq_singleton_iff.mpr ⟨value, names⟩
  have simple : readTerm entries place =
      weight? (place.key "boost") (entries.get? "boost") >>= fun weight =>
        readSimple kind value entries place weight := by
    rw [readTerm]
    cases kind with
    | array => exact absurd rfl notArray
    | null | matchAll | string | phrase | phraseWildcard | wildcard | fuzzy | range | regex
    | proximity | unparsedArray => simp only [single, names.1, Option.getD_some]
  rw [simple, escaped_bind_iff]
  constructor
  · intro escaped
    rcases escaped with atWeight | ⟨weight, -, atTerm⟩
    · exact atWeight
    · exact absurd atTerm (placed_readSimple kind value entries place weight fault)
  · exact Or.inl

theorem escaped_readTerm_of_names_array (names : Names entries .array value) :
    Escaped (readTerm entries place) fault ↔
      Escaped (weight? (place.key "boost") (entries.get? "boost")) fault ∨
      ∃ weight, Weighs (entries.get? "boost") weight ∧
        (value = .again .list ∧ .endless = fault ∨
          ∃ items, value = .list items ∧
            Escaped (readMembers place (place.key "array") 0 items) fault) := by
  have single := presentKinds_eq_singleton_iff.mpr ⟨value, names⟩
  have found : entries.get? "array" = some value := names.1
  rw [readTerm]
  simp only [single]
  cases weighed : weight? (place.key "boost") (entries.get? "boost") with
  | error other =>
      have unweighed : ∀ weight, ¬ Weighs (entries.get? "boost") weight := by
        intro weight weighs
        rw [weight?_eq_ok_iff.mpr weighs] at weighed
        cases weighed
      simp [unweighed, Escaped]
  | ok weight =>
      have weighs := weight?_eq_ok_iff.mp weighed
      simp only [not_escaped_ok, false_or]
      constructor
      · intro escaped
        refine ⟨weight, weighs, ?_⟩
        split at escaped
        · rename_i items listed
          have isList := Option.some.inj (found.symm.trans listed)
          refine Or.inr ⟨items, isList, ?_⟩
          split at escaped
          · rename_i other failed
            rw [failed]
            exact escaped_error_iff.mpr (escaped_error_iff.mp escaped)
          · exact absurd escaped ((placed_boost? place weight).map _ fault)
        · rename_i endless
          have isAgain := Option.some.inj (found.symm.trans endless)
          exact Or.inl ⟨isAgain, (escaped_error_iff.mp escaped).1⟩
        · exact absurd escaped (placed_error rfl fault)
      · intro ends
        obtain ⟨-, -, ⟨rfl, rfl⟩ | ⟨items, rfl, atMembers⟩⟩ := ends
        · split
          · rename_i listed
            cases found.symm.trans listed
          · exact ⟨rfl, rfl⟩
          · rename_i other
            exact absurd found other
        · split
          · rename_i others listed
            obtain rfl : items = others := by simpa using found.symm.trans listed
            rw [atMembers.1]
            exact ⟨rfl, atMembers.2⟩
          · rename_i endless
            cases found.symm.trans endless
          · rename_i other _
            exact absurd found (other items)

theorem escapesTerm_of_names
    {kind : TermKind}
    (names : Names entries kind value)
    (notArray : kind ≠ .array) :
    EscapesTerm entries fault ↔
      ∃ number, entries.get? "boost" = some (.scalar (.int number)) ∧
        (Double.ofInt number).isFinite = false ∧ .numberTooLarge = fault := by
  constructor
  · intro escapes
    cases escapes with
    | weight _ stands infinite => exact ⟨_, stands, infinite, rfl⟩
    | endless named => exact absurd (names.unique named).1 notArray
    | member named => exact absurd (names.unique named).1 notArray
  · intro stands
    obtain ⟨number, stands, infinite, rfl⟩ := stands
    exact .weight names stands infinite

theorem escapesTerm_of_names_array (names : Names entries .array value) :
    EscapesTerm entries fault ↔
      (∃ number, entries.get? "boost" = some (.scalar (.int number)) ∧
        (Double.ofInt number).isFinite = false ∧ .numberTooLarge = fault) ∨
      ∃ weight, Weighs (entries.get? "boost") weight ∧
        (value = .again .list ∧ .endless = fault ∨
          ∃ items, value = .list items ∧ EscapesMembers items fault) := by
  constructor
  · intro escapes
    cases escapes with
    | weight _ stands infinite => exact Or.inl ⟨_, stands, infinite, rfl⟩
    | endless named weighs =>
        exact Or.inr ⟨_, weighs, Or.inl ⟨(names.unique named).2, rfl⟩⟩
    | member named weighs escapes =>
        exact Or.inr ⟨_, weighs, Or.inr ⟨_, (names.unique named).2, escapes⟩⟩
  · intro ends
    obtain ⟨number, stands, infinite, rfl⟩ | ⟨weight, weighs, ends⟩ := ends
    · exact .weight names stands infinite
    · obtain ⟨rfl, rfl⟩ | ⟨items, rfl, escapes⟩ := ends
      · exact .endless names weighs
      · exact .member names weighs escapes

theorem EscapesTerm.exists_names (escapes : EscapesTerm entries fault) :
    ∃ kind value, Names entries kind value := by
  cases escapes with
  | weight names => exact ⟨_, _, names⟩
  | endless names => exact ⟨_, _, names⟩
  | member names => exact ⟨_, _, names⟩

section Members

variable {term : KeyPath} {position : Nat} {rest : List Value}

theorem escaped_readMembers_map_cons :
    Escaped (readMembers term place position (.map entries :: rest)) fault ↔
      Escaped (readTerm entries (place.index position)) fault ∨
      ∃ member, DenotesTerm Value.Written entries member ∧
        Escaped (readMembers term place (position + 1) rest) fault := by
  rw [readMembers]
  simp only [escaped_bind_iff, readTerm_eq_ok_iff]
  apply or_congr_right
  refine exists_congr fun member => and_congr_right fun _ => ?_
  constructor
  · intro escaped
    rcases escaped with atRest | ⟨members, -, atEnd⟩
    · exact atRest
    · exact absurd atEnd (not_escaped_ok _)
  · exact Or.inl

theorem escaped_readMembers_cons
    {item : Value}
    (notMap : ∀ entries, item ≠ .map entries)
    (notEndless : item ≠ .again .map) :
    Escaped (readMembers term place position (item :: rest)) fault ↔
      ∃ text, item.Written text ∧
        Escaped (readMembers term place (position + 1) rest) fault := by
  rw [readMembers]
  · simp only [escaped_bind_iff, scalarText_eq_ok_iff]
    constructor
    · intro escaped
      rcases escaped with atItem | ⟨text, written, atRest | ⟨members, -, atEnd⟩⟩
      · exact absurd atItem (placed_scalarText _ _ item fault)
      · exact ⟨text, written, atRest⟩
      · exact absurd atEnd (not_escaped_ok _)
    · intro later
      obtain ⟨text, written, atRest⟩ := later
      exact Or.inr ⟨text, written, Or.inl atRest⟩
  · exact notMap
  · exact notEndless

theorem escaped_readMembers_again_cons :
    Escaped (readMembers term place position (.again .map :: rest)) fault ↔
      .endless = fault := by
  rw [readMembers, escaped_error_iff]
  exact and_iff_left rfl

theorem escapesMembers_map_cons :
    EscapesMembers (.map entries :: rest) fault ↔
      EscapesTerm entries fault ∨
      ∃ member, DenotesTerm Value.Written entries member ∧ EscapesMembers rest fault := by
  constructor
  · intro escapes
    cases escapes with
    | here escapes => exact Or.inl escapes
    | afterTerm denotes escapes => exact Or.inr ⟨_, denotes, escapes⟩
    | afterText written => exact written.1.1.elim
  · intro escapes
    obtain escapes | ⟨member, denotes, escapes⟩ := escapes
    · exact .here escapes
    · exact .afterTerm denotes escapes

theorem escapesMembers_cons
    {item : Value}
    (notMap : ∀ entries, item ≠ .map entries)
    (notEndless : item ≠ .again .map) :
    EscapesMembers (item :: rest) fault ↔
      ∃ text, item.Written text ∧ EscapesMembers rest fault := by
  constructor
  · intro escapes
    cases escapes with
    | here => exact absurd rfl (notMap _)
    | endless => exact absurd rfl notEndless
    | afterTerm => exact absurd rfl (notMap _)
    | afterText written escapes => exact ⟨_, written, escapes⟩
  · intro later
    obtain ⟨text, written, escapes⟩ := later
    exact .afterText written escapes

theorem escapesMembers_again_cons :
    EscapesMembers (.again .map :: rest) fault ↔ .endless = fault := by
  constructor
  · intro escapes
    cases escapes with
    | endless => rfl
    | afterText written => exact written.1.1.elim
  · intro same
    exact same ▸ .endless

end Members

end Terms

mutual

theorem escaped_readTerm_iff (entries : Entries) (place : KeyPath) (fault : Fault) :
    Escaped (readTerm entries place) fault ↔ EscapesTerm entries fault := by
  by_cases named : ∃ kind value, Names entries kind value
  · obtain ⟨kind, value, names⟩ := named
    by_cases isArray : kind = .array
    · subst isArray
      rw [escaped_readTerm_of_names_array names, escapesTerm_of_names_array names,
        escaped_weight?_iff]
      refine or_congr_right (exists_congr fun weight => and_congr_right fun _ =>
        or_congr_right (exists_congr fun items => and_congr_right fun listed => ?_))
      exact escaped_readMembers_iff items place (place.key "array") 0 fault
    · rw [escaped_readTerm_of_names names isArray, escapesTerm_of_names names isArray,
        escaped_weight?_iff]
  · constructor
    · intro escaped
      exact absurd (exists_names_of_escaped escaped) named
    · intro escapes
      exact absurd escapes.exists_names named
termination_by sizeOf entries
decreasing_by
  have smaller := Entries.sizeOf_lt_of_get? names.1
  simp only [listed, Value.list.sizeOf_spec] at smaller
  omega

theorem escaped_readMembers_iff
    (items : List Value)
    (term place : KeyPath)
    (position : Nat)
    (fault : Fault) :
    Escaped (readMembers term place position items) fault ↔ EscapesMembers items fault := by
  match items with
  | [] =>
      rw [readMembers]
      constructor
      · intro escaped
        exact absurd escaped (not_escaped_ok [])
      · intro escapes
        cases escapes
  | item :: rest =>
      by_cases mapped : ∃ entries, item = .map entries
      · obtain ⟨entries, rfl⟩ := mapped
        rw [escaped_readMembers_map_cons, escapesMembers_map_cons,
          escaped_readTerm_iff entries, escaped_readMembers_iff rest]
      · by_cases endless : item = .again .map
        · subst endless
          rw [escaped_readMembers_again_cons, escapesMembers_again_cons]
        · have notMap := not_exists.mp mapped
          rw [escaped_readMembers_cons notMap endless, escapesMembers_cons notMap endless,
            escaped_readMembers_iff rest]
termination_by sizeOf items

end

end LinkedQuery.Document
