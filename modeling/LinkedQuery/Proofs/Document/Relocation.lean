import LinkedQuery.Proofs.Document.Reporting

/-!
Contract: a document can be read from anywhere.

Owns:
- moves of places that keep every step taken after them, such as the move below another
  place;
- the faults at moved places, and what their wording keeps;
- each reader of documents: at a moved place it gives what it gave, its fault moved.

Does not own: which part of a document is at fault.
-/

namespace LinkedQuery

/-! ## Places -/

namespace KeyPath

/-- The steps of one place, taken from another. -/
def append (base path : KeyPath) : KeyPath :=
  ⟨base.start, base.steps ++ path.steps⟩

/-- A move of places under which a step leads where it led before. -/
def KeepsSteps (move : KeyPath → KeyPath) : Prop :=
  ∀ path next, move (path.step next) = (move path).step next

theorem keepsSteps_append (base : KeyPath) : KeepsSteps base.append := by
  intro path next
  simp only [append, step, List.append_assoc]

section KeepsSteps

variable {move : KeyPath → KeyPath} (keeps : KeepsSteps move)
include keeps

theorem KeepsSteps.key (path : KeyPath) (name : Text) :
    (move path).key name = move (path.key name) :=
  (keeps path (.key name)).symm

theorem KeepsSteps.index (path : KeyPath) (position : Nat) :
    (move path).index position = move (path.index position) :=
  (keeps path (.index position)).symm

end KeepsSteps

@[simp] theorem append_ofStart (base : KeyPath) (start : Text) :
    base.append (.ofStart start) = base := by
  simp only [append, ofStart, List.append_nil]

/-- Below a place, the path that starts with the text of that place has the text that it
had. -/
theorem text_append {base path : KeyPath} (starts : path.start = base.text) :
    (base.append path).text = path.text := by
  simp only [text, append, List.foldl_append]
  rw [starts, text]

theorem toList_start_prefix_text (path : KeyPath) :
    path.start.toList <+: path.text.toList := by
  obtain ⟨start, steps⟩ := path
  induction steps generalizing start with
  | nil => exact List.prefix_rfl
  | cons next rest inductionHypothesis =>
      have first : start.toList <+: (start ++ next.text).toList := List.prefix_append _ _
      exact first.trans (inductionHypothesis (start ++ next.text))

/-- The text of a place begins with that of every place on the way to it. -/
theorem toList_text_prefix_append (base path : KeyPath) :
    base.text.toList <+: (base.append path).text.toList := by
  have moved : (base.append path).text = KeyPath.text ⟨base.text, path.steps⟩ := by
    simp only [text, append, List.foldl_append]
  rw [moved]
  exact toList_start_prefix_text ⟨base.text, path.steps⟩

end KeyPath

namespace Document

/-! ## Faults -/

/-- The same fault at another place. -/
def Fault.mapPlace (move : KeyPath → KeyPath) : Fault → Fault
  | .notSingleKey place => .notSingleKey (move place)
  | .keyNotText place => .keyNotText (move place)
  | .notNonEmptyList place => .notNonEmptyList (move place)
  | .unknownNode place kind => .unknownNode (move place) kind
  | .notLinked place => .notLinked (move place)
  | .notText place => .notText (move place)
  | .badLink place fault => .badLink (move place) fault
  | .missing place => .missing (move place)
  | .notObject place => .notObject (move place)
  | .blankField place => .blankField (move place)
  | .notOneTerm place => .notOneTerm (move place)
  | .notNumber place => .notNumber (move place)
  | .numberTooLarge => .numberTooLarge
  | .notTrue place => .notTrue (move place)
  | .notInteger place => .notInteger (move place)
  | .notRange place => .notRange (move place)
  | .notList place => .notList (move place)
  | .notScalar place => .notScalar (move place)
  | .badTerm place fault => .badTerm (move place) fault
  | .overlong place => .overlong (move place)
  | .endless => .endless

theorem Fault.place?_mapPlace (move : KeyPath → KeyPath) (fault : Fault) :
    (fault.mapPlace move).place? = fault.place?.map move := by
  cases fault <;> rfl

/-- The wording of a fault has nothing of its place but the text. -/
theorem Fault.message_mapPlace
    {move : KeyPath → KeyPath}
    {fault : Fault}
    (same : ∀ place, fault.place? = some place → (move place).text = place.text) :
    (fault.mapPlace move).message = fault.message := by
  cases fault with
  | numberTooLarge | endless => rfl
  | notSingleKey place | keyNotText place | notNonEmptyList place | unknownNode place
  | notLinked place | notText place | badLink place | missing place | notObject place
  | blankField place | notOneTerm place | notNumber place | notTrue place | notInteger place
  | notRange place | notList place | notScalar place | badTerm place | overlong place =>
      simp only [mapPlace, message, same place rfl]

/-- A fault that names a place shows its text. -/
theorem Fault.text_infix_message
    {fault : Fault}
    {place : KeyPath}
    (named : fault.place? = some place) :
    place.text.toList <:+: fault.message.toList := by
  have leads (words : Text) : place.text.toList <:+: (place.text ++ words).toList :=
    (List.prefix_append _ _).isInfix
  have leadsTwo (words more : Text) :
      place.text.toList <:+: (place.text ++ words ++ more).toList :=
    (leads words).trans (List.prefix_append _ _).isInfix
  cases fault with
  | numberTooLarge | endless => cases named
  | missing =>
      cases named
      exact (List.suffix_append _ _).isInfix
  | unknownNode | badLink | notOneTerm | badTerm | overlong =>
      cases named
      exact leadsTwo _ _
  | notSingleKey | keyNotText | notNonEmptyList | notLinked | notText | notObject | blankField
  | notNumber | notTrue | notInteger | notRange | notList | notScalar =>
      cases named
      exact leads _

/-! ## Moved readings -/

/-- A reading at a moved place: it gives the same, or fails with the moved fault. -/
def Moved {α : Type} (move : KeyPath → KeyPath) (outcome moved : Except Fault α) : Prop :=
  moved = outcome.mapError (Fault.mapPlace move)

section Moved

variable {α β : Type} {move : KeyPath → KeyPath}

theorem Moved.ok (value : α) : Moved move (.ok value) (.ok value) :=
  rfl

theorem Moved.error (fault : Fault) :
    Moved move (.error fault : Except Fault α) (.error (fault.mapPlace move)) :=
  rfl

theorem Moved.map
    {outcome moved : Except Fault α}
    (first : Moved move outcome moved)
    (restate : α → β) :
    Moved move (outcome.map restate) (moved.map restate) := by
  rw [Moved, first]
  cases outcome <;> rfl

theorem Moved.bind
    {outcome moved : Except Fault α}
    {next movedNext : α → Except Fault β}
    (first : Moved move outcome moved)
    (second : ∀ value, Moved move (next value) (movedNext value)) :
    Moved move (outcome >>= next) (moved >>= movedNext) := by
  rw [Moved, first]
  cases outcome with
  | error fault => rfl
  | ok value => exact second value

/-- A reading and the moved one end in the same way. -/
theorem Moved.ends {outcome moved : Except Fault α} (first : Moved move outcome moved) :
    (∃ fault, outcome = .error fault ∧ moved = .error (fault.mapPlace move)) ∨
      ∃ value, outcome = .ok value ∧ moved = .ok value := by
  cases outcome with
  | error fault => exact Or.inl ⟨fault, rfl, first⟩
  | ok value => exact Or.inr ⟨value, rfl, first⟩

end Moved

/-! ## Terms -/

section Simple

variable (move : KeyPath → KeyPath)

theorem moved_scalarText (term place : KeyPath) (value : Value) :
    Moved move (scalarText term place value) (scalarText (move term) (move place) value) := by
  unfold scalarText
  split
  · exact .error _
  · exact .error _
  · exact .error _
  · exact .error _
  · exact .error _
  · split
    · exact .error _
    · exact .ok _

theorem moved_weight? (place : KeyPath) (value : Option Value) :
    Moved move (weight? place value) (weight? (move place) value) := by
  unfold weight?
  split
  · exact .ok _
  · exact .ok _
  · split
    · exact .ok _
    · exact .error _
  · split
    · exact .ok _
    · exact .error _
  · exact .error _

theorem moved_boost? (place : KeyPath) (weight : Option Double) :
    Moved move (boost? place weight) (boost? (move place) weight) := by
  unfold boost?
  split
  · exact .ok _
  · split
    · exact .ok _
    · exact .error _

end Simple

section Readers

variable {move : KeyPath → KeyPath} (keeps : KeyPath.KeepsSteps move)
include keeps

theorem moved_scalarTexts (term place : KeyPath) (position : Nat) (values : List Value) :
    Moved move
      (scalarTexts term place position values)
      (scalarTexts (move term) (move place) position values) := by
  induction values generalizing position with
  | nil => exact .ok []
  | cons value rest inductionHypothesis =>
      simp only [scalarTexts, keeps.index]
      apply (moved_scalarText move term _ value).bind
      intro text
      apply (inductionHypothesis (position + 1)).bind
      intro texts
      exact .ok _

theorem moved_readSimple
    (kind : TermKind)
    (value : Value)
    (entries : Entries)
    (place : KeyPath)
    (weight : Option Double) :
    Moved move
      (readSimple kind value entries place weight)
      (readSimple kind value entries (move place) weight) := by
  have boosted (build : Option Boost → Term) :
      Moved move
        (boost? place weight >>= fun boost => pure (build boost))
        (boost? (move place) weight >>= fun boost => pure (build boost)) :=
    (moved_boost? move place weight).bind fun boost => .ok (build boost)
  cases kind with
  | string | phrase | phraseWildcard | wildcard | regex | unparsedArray =>
      simp only [readSimple, keeps.key]
      exact (moved_scalarText move place _ value).bind fun text => boosted _
  | null | matchAll =>
      simp only [readSimple, keeps.key]
      split
      · exact .ok _
      · exact .error _
  | fuzzy =>
      simp only [readSimple, keeps.key]
      split
      · apply (moved_scalarText move place _ value).bind
        intro text
        apply (moved_boost? move place weight).bind
        intro boost
        split
        · exact .ok _
        · exact .error _
      · exact .error _
  | range =>
      simp only [readSimple, keeps.key, keeps.index]
      split
      · rename_i start stop
        apply (moved_scalarText move place _ start).bind
        intro startText
        apply (moved_scalarText move place _ stop).bind
        intro stopText
        exact boosted _
      · exact .error _
  | proximity =>
      simp only [readSimple, keeps.key]
      split
      · rename_i parts
        apply (moved_scalarTexts keeps place _ 0 parts).bind
        intro texts
        exact boosted _
      · exact .error _
  | array =>
      simp only [readSimple, keeps.key]
      exact .error _

mutual

theorem moved_readTerm (entries : Entries) (place : KeyPath) :
    Moved move (readTerm entries place) (readTerm entries (move place)) := by
  rw [readTerm.eq_def entries place, readTerm.eq_def entries (move place)]
  simp only [keeps.key]
  split
  · obtain ⟨fault, failed, movedFailed⟩ | ⟨weight, weighed, movedWeighed⟩ :=
      (moved_weight? move (place.key "boost") (entries.get? "boost")).ends
    · simp only [failed, movedFailed]
      exact .error fault
    simp only [weighed, movedWeighed]
    split
    · rename_i items found
      obtain ⟨fault, failed, movedFailed⟩ | ⟨members, membersRead, movedMembersRead⟩ :=
        (moved_readMembers items place (place.key "array") 0).ends
      · simp only [failed, movedFailed]
        exact .error fault
      · simp only [membersRead, movedMembersRead]
        exact (moved_boost? move place weight).map _
    · exact .error _
    · exact .error _
  · apply (moved_weight? move _ _).bind
    intro weight
    exact moved_readSimple keeps _ _ entries place weight
  · exact .error _
termination_by sizeOf entries
decreasing_by
  rename_i found
  have smaller := Entries.sizeOf_lt_of_get? found
  simp only [Value.list.sizeOf_spec] at smaller
  omega

theorem moved_readMembers (items : List Value) (term place : KeyPath) (position : Nat) :
    Moved move
      (readMembers term place position items)
      (readMembers (move term) (move place) position items) := by
  rw [readMembers.eq_def, readMembers.eq_def]
  simp only [keeps.index]
  split
  · exact .ok []
  · rename_i entries rest
    apply (moved_readTerm entries _).bind
    intro member
    apply (moved_readMembers rest term place (position + 1)).bind
    intro members
    exact .ok _
  · exact .error _
  · rename_i item rest _ _
    apply (moved_scalarText move term _ item).bind
    intro text
    apply (moved_readMembers rest term place (position + 1)).bind
    intro members
    exact .ok _
termination_by sizeOf items

end

/-! ## Expressions -/

theorem moved_readLink (entries : Entries) (place : KeyPath) :
    Moved move (readLink entries place) (readLink entries (move place)) := by
  simp only [readLink, keeps.key]
  split
  · split
    · exact .ok _
    · exact .error _
  · exact .error _

theorem moved_readComparison (operator : Operator) (body : Value) (place : KeyPath) :
    Moved move (readComparison operator body place) (readComparison operator body (move place)) := by
  simp only [readComparison, keeps.key]
  split
  · split
    · split
      · exact .error _
      · exact (moved_readTerm keeps _ place).map _
    · exact .error _
  · exact .error _
  · exact .error _

mutual

/-- The reader knows nothing of where it starts but the name that it gives to faults. -/
theorem moved_readExpr (value : Value) (place : KeyPath) :
    Moved move (readExpr value place) (readExpr value (move place)) := by
  rw [readExpr.eq_def value place, readExpr.eq_def value (move place)]
  simp only [keeps.key]
  split
  · rename_i kind body
    split
    · split
      · exact (moved_readItems _ _ 0).map _
      · exact .error _
      · exact .error _
    · split
      · exact (moved_readExpr body _).map _
      · split
        · split
          · rename_i entries
            obtain ⟨fault, failed, movedFailed⟩ | ⟨link, linkRead, movedLinkRead⟩ :=
              (moved_readLink keeps entries (place.key kind)).ends
            · simp only [failed, movedFailed]
              exact .error fault
            · simp only [linkRead, movedLinkRead]
              split
              · exact .error _
              · rename_i query found
                exact (moved_readExpr query _).map _
          · exact .error _
          · exact .error _
        · split
          · exact moved_readComparison keeps _ _ _
          · exact .error _
  · exact .error _
  · exact .error _
  · exact .error _
termination_by sizeOf value
decreasing_by
  · subst_vars
    simp
    omega
  · rename_i found
    have smaller := Entries.sizeOf_lt_of_get? found
    subst_vars
    simp
    omega
  · subst_vars
    simp
    omega

theorem moved_readItems (items : List Value) (place : KeyPath) (position : Nat) :
    Moved move
      (readItems place position items)
      (readItems (move place) position items) := by
  rw [readItems.eq_def, readItems.eq_def]
  simp only [keeps.index]
  split
  · exact .ok []
  · rename_i item rest
    apply (moved_readExpr item _).bind
    intro expr
    apply (moved_readItems rest place (position + 1)).bind
    intro exprs
    exact .ok _
termination_by sizeOf items

end

end Readers

end Document

end LinkedQuery
