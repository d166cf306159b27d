import LinkedQuery.Proofs.Document.Relocation

/-!
Contract: where the fault of a document is.

Owns:
- the nodes of a document in the order in which they are read, each with its place;
- the nodes whose own part is as the grammar has it, whatever the documents below them are;
- the fault of a document: that of the first node whose own part is not so, as if this
  node stood alone at its place.

Does not own: the order of the checks within one node.
-/

namespace LinkedQuery.Document

/-! ## Nodes -/

/-- The documents that the body of a node holds, each with its place: the items of a group,
the body of a negation, and the query of a linked node. -/
def NodeKind.parts (kind : NodeKind) (here : KeyPath) (body : Value) : List (KeyPath × Value) :=
  match kind with
  | .andAll | .orAny | .withAll =>
      match body with
      | .list items => items.mapIdx fun position item => (here.index position, item)
      | _ => []
  | .negation => [(here, body)]
  | .linked =>
      match body with
      | .map entries =>
          (Entries.get? "query" entries).toList.map fun query => (here.key "query", query)
      | _ => []
  | .comparison _ => []

/-- The documents right below a document, each with its place. -/
def children (place : KeyPath) : Value → List (KeyPath × Value)
  | .map [(.text name, body)] =>
      match NodeKind.ofKey? name with
      | some kind => kind.parts (place.key name) body
      | none => []
  | _ => []

theorem NodeKind.parts_of_build?
    {kind : NodeKind}
    {build : List Expr → Expr}
    (built : kind.build? = some build)
    (here : KeyPath)
    (items : List Value) :
    kind.parts here (.list items) =
      items.mapIdx fun position item => (here.index position, item) := by
  cases kind with
  | andAll | orAny | withAll => rfl
  | negation | linked | comparison => cases built

theorem children_node (place : KeyPath) (kind : NodeKind) (body : Value) :
    children place (.map [(.text kind.key, body)]) = kind.parts (place.key kind.key) body := by
  simp only [children, NodeKind.ofKey?_key]

theorem NodeKind.sizeOf_le_of_mem_parts
    {kind : NodeKind}
    {here : KeyPath}
    {body : Value}
    {child : KeyPath × Value}
    (member : child ∈ kind.parts here body) :
    sizeOf child.2 ≤ sizeOf body := by
  cases kind with
  | andAll | orAny | withAll =>
      simp only [parts] at member
      split at member
      · obtain ⟨position, bound, rfl⟩ := List.mem_mapIdx.mp member
        rename_i items
        have smaller := List.sizeOf_lt_of_mem (List.getElem_mem bound)
        simp only [Value.list.sizeOf_spec]
        omega
      · cases member
  | negation =>
      obtain rfl := List.mem_singleton.mp member
      exact Nat.le_refl _
  | linked =>
      simp only [parts] at member
      split at member
      · rename_i entries
        obtain ⟨query, found, rfl⟩ := List.mem_map.mp member
        have smaller := Entries.sizeOf_lt_of_get? (Option.mem_toList.mp found)
        simp only [Value.map.sizeOf_spec]
        omega
      · cases member
  | comparison operator => cases member

theorem sizeOf_lt_of_mem_children
    {place : KeyPath}
    {value : Value}
    {child : KeyPath × Value}
    (member : child ∈ children place value) :
    sizeOf child.2 < sizeOf value := by
  unfold children at member
  split at member
  · split at member
    · have small := NodeKind.sizeOf_le_of_mem_parts member
      simp
      omega
    · cases member
  · cases member

/-- The nodes of a document, each with its place: a node comes before the documents below
it, and those come in their order. -/
def nodes (place : KeyPath) (value : Value) : List (KeyPath × Value) :=
  (place, value) ::
    (children place value).attach.flatMap fun child => nodes child.val.1 child.val.2
termination_by sizeOf value
decreasing_by exact sizeOf_lt_of_mem_children child.property

theorem nodes_eq (place : KeyPath) (value : Value) :
    nodes place value =
      (place, value) :: (children place value).flatMap fun child => nodes child.1 child.2 := by
  have plain :
      (children place value).attach.flatMap (fun child => nodes child.val.1 child.val.2) =
        (children place value).attach.unattach.flatMap fun child => nodes child.1 child.2 :=
    List.flatMap_subtype fun child member => rfl
  rw [nodes, plain, List.unattach_attach]

/-! ## Sound nodes -/

/-- A node whose own part is as the grammar has it, whatever the documents below it are: a
group has items, a linked node has a link and a query, and a comparison, which has no
documents below it, is so as a whole.  A mapping inside itself is no sound node. -/
inductive IsSound : Value → Prop
  | group {kind : NodeKind} {build : List Expr → Expr} {items : List Value} :
      kind.build? = some build →
      items ≠ [] →
      IsSound (.map [(.text kind.key, .list items)])
  | negation {body : Value} : IsSound (.map [(.text NodeKind.negation.key, body)])
  | linked {entries : Entries} {declaration : Text} {link : Link} {query : Value} :
      entries.get? "link" = some (.scalar (.text declaration)) →
      Link.parse declaration = .ok link →
      entries.get? "query" = some query →
      IsSound (.map [(.text NodeKind.linked.key, .map entries)])
  | comparison {operator : Operator} {body : Value} {expr : Expr} :
      DenotesNode Value.Written (.comparison operator) body expr →
      IsSound (.map [(.text (NodeKind.comparison operator).key, body)])

theorem isSound_of_readExpr
    {value : Value}
    {place : KeyPath}
    {expr : Expr}
    (read : readExpr value place = .ok expr) :
    IsSound value := by
  obtain ⟨denotes⟩ := (readExpr_eq_ok_iff value place expr).mp read
  cases denotes with
  | group built nonempty => exact .group built nonempty
  | negation => exact .negation
  | linked declared parsed found => exact .linked declared parsed found
  | comparison found notBlank denotes => exact .comparison (.comparison found notBlank denotes)

theorem errorOf?_readItems (place : KeyPath) (position : Nat) (items : List Value) :
    errorOf? (readItems place position items) =
      (items.mapIdx fun index item => (place.index (position + index), item)).findSome?
        fun child => errorOf? (readExpr child.2 child.1) := by
  induction items generalizing position with
  | nil => rw [readItems]; rfl
  | cons item rest inductionHypothesis =>
      rw [readItems, List.mapIdx_cons, List.findSome?_cons, Nat.add_zero]
      cases itemRead : readExpr item (place.index position) with
      | error fault => rfl
      | ok expr =>
          have later := inductionHypothesis (position + 1)
          simp only [Nat.add_assoc, Nat.add_comm 1] at later
          rw [errorOf?_ok, ← later]
          cases readItems place (position + 1) rest with
          | error fault => rfl
          | ok exprs => rfl

/-- A sound node fails just if a document below it does, and as the first of them does. -/
theorem IsSound.errorOf?_readExpr
    {value : Value}
    (sound : IsSound value)
    (place : KeyPath) :
    errorOf? (readExpr value place) =
      (children place value).findSome? fun child => errorOf? (readExpr child.2 child.1) := by
  cases sound with
  | group built nonempty =>
      obtain ⟨item, rest, rfl⟩ := List.exists_cons_of_ne_nil nonempty
      rw [children_node, NodeKind.parts_of_build? built, readExpr.eq_def]
      simp only [listNode?_key, built]
      rw [errorOf?_map, errorOf?_readItems]
      simp only [Nat.zero_add]
  | negation =>
      rw [children_node, readExpr.eq_def]
      simp only [listNode?_key, NodeKind.build?, NodeKind.key_eq_not_iff, if_true, errorOf?_map,
        NodeKind.parts, List.findSome?_singleton]
  | linked declared parsed found =>
      rename_i entries declaration link query
      have linkRead (here : KeyPath) : readLink entries here = .ok link :=
        readLink_eq_ok_iff.mpr ⟨declaration, declared, parsed⟩
      rw [children_node, readExpr.eq_def]
      simp only [listNode?_key, NodeKind.build?, NodeKind.key_eq_not_iff,
        NodeKind.key_eq_linked_iff, reduceCtorEq, if_true, if_false, linkRead]
      split
      · rename_i absent
        cases absent.symm.trans found
      · rename_i other otherFound
        obtain rfl := Option.some.inj (found.symm.trans otherFound)
        simp only [errorOf?_map, NodeKind.parts, found, Option.toList_some, List.map_cons,
          List.map_nil, List.findSome?_singleton]
  | comparison denotes =>
      rw [children_node, readExpr_comparison, readComparison_eq_ok_iff.mpr denotes]
      rfl

/-! ## The first node at fault -/

open Classical in
/-- The fault of a node's own part. -/
noncomputable def ownFault? (node : KeyPath × Value) : Option Fault :=
  if IsSound node.2 then none else errorOf? (readExpr node.2 node.1)

theorem ownFault?_eq_none_iff (node : KeyPath × Value) :
    ownFault? node = none ↔ IsSound node.2 := by
  unfold ownFault?
  split
  · rename_i sound
    exact iff_of_true rfl sound
  · rename_i unsound
    rw [errorOf?_eq_none_iff]
    refine iff_of_false ?_ unsound
    intro accepted
    obtain ⟨expr, read⟩ := accepted
    exact unsound (isSound_of_readExpr read)

theorem ownFault?_eq_some_iff (node : KeyPath × Value) (fault : Fault) :
    ownFault? node = some fault ↔
      ¬ IsSound node.2 ∧ readExpr node.2 node.1 = .error fault := by
  unfold ownFault?
  split
  · rename_i sound
    simp [sound]
  · rename_i unsound
    rw [errorOf?_eq_some_iff]
    exact (and_iff_right unsound).symm

/-- The first find in the parts of some items, where what is found in an item is known. -/
theorem findSome?_flatMap
    {α β γ : Type}
    {items : List α}
    {expand : α → List β}
    {find : β → Option γ}
    {whole : α → Option γ}
    (found : ∀ item ∈ items, whole item = (expand item).findSome? find) :
    (items.flatMap expand).findSome? find = items.findSome? whole := by
  induction items with
  | nil => rfl
  | cons item rest inductionHypothesis =>
      have atRest := inductionHypothesis fun other member =>
        found other (List.mem_cons_of_mem item member)
      rw [List.flatMap_cons, List.findSome?_append, atRest, ← found item List.mem_cons_self,
        List.findSome?_cons]
      cases whole item <;> rfl

/-- A document fails as the first of its nodes does whose own part is at fault. -/
theorem errorOf?_readExpr (place : KeyPath) (value : Value) :
    errorOf? (readExpr value place) = (nodes place value).findSome? ownFault? := by
  rw [nodes_eq, List.findSome?_cons]
  by_cases sound : IsSound value
  · -- The node passes, and each document below it is smaller.
    have atChildren : ∀ child ∈ children place value,
        errorOf? (readExpr child.2 child.1) = (nodes child.1 child.2).findSome? ownFault? := by
      intro child member
      exact errorOf?_readExpr child.1 child.2
    rw [(ownFault?_eq_none_iff (place, value)).mpr sound, findSome?_flatMap atChildren]
    exact sound.errorOf?_readExpr place
  · -- The node fails, whatever is below it.
    cases read : readExpr value place with
    | ok expr => exact absurd (isSound_of_readExpr read) sound
    | error fault =>
        rw [(ownFault?_eq_some_iff (place, value) fault).mpr ⟨sound, read⟩]
        rfl
termination_by sizeOf value
decreasing_by exact sizeOf_lt_of_mem_children member

/-- A document fails just if one of its nodes is not sound. -/
theorem exists_readExpr_eq_error_iff (place : KeyPath) (value : Value) :
    (∃ fault, readExpr value place = .error fault) ↔
      ∃ node ∈ nodes place value, ¬ IsSound node.2 := by
  have accepted :
      errorOf? (readExpr value place) = none ↔ ∀ node ∈ nodes place value, IsSound node.2 := by
    rw [errorOf?_readExpr, List.findSome?_eq_none_iff]
    exact forall₂_congr fun node _ => ownFault?_eq_none_iff node
  calc (∃ fault, readExpr value place = .error fault)
      ↔ errorOf? (readExpr value place) ≠ none := by
        simp only [← errorOf?_eq_some_iff, Option.ne_none_iff_exists']
    _ ↔ ¬ ∀ node ∈ nodes place value, IsSound node.2 := not_congr accepted
    _ ↔ ∃ node ∈ nodes place value, ¬ IsSound node.2 := by
        simp only [not_forall, exists_prop]

/-! ## A node alone -/

section Alone

variable {value : Value} {place : KeyPath} {fault : Fault}

/-- A document fails at a place as it does alone, when it starts with the text of that
place. -/
theorem readExpr_eq_error_iff :
    readExpr value place = .error fault ↔
      ∃ alone, read value place.text = .error alone ∧ alone.mapPlace place.append = fault := by
  have moved : Moved place.append (read value place.text) (readExpr value place) := by
    have atStart := moved_readExpr (KeyPath.keepsSteps_append place) value (.ofStart place.text)
    rwa [KeyPath.append_ofStart] at atStart
  rw [moved]
  cases read value place.text with
  | error alone => simp [Except.mapError]
  | ok expr => simp [Except.mapError]

/-- The faults of a document are at places below its own. -/
theorem exists_append_of_readExpr
    {found : KeyPath}
    (failed : readExpr value place = .error fault)
    (named : fault.place? = some found) :
    ∃ path, place.append path = found := by
  obtain ⟨alone, -, rfl⟩ := readExpr_eq_error_iff.mp failed
  rw [Fault.place?_mapPlace] at named
  obtain ⟨path, -, below⟩ := Option.map_eq_some_iff.mp named
  exact ⟨path, below⟩

/-- The words of a fault are the same where the document stands alone. -/
theorem message_mapPlace_of_read
    (failed : read value place.text = .error fault) :
    (fault.mapPlace place.append).message = fault.message := by
  apply Fault.message_mapPlace
  intro found named
  obtain ⟨path, rfl⟩ := exists_append_of_readExpr failed named
  exact KeyPath.text_append rfl

/-- A fault that names a place shows where the document that was read stands. -/
theorem text_infix_message_of_readExpr
    (failed : readExpr value place = .error fault)
    (named : fault.place?.isSome) :
    place.text.toList <:+: fault.message.toList := by
  obtain ⟨found, named⟩ := Option.isSome_iff_exists.mp named
  obtain ⟨path, rfl⟩ := exists_append_of_readExpr failed named
  have below := KeyPath.toList_text_prefix_append place path
  exact below.isInfix.trans (Fault.text_infix_message named)

end Alone

/-- A document fails just if one of its nodes is not sound; and then it fails as the first
such node does when it is read alone, starting with the text of its place: at the same
steps from there, and with the same words, which show that text if the fault has a
place. -/
theorem read_locates (value : Value) (start : Text) :
    ((∃ fault, read value start = .error fault) ↔
      ∃ node ∈ nodes (.ofStart start) value, ¬ IsSound node.2) ∧
    ∀ fault, read value start = .error fault ↔
      ∃ front place node back,
        nodes (.ofStart start) value = front ++ (place, node) :: back ∧
        (∀ earlier ∈ front, IsSound earlier.2) ∧
        ¬ IsSound node ∧
        ∃ alone,
          read node place.text = .error alone ∧
          alone.mapPlace place.append = fault ∧
          alone.message = fault.message ∧
          (fault.place?.isSome → place.text.toList <:+: fault.message.toList) := by
  refine ⟨exists_readExpr_eq_error_iff (.ofStart start) value, ?_⟩
  intro fault
  rw [← errorOf?_eq_some_iff, read, errorOf?_readExpr, List.findSome?_eq_some_iff]
  simp only [ownFault?_eq_none_iff, ownFault?_eq_some_iff]
  constructor
  · intro first
    obtain ⟨front, ⟨place, node⟩, back, met, ⟨unsound, failed⟩, sound⟩ := first
    obtain ⟨alone, aloneFailed, rfl⟩ := readExpr_eq_error_iff.mp failed
    have sameWords := message_mapPlace_of_read aloneFailed
    exact ⟨front, place, node, back, met, sound, unsound, alone, aloneFailed, rfl, sameWords.symm,
      text_infix_message_of_readExpr failed⟩
  · intro first
    obtain ⟨front, place, node, back, met, sound, unsound, alone, aloneFailed, moved, -⟩ := first
    have failed := readExpr_eq_error_iff.mpr ⟨alone, aloneFailed, moved⟩
    exact ⟨front, (place, node), back, met, ⟨unsound, failed⟩, sound⟩

-- An empty group, which is below a link, a negation and a group, comes before the mapping
-- without keys that follows.
example :
    (errorOf?
        (read
          (.map [(.text "and", .list
            [.map [(.text "not", .map [(.text "linked", .map
              [(.text "link", .scalar (.text "a=<b>c")),
               (.text "query", .map [(.text "or", .list [])])])])],
             .map []])])
          "query")).map Fault.message =
      some (Text.ofString "query.and[0].not.linked.query.or must be a non-empty list") := by
  decide +kernel

end LinkedQuery.Document
