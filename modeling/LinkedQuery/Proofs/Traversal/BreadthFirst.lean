import LinkedQuery.Proofs.Traversal.Chain
import Mathlib.Data.List.Induction
import Mathlib.Data.List.Nodup

/-!
Contract: what a breadth-first traversal finds, and in which order.

Owns:
- the discoveries of a traversal: each visit with the chain that led to it;
- the invariants of its two loops, the scan of an entity's links and the search
  through the queue, each with what one step keeps and what a whole run keeps;
- the result: every entity within reach is visited once, by its first chain, and
  visits are made in the order of rank.

Does not own: the traversal itself, and what its visits are used for.
-/

namespace LinkedQuery.Traversal

/-- A visit together with the chain that led to it. -/
structure Discovery where
  visit : Visit
  path : List Link

namespace Discovery

/-- The entity that was met. -/
def entity (discovery : Discovery) : Entity :=
  discovery.visit.entity

/-- The start is met by no link. -/
def ofStart (start : Entity) : Discovery :=
  ⟨⟨start, none⟩, []⟩

/-- The discovery that follows a link from an earlier one. -/
def along (parent : Discovery) (link : Link) : Discovery :=
  ⟨⟨link.entity, some ⟨parent.entity, link⟩⟩, parent.path ++ [link]⟩

@[simp] theorem entity_ofStart (start : Entity) : (ofStart start).entity = start := rfl

@[simp] theorem path_ofStart (start : Entity) : (ofStart start).path = [] := rfl

@[simp] theorem entity_along (parent : Discovery) (link : Link) :
    (parent.along link).entity = link.entity := rfl

end Discovery

/-- Discoveries in order: the start, then one after the other along a link of an
earlier one, each to a new entity and by a chain that ranks above all before
it. -/
inductive Discovered (next : Entity → List Link) (start : Entity) : List Discovery → Prop
  | start : Discovered next start [.ofStart start]
  | along
      {known : List Discovery}
      {parent : Discovery}
      {link : Link}
      (before : Discovered next start known)
      (parentKnown : parent ∈ known)
      (member : link ∈ next parent.entity)
      (fresh : link.entity ∉ known.map Discovery.entity)
      (above : ∀ earlier ∈ known,
        rank next start earlier.path < rank next start (parent.path ++ [link])) :
      Discovered next start (known ++ [parent.along link])

/-- Some discovery is of the entity that a link leads to, by a chain that ranks
no higher than the one along this link. -/
def Covers
    (next : Entity → List Link)
    (start : Entity)
    (known : List Discovery)
    (parent : Discovery)
    (link : Link) : Prop :=
  ∃ found ∈ known,
    found.entity = link.entity ∧
    rank next start found.path ≤ rank next start (parent.path ++ [link])

variable {next : Entity → List Link} {entities : List Entity} {start : Entity}

theorem Covers.mono
    {known more : List Discovery}
    {parent : Discovery}
    {link : Link}
    (covers : Covers next start known parent link)
    (included : known ⊆ more) :
    Covers next start more parent link := by
  obtain ⟨found, member, facts⟩ := covers
  exact ⟨found, included member, facts⟩

namespace Discovered

variable {known : List Discovery}

theorem start_mem (discovered : Discovered next start known) :
    Discovery.ofStart start ∈ known := by
  induction discovered with
  | start => simp
  | along _ _ _ _ _ inductionHypothesis => exact List.mem_append_left _ inductionHypothesis

/-- The chain of a discovery leads to its entity. -/
theorem chain
    (discovered : Discovered next start known)
    {discovery : Discovery}
    (member : discovery ∈ known) :
    Chain next start discovery.path discovery.entity := by
  induction discovered generalizing discovery with
  | start =>
      obtain rfl := List.mem_singleton.mp member
      rfl
  | along before parentKnown linkMember fresh above inductionHypothesis =>
      rcases List.mem_append.mp member with earlier | last
      · exact inductionHypothesis earlier
      · obtain rfl := List.mem_singleton.mp last
        exact (inductionHypothesis parentKnown).concat linkMember

/-- No entity is discovered twice. -/
theorem nodup (discovered : Discovered next start known) :
    (known.map Discovery.entity).Nodup := by
  induction discovered with
  | start => simp
  | along before parentKnown linkMember fresh above inductionHypothesis =>
      rw [List.map_append, List.nodup_append]
      refine ⟨inductionHypothesis, by simp, ?_⟩
      rintro entity member other otherMember rfl
      obtain rfl := List.mem_singleton.mp otherMember
      exact fresh member

/-- Discoveries are made in the order of rank. -/
theorem sorted (discovered : Discovered next start known) :
    known.Pairwise fun earlier later =>
      rank next start earlier.path < rank next start later.path := by
  induction discovered with
  | start => simp
  | along before parentKnown linkMember fresh above inductionHypothesis =>
      rw [List.pairwise_append]
      refine ⟨inductionHypothesis, by simp, ?_⟩
      intro earlier member last isLast
      obtain rfl := List.mem_singleton.mp isLast
      exact above earlier member

/-- Discoveries stay among the entities that links do not leave. -/
theorem within
    (discovered : Discovered next start known)
    (closed :
      ∀ source ∈ start :: entities, ∀ link ∈ next source, link.entity ∈ start :: entities)
    {discovery : Discovery}
    (member : discovery ∈ known) :
    discovery.entity ∈ start :: entities := by
  induction discovered generalizing discovery with
  | start =>
      obtain rfl := List.mem_singleton.mp member
      simp
  | along before parentKnown linkMember fresh above inductionHypothesis =>
      rcases List.mem_append.mp member with earlier | last
      · exact inductionHypothesis earlier
      · obtain rfl := List.mem_singleton.mp last
        exact closed _ (inductionHypothesis parentKnown) _ linkMember

end Discovered

/-! ## The scan of an entity's links -/

/-- What holds while the links of a discovered entity are scanned. -/
structure Scan
    (next : Entity → List Link)
    (entities : List Entity)
    (start : Entity)
    (parent : Discovery)
    (scanned : List Link)
    (known : List Discovery)
    (unseen : List Entity) : Prop where
  discovered : Discovered next start known
  parentKnown : parent ∈ known
  /-- Links that are still to come give chains above all that are known. -/
  below :
    ∀ earlier ∈ known, ∀ link ∈ next parent.entity, link ∉ scanned →
      rank next start earlier.path < rank next start (parent.path ++ [link])
  covered : ∀ link ∈ scanned, Covers next start known parent link
  unseen_iff : ∀ entity, entity ∈ unseen ↔ entity ∈ entities ∧ entity ∉ known.map Discovery.entity

namespace Scan

variable
  {parent : Discovery}
  {scanned : List Link}
  {known : List Discovery}
  {unseen : List Entity}
  {link : Link}
  {rest : List Link}

/-- A link to an unseen entity was not scanned before. -/
theorem not_scanned
    (scan : Scan next entities start parent scanned known unseen)
    (isUnseen : link.entity ∈ unseen) :
    link ∉ scanned := by
  intro member
  obtain ⟨found, foundMember, same, -⟩ := scan.covered link member
  apply ((scan.unseen_iff link.entity).mp isUnseen).2
  rw [← same]
  exact List.mem_map_of_mem foundMember

/-- Of two links from one entity the one scanned first gives the lower chain. -/
theorem rank_lt_of_later
    (scan : Scan next entities start parent scanned known unseen)
    (links : next parent.entity = scanned ++ link :: rest)
    (notScanned : link ∉ scanned)
    {later : Link}
    (laterNotScanned : later ∉ scanned ++ [link]) :
    rank next start (parent.path ++ [link]) < rank next start (parent.path ++ [later]) := by
  have parentChain := scan.discovered.chain scan.parentKnown
  apply rank_append_left_lt parentChain
  simp only [List.mem_append, List.mem_singleton, not_or] at laterNotScanned
  rw [rank_lt_iff]
  refine Or.inr ⟨rfl, ?_⟩
  simp only [positions, links, List.idxOf_append, if_neg notScanned, if_neg laterNotScanned.1,
    List.idxOf_cons_self, List.idxOf_cons_ne _ (Ne.symm laterNotScanned.2),
    List.cons_lt_cons_iff]
  left
  omega

/-- A link to an unseen entity adds a discovery. -/
theorem discover
    (scan : Scan next entities start parent scanned known unseen)
    (links : next parent.entity = scanned ++ link :: rest)
    (isUnseen : link.entity ∈ unseen) :
    Scan next entities start parent (scanned ++ [link]) (known ++ [parent.along link])
      (unseen.filter (· != link.entity)) := by
  have notScanned := scan.not_scanned isUnseen
  have member : link ∈ next parent.entity := by simp [links]
  have fresh := ((scan.unseen_iff link.entity).mp isUnseen).2
  constructor
  · exact .along scan.discovered scan.parentKnown member fresh
      fun earlier earlierMember => scan.below earlier earlierMember link member notScanned
  · exact List.mem_append_left _ scan.parentKnown
  · intro earlier earlierMember later laterMember laterNotScanned
    rcases List.mem_append.mp earlierMember with old | new
    · exact scan.below earlier old later laterMember
        fun scannedBefore => laterNotScanned (List.mem_append_left _ scannedBefore)
    · obtain rfl := List.mem_singleton.mp new
      exact scan.rank_lt_of_later links notScanned laterNotScanned
  · intro other otherMember
    rcases List.mem_append.mp otherMember with old | new
    · exact (scan.covered other old).mono (List.subset_append_left _ _)
    · obtain rfl := List.mem_singleton.mp new
      exact ⟨parent.along other, by simp, rfl, le_refl _⟩
  · intro entity
    simp only [List.mem_filter, scan.unseen_iff, List.map_append, List.mem_append,
      List.map_cons, List.map_nil, List.mem_singleton, Discovery.entity_along, bne_iff_ne]
    tauto

/-- A link to an entity that was seen adds nothing. -/
theorem skip
    (scan : Scan next entities start parent scanned known unseen)
    (member : link ∈ next parent.entity)
    (isSeen : link.entity ∉ unseen)
    (within : link.entity ∈ start :: entities) :
    Scan next entities start parent (scanned ++ [link]) known unseen := by
  have isKnown : link.entity ∈ known.map Discovery.entity := by
    rcases List.mem_cons.mp within with isStart | listed
    · rw [isStart]
      exact List.mem_map_of_mem scan.discovered.start_mem
    · by_contra unknown
      exact isSeen ((scan.unseen_iff link.entity).mpr ⟨listed, unknown⟩)
  have linkCovered : Covers next start known parent link := by
    by_cases before : link ∈ scanned
    · exact scan.covered link before
    · obtain ⟨found, foundMember, same⟩ := List.mem_map.mp isKnown
      exact ⟨found, foundMember, same, le_of_lt (scan.below found foundMember link member before)⟩
  refine ⟨scan.discovered, scan.parentKnown, ?_, ?_, scan.unseen_iff⟩
  · intro earlier earlierMember later laterMember laterNotScanned
    exact scan.below earlier earlierMember later laterMember
      fun scannedBefore => laterNotScanned (List.mem_append_left _ scannedBefore)
  · intro other otherMember
    rcases List.mem_append.mp otherMember with old | new
    · exact scan.covered other old
    · obtain rfl := List.mem_singleton.mp new
      exact linkCovered

/-- The scan of the remaining links ends with all of them covered. -/
theorem run
    (scan : Scan next entities start parent scanned known unseen)
    (links : next parent.entity = scanned ++ rest)
    (within : ∀ link ∈ next parent.entity, link.entity ∈ start :: entities) :
    ∃ found : List Discovery,
      (meet parent.entity rest unseen).1 = found.map Discovery.visit ∧
      (∀ discovery ∈ found, ∃ link ∈ next parent.entity, discovery.path = parent.path ++ [link]) ∧
      Scan next entities start parent (next parent.entity) (known ++ found)
        (meet parent.entity rest unseen).2 := by
  induction rest generalizing scanned known unseen with
  | nil =>
      refine ⟨[], rfl, by simp, ?_⟩
      rw [links, List.append_nil, List.append_nil]
      exact scan
  | cons link rest inductionHypothesis =>
      have member : link ∈ next parent.entity := by simp [links]
      have split : next parent.entity = (scanned ++ [link]) ++ rest := by simp [links]
      by_cases isUnseen : link.entity ∈ unseen
      · obtain ⟨found, visits, paths, last⟩ :=
          inductionHypothesis (scan.discover links isUnseen) split
        refine ⟨parent.along link :: found, ?_, ?_, ?_⟩
        · simp only [meet, List.contains_eq_mem, isUnseen, decide_true, if_true, visits,
            List.map_cons]
          rfl
        · intro discovery discoveryMember
          rcases List.mem_cons.mp discoveryMember with rfl | later
          · exact ⟨link, member, rfl⟩
          · exact paths discovery later
        · simpa only [meet, List.contains_eq_mem, isUnseen, decide_true, if_true,
            List.append_assoc, List.singleton_append] using last
      · have skipped := scan.skip member isUnseen (within link member)
        simpa only [meet, List.contains_eq_mem, isUnseen, decide_false, Bool.false_eq_true,
          if_false] using inductionHypothesis skipped split

end Scan

/-! ## The search through the queue -/

/-- What holds between two steps of the search: discoveries are done, with all
their links scanned, or pending. -/
structure Search
    (next : Entity → List Link)
    (entities : List Entity)
    (start : Entity)
    (done pending : List Discovery)
    (unseen : List Entity) : Prop where
  discovered : Discovered next start (done ++ pending)
  /-- Only links of done discoveries were followed. -/
  fromDone :
    ∀ discovery ∈ done ++ pending,
      discovery.path = [] ∨
        ∃ parent ∈ done, ∃ link ∈ next parent.entity, discovery.path = parent.path ++ [link]
  covered :
    ∀ parent ∈ done, ∀ link ∈ next parent.entity, Covers next start (done ++ pending) parent link
  unseen_iff :
    ∀ entity,
      entity ∈ unseen ↔ entity ∈ entities ∧ entity ∉ (done ++ pending).map Discovery.entity

namespace Search

variable
  {done pending : List Discovery}
  {unseen : List Entity}
  {current : Discovery}

theorem initial :
    Search next entities start [] [.ofStart start] (entities.filter (· != start)) := by
  constructor
  · exact .start
  · simp
  · simp
  · intro entity
    simp

/-- Every discovery ranks below the chains along the links of the one that is
next in the queue: it was made from an earlier one. -/
theorem below_current
    (search : Search next entities start done (current :: pending) unseen)
    {earlier : Discovery}
    (member : earlier ∈ done ++ current :: pending)
    (link : Link) :
    rank next start earlier.path < rank next start (current.path ++ [link]) := by
  rcases search.fromDone earlier member with isStart | ⟨parent, parentDone, other, -, along⟩
  · rw [isStart, rank_lt_iff]
    left
    simp
  · have parentMember : parent ∈ done ++ current :: pending :=
      List.mem_append_left _ parentDone
    have currentMember : current ∈ done ++ current :: pending := by simp
    have parentBelow : rank next start parent.path < rank next start current.path :=
      (List.pairwise_append.mp search.discovered.sorted).2.2 parent parentDone current (by simp)
    rw [along]
    exact rank_append_lt (search.discovered.chain parentMember)
      (search.discovered.chain currentMember) rfl parentBelow

/-- Before its links are scanned, the next discovery in the queue covers none of
them. -/
theorem scan
    (search : Search next entities start done (current :: pending) unseen) :
    Scan next entities start current [] (done ++ current :: pending) unseen where
  discovered := search.discovered
  parentKnown := by simp
  below _ earlierMember link _ _ := search.below_current earlierMember link
  covered := by simp
  unseen_iff := search.unseen_iff

/-- One step: the links of the next discovery are scanned, and what they lead to
goes to the end of the queue. -/
theorem step
    (search : Search next entities start done (current :: pending) unseen)
    (closed :
      ∀ source ∈ start :: entities, ∀ link ∈ next source, link.entity ∈ start :: entities) :
    ∃ found : List Discovery,
      (meet current.entity (next current.entity) unseen).1 = found.map Discovery.visit ∧
      Search next entities start (done ++ [current]) (pending ++ found)
        (meet current.entity (next current.entity) unseen).2 := by
  have currentWithin : current.entity ∈ start :: entities :=
    search.discovered.within closed (by simp)
  obtain ⟨found, visits, paths, scanned⟩ :=
    search.scan.run (List.nil_append _).symm (closed current.entity currentWithin)
  have regroup :
      (done ++ current :: pending) ++ found = (done ++ [current]) ++ (pending ++ found) := by
    simp
  rw [regroup] at scanned
  refine ⟨found, visits, scanned.discovered, ?_, ?_, scanned.unseen_iff⟩
  · intro discovery member
    rw [← regroup] at member
    rcases List.mem_append.mp member with old | new
    · rcases search.fromDone discovery old with isStart | ⟨parent, parentDone, along⟩
      · exact Or.inl isStart
      · exact Or.inr ⟨parent, List.mem_append_left _ parentDone, along⟩
    · exact Or.inr ⟨current, by simp, paths discovery new⟩
  · intro parent parentDone link member
    rcases List.mem_append.mp parentDone with old | new
    · apply (search.covered parent old link member).mono
      rw [← regroup]
      exact List.subset_append_left _ _
    · obtain rfl := List.mem_singleton.mp new
      exact scanned.covered link member

/-- A whole run: the search ends with every discovery done. -/
theorem run
    (search : Search next entities start done pending unseen)
    (closed :
      ∀ source ∈ start :: entities, ∀ link ∈ next source, link.entity ∈ start :: entities) :
    ∃ all left,
      done.map Discovery.visit ++ walk next unseen (pending.map Discovery.visit) =
        all.map Discovery.visit ∧
      Search next entities start all [] left := by
  generalize queued : pending.map Discovery.visit = queue
  fun_induction walk next unseen queue generalizing done pending with
  | case1 unseen =>
      obtain rfl : pending = [] := List.map_eq_nil_iff.mp queued
      refine ⟨done, unseen, ?_, search⟩
      rw [List.append_nil]
  | case2 unseen visit rest met =>
      rename_i inductionHypothesis
      obtain ⟨current, pending, rfl, rfl, rfl⟩ := List.map_eq_cons_iff.mp queued
      obtain ⟨found, visits, stepped⟩ := search.step closed
      have moreQueued :
          (pending ++ found).map Discovery.visit =
            pending.map Discovery.visit ++
              (meet current.entity (next current.entity) unseen).1 := by
        rw [List.map_append, visits]
      obtain ⟨all, left, walked, last⟩ := inductionHypothesis stepped moreQueued
      refine ⟨all, left, ?_, last⟩
      rw [← walked, List.map_append, List.append_assoc]
      rfl

end Search

/-! ## The result of a traversal -/

/-- All discoveries of a traversal, none of whose links leads further. -/
structure Exploration
    (next : Entity → List Link)
    (start : Entity)
    (all : List Discovery) : Prop where
  discovered : Discovered next start all
  covered : ∀ parent ∈ all, ∀ link ∈ next parent.entity, Covers next start all parent link

/-- A traversal of entities that links do not leave explores all of them that
are within reach. -/
theorem exists_exploration
    (closed :
      ∀ source ∈ start :: entities, ∀ link ∈ next source, link.entity ∈ start :: entities) :
    ∃ all, visits next entities start = all.map Discovery.visit ∧ Exploration next start all := by
  obtain ⟨all, left, walked, last⟩ := Search.initial.run closed
  refine ⟨all, walked, ?_, ?_⟩
  · simpa using last.discovered
  · simpa using last.covered

namespace Exploration

variable {all : List Discovery}

/-- The end of every chain was discovered, by a chain that ranks no higher. -/
theorem exists_of_chain
    (exploration : Exploration next start all)
    {path : List Link}
    {target : Entity}
    (chain : Chain next start path target) :
    ∃ found ∈ all,
      found.entity = target ∧ rank next start found.path ≤ rank next start path := by
  induction path using List.reverseRecOn generalizing target with
  | nil =>
      obtain rfl : start = target := chain
      exact ⟨_, exploration.discovered.start_mem, rfl, le_refl _⟩
  | append_singleton front link inductionHypothesis =>
      obtain ⟨middle, frontChain, member, rfl⟩ := chain_append_iff.mp chain
      obtain ⟨parent, parentMember, rfl, parentRank⟩ := inductionHypothesis frontChain
      obtain ⟨found, foundMember, same, foundRank⟩ :=
        exploration.covered parent parentMember link member
      refine ⟨found, foundMember, same, le_trans foundRank ?_⟩
      have parentChain := exploration.discovered.chain parentMember
      exact rank_append_le parentChain frontChain [link] parentRank

/-- Discoveries of one entity are the same. -/
theorem eq_of_entity_eq
    (exploration : Exploration next start all)
    {left right : Discovery}
    (leftMember : left ∈ all)
    (rightMember : right ∈ all)
    (same : left.entity = right.entity) :
    left = right :=
  List.inj_on_of_nodup_map exploration.discovered.nodup leftMember rightMember same

/-- Every entity is discovered by its first chain. -/
theorem first
    (exploration : Exploration next start all)
    {discovery : Discovery}
    (member : discovery ∈ all) :
    FirstChain next start discovery.entity discovery.path := by
  refine ⟨exploration.discovered.chain member, fun other otherChain => ?_⟩
  obtain ⟨found, foundMember, same, ranked⟩ := exploration.exists_of_chain otherChain
  rw [exploration.eq_of_entity_eq member foundMember same.symm]
  exact ranked

/-- The discovered entities are those within reach. -/
theorem mem_entities_iff
    (exploration : Exploration next start all)
    {entity : Entity} :
    entity ∈ all.map Discovery.entity ↔ Reaches next start entity := by
  constructor
  · intro member
    obtain ⟨discovery, discoveryMember, rfl⟩ := List.mem_map.mp member
    exact ⟨discovery.path, exploration.discovered.chain discoveryMember⟩
  · rintro ⟨path, chain⟩
    obtain ⟨found, foundMember, rfl, -⟩ := exploration.exists_of_chain chain
    exact List.mem_map_of_mem foundMember

/-- The first discovery with a property is met before all others with it. -/
theorem firstMet
    {front back : List Discovery}
    {discovery : Discovery}
    (exploration : Exploration next start (front ++ discovery :: back))
    {property : Entity → Prop}
    (holds : property discovery.entity)
    (notBefore : ∀ earlier ∈ front, ¬ property earlier.entity) :
    FirstMet next start property discovery.entity := by
  refine ⟨holds, discovery.path, exploration.discovered.chain (by simp), ?_⟩
  intro other otherPath otherHolds otherChain
  obtain ⟨found, foundMember, rfl, ranked⟩ := exploration.exists_of_chain otherChain
  refine le_trans ?_ ranked
  have ordered := (List.pairwise_append.mp exploration.discovered.sorted).2.1
  rcases List.mem_append.mp foundMember with inFront | atOrAfter
  · exact absurd otherHolds (notBefore found inFront)
  · rcases List.mem_cons.mp atOrAfter with rfl | inBack
    · exact le_refl _
    · exact le_of_lt ((List.pairwise_cons.mp ordered).1 found inBack)

end Exploration

end LinkedQuery.Traversal
