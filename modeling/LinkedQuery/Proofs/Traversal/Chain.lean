import LinkedQuery.Topology.Traversal
import Mathlib.Data.List.Lex
import Mathlib.Data.Prod.Lex

/-!
Contract: chains of links and the order in which they are compared.

Owns:
- chains from a start to a target, and the entities that they reach;
- the rank of a chain: its length, then the positions of its links among those
  of their sources, compared from the start on;
- the first chain to a target: it is unique, meets no entity twice, and each of
  its parts is first as well;
- the first entity with a property, in the order of the chains to it.

Does not own: the traversal that finds first chains.
-/

namespace LinkedQuery.Traversal

/-- Links that lead from a start to a target, each one starting where the one
before it ends. -/
def Chain (next : Entity → List Link) : Entity → List Link → Entity → Prop
  | start, [], target => start = target
  | start, link :: rest, target => link ∈ next start ∧ Chain next link.entity rest target

/-- Some chain leads from a start to a target. -/
def Reaches (next : Entity → List Link) (start target : Entity) : Prop :=
  ∃ path, Chain next start path target

/-- The position of each link of a chain among the links of its source. -/
def positions (next : Entity → List Link) : Entity → List Link → List ℕ
  | _, [] => []
  | start, link :: rest => (next start).idxOf link :: positions next link.entity rest

/-- The place of a chain among those from its start: shorter ones come first,
equally long ones are compared by position. -/
def rank (next : Entity → List Link) (start : Entity) (path : List Link) : ℕ ×ₗ List ℕ :=
  toLex (path.length, positions next start path)

/-- The chain of least rank from a start to a target. -/
structure FirstChain
    (next : Entity → List Link)
    (start target : Entity)
    (path : List Link) : Prop where
  chain : Chain next start path target
  least : ∀ other, Chain next start other target → rank next start path ≤ rank next start other

/-- An entity with a property that discovery from a start meets before all
others with it: a chain to it ranks no higher than any chain to one of them. -/
def FirstMet
    (next : Entity → List Link)
    (start : Entity)
    (property : Entity → Prop)
    (entity : Entity) : Prop :=
  property entity ∧
  ∃ path,
    Chain next start path entity ∧
    ∀ other otherPath,
      property other → Chain next start otherPath other →
        rank next start path ≤ rank next start otherPath

variable {next : Entity → List Link}

/-! ## Chains -/

/-- A chain can be cut at any of its links. -/
theorem chain_append_iff
    {start target : Entity}
    {front back : List Link} :
    Chain next start (front ++ back) target ↔
      ∃ middle, Chain next start front middle ∧ Chain next middle back target := by
  induction front generalizing start with
  | nil => simp [Chain]
  | cons link front inductionHypothesis =>
      simp only [List.cons_append, Chain, inductionHypothesis]
      constructor
      · rintro ⟨member, middle, frontChain, backChain⟩
        exact ⟨middle, ⟨member, frontChain⟩, backChain⟩
      · rintro ⟨middle, ⟨member, frontChain⟩, backChain⟩
        exact ⟨member, middle, frontChain, backChain⟩

theorem Chain.target_unique
    {start left right : Entity}
    {path : List Link}
    (leftChain : Chain next start path left)
    (rightChain : Chain next start path right) :
    left = right := by
  induction path generalizing start with
  | nil => exact leftChain.symm.trans rightChain
  | cons link rest inductionHypothesis =>
      exact inductionHypothesis leftChain.2 rightChain.2

theorem Chain.append
    {start middle target : Entity}
    {front back : List Link}
    (frontChain : Chain next start front middle)
    (backChain : Chain next middle back target) :
    Chain next start (front ++ back) target :=
  chain_append_iff.mpr ⟨middle, frontChain, backChain⟩

/-- A chain goes on with any link of the entity it leads to. -/
theorem Chain.concat
    {start middle : Entity}
    {path : List Link}
    {link : Link}
    (chain : Chain next start path middle)
    (member : link ∈ next middle) :
    Chain next start (path ++ [link]) link.entity :=
  chain.append ⟨member, rfl⟩

/-- An entity that a chain meets cuts it into two chains, the first of them not
empty. -/
theorem Chain.cut
    {start target entity : Entity}
    {path : List Link}
    (chain : Chain next start path target)
    (met : entity ∈ path.map Link.entity) :
    ∃ front back,
      path = front ++ back ∧
      front ≠ [] ∧
      Chain next start front entity ∧
      Chain next entity back target := by
  obtain ⟨link, member, rfl⟩ := List.mem_map.mp met
  obtain ⟨front, back, rfl⟩ := List.append_of_mem member
  obtain ⟨middle, frontChain, linkMember, backChain⟩ := chain_append_iff.mp chain
  refine ⟨front ++ [link], back, by simp, by simp, ?_, backChain⟩
  exact frontChain.concat linkMember

/-- Every link of a chain is one of the links of its source. -/
theorem Chain.exists_source
    {start target : Entity}
    {path : List Link}
    (chain : Chain next start path target)
    {link : Link}
    (member : link ∈ path) :
    ∃ source, link ∈ next source := by
  obtain ⟨front, back, rfl⟩ := List.append_of_mem member
  obtain ⟨middle, -, linkMember, -⟩ := chain_append_iff.mp chain
  exact ⟨middle, linkMember⟩

/-- Links that agree on all entities within reach give the same chains. -/
theorem chain_congr
    {others : Entity → List Link}
    {start target : Entity}
    {path : List Link}
    (agree : ∀ entity, Reaches next start entity → others entity = next entity) :
    Chain others start path target ↔ Chain next start path target := by
  induction path generalizing start with
  | nil => rfl
  | cons link rest inductionHypothesis =>
      simp only [Chain, agree start ⟨[], rfl⟩]
      refine and_congr_right fun member => inductionHypothesis fun entity reached => ?_
      obtain ⟨path, chain⟩ := reached
      exact agree entity ⟨link :: path, member, chain⟩

/-- What holds at the start and is kept by links holds within reach. -/
theorem Reaches.keeps
    {start target : Entity}
    (reached : Reaches next start target)
    (property : Entity → Prop)
    (atStart : property start)
    (kept : ∀ entity, property entity → ∀ link ∈ next entity, property link.entity) :
    property target := by
  obtain ⟨path, chain⟩ := reached
  induction path generalizing start with
  | nil =>
      obtain rfl : start = target := chain
      exact atStart
  | cons link rest inductionHypothesis =>
      exact inductionHypothesis (kept start atStart link chain.1) chain.2

/-- More links within reach leave every entity within reach. -/
theorem Reaches.mono
    {next more : Entity → List Link}
    {start target : Entity}
    (reached : Reaches next start target)
    (included : ∀ entity, Reaches more start entity → next entity ⊆ more entity) :
    Reaches more start target := by
  obtain ⟨path, chain⟩ := reached
  refine ⟨path, ?_⟩
  induction path generalizing start with
  | nil => exact chain
  | cons link rest inductionHypothesis =>
      have member : link ∈ more start := included start ⟨[], rfl⟩ chain.1
      refine ⟨member, inductionHypothesis (fun entity entityReached => ?_) chain.2⟩
      obtain ⟨path, more⟩ := entityReached
      exact included entity ⟨link :: path, member, more⟩

/-! ## Positions -/

@[simp] theorem positions_length
    (start : Entity)
    (path : List Link) :
    (positions next start path).length = path.length := by
  induction path generalizing start with
  | nil => rfl
  | cons link rest inductionHypothesis => simp [positions, inductionHypothesis]

/-- The positions behind a chain are counted from the entity it leads to. -/
theorem positions_append
    {start middle : Entity}
    {front : List Link}
    (chain : Chain next start front middle)
    (back : List Link) :
    positions next start (front ++ back) =
      positions next start front ++ positions next middle back := by
  induction front generalizing start with
  | nil =>
      obtain rfl : start = middle := chain
      rfl
  | cons link front inductionHypothesis =>
      simp only [List.cons_append, positions, inductionHypothesis chain.2]

/-- Positions tell the chains from a start apart. -/
theorem positions_injective
    {start target other : Entity}
    {left right : List Link}
    (leftChain : Chain next start left target)
    (rightChain : Chain next start right other)
    (same : positions next start left = positions next start right) :
    left = right := by
  induction left generalizing start right with
  | nil =>
      cases right with
      | nil => rfl
      | cons link rest => simp [positions] at same
  | cons link rest inductionHypothesis =>
      cases right with
      | nil => simp [positions] at same
      | cons otherLink otherRest =>
          simp only [positions, List.cons.injEq] at same
          have sameLink : link = otherLink := (List.idxOf_inj leftChain.1).mp same.1
          subst sameLink
          rw [inductionHypothesis leftChain.2 rightChain.2 same.2]

theorem positions_congr
    {others : Entity → List Link}
    {start target : Entity}
    {path : List Link}
    (agree : ∀ entity, Reaches next start entity → others entity = next entity)
    (chain : Chain next start path target) :
    positions others start path = positions next start path := by
  induction path generalizing start with
  | nil => rfl
  | cons link rest inductionHypothesis =>
      have restAgrees :
          ∀ entity, Reaches next link.entity entity → others entity = next entity := by
        intro entity reached
        obtain ⟨path, restChain⟩ := reached
        exact agree entity ⟨link :: path, chain.1, restChain⟩
      simp only [positions, agree start ⟨[], rfl⟩, inductionHypothesis restAgrees chain.2]

/-! ## Rank -/

theorem rank_lt_iff
    {start : Entity}
    {left right : List Link} :
    rank next start left < rank next start right ↔
      left.length < right.length ∨
        left.length = right.length ∧ positions next start left < positions next start right :=
  Prod.Lex.toLex_lt_toLex

/-- Equally long chains are ranked by their positions. -/
theorem positions_le_of_rank_le
    {start : Entity}
    {left right : List Link}
    (sameLength : right.length = left.length)
    (ranked : rank next start left ≤ rank next start right) :
    positions next start left ≤ positions next start right := by
  rcases Prod.Lex.toLex_le_toLex.mp ranked with shorter | ⟨-, atMost⟩
  · exact absurd sameLength.symm (Nat.ne_of_lt shorter)
  · exact atMost

theorem length_le_of_rank_le
    {start : Entity}
    {left right : List Link}
    (ranked : rank next start left ≤ rank next start right) :
    left.length ≤ right.length := by
  rcases Prod.Lex.toLex_le_toLex.mp ranked with shorter | ⟨same, -⟩
  · exact Nat.le_of_lt shorter
  · exact Nat.le_of_eq same

/-- Lists of one length that differ keep their order when more is appended. -/
private theorem append_lt_append
    {left right leftRest rightRest : List ℕ}
    (sameLength : left.length = right.length)
    (less : left < right) :
    left ++ leftRest < right ++ rightRest := by
  induction left generalizing right with
  | nil =>
      obtain rfl : right = [] := List.length_eq_zero_iff.mp sameLength.symm
      exact absurd less (lt_irrefl _)
  | cons head tail inductionHypothesis =>
      cases right with
      | nil => simp at sameLength
      | cons otherHead otherTail =>
          rw [List.cons_append, List.cons_append, List.cons_lt_cons_iff]
          rcases List.cons_lt_cons_iff.mp less with headLess | ⟨sameHead, tailLess⟩
          · exact Or.inl headLess
          · exact Or.inr ⟨sameHead, inductionHypothesis (by simpa using sameLength) tailLess⟩

/-- Chains keep their order when both go on by equally many links. -/
theorem rank_append_lt
    {start leftEnd rightEnd : Entity}
    {left right leftRest rightRest : List Link}
    (leftChain : Chain next start left leftEnd)
    (rightChain : Chain next start right rightEnd)
    (sameLength : leftRest.length = rightRest.length)
    (less : rank next start left < rank next start right) :
    rank next start (left ++ leftRest) < rank next start (right ++ rightRest) := by
  rw [rank_lt_iff, List.length_append, List.length_append]
  rcases rank_lt_iff.mp less with shorter | ⟨same, positionsLess⟩
  · left
    omega
  · right
    refine ⟨by omega, ?_⟩
    rw [positions_append leftChain, positions_append rightChain]
    exact append_lt_append (by simpa using same) positionsLess

/-- Chains to one entity keep their order when both go on alike. -/
theorem rank_append_le
    {start middle : Entity}
    {left right : List Link}
    (leftChain : Chain next start left middle)
    (rightChain : Chain next start right middle)
    (rest : List Link)
    (ranked : rank next start left ≤ rank next start right) :
    rank next start (left ++ rest) ≤ rank next start (right ++ rest) := by
  rcases lt_or_eq_of_le ranked with less | same
  · exact le_of_lt (rank_append_lt leftChain rightChain rfl less)
  · have samePositions : positions next start left = positions next start right :=
      congrArg (fun key => (ofLex key).2) same
    rw [positions_injective leftChain rightChain samePositions]

/-- Chains that begin alike are ordered by what follows. -/
theorem rank_append_left_lt
    {start middle : Entity}
    {front left right : List Link}
    (frontChain : Chain next start front middle)
    (less : rank next middle left < rank next middle right) :
    rank next start (front ++ left) < rank next start (front ++ right) := by
  rw [rank_lt_iff, List.length_append, List.length_append]
  rcases rank_lt_iff.mp less with shorter | ⟨same, positionsLess⟩
  · left
    omega
  · right
    refine ⟨by omega, ?_⟩
    rw [positions_append frontChain, positions_append frontChain]
    exact List.append_left_lt positionsLess

/-- Rank tells the chains from a start apart. -/
theorem eq_of_rank_eq
    {start target other : Entity}
    {left right : List Link}
    (leftChain : Chain next start left target)
    (rightChain : Chain next start right other)
    (sameRank : rank next start left = rank next start right) :
    left = right := by
  have samePositions : positions next start left = positions next start right :=
    congrArg (fun key => (ofLex key).2) sameRank
  exact positions_injective leftChain rightChain samePositions

/-! ## First chains -/

/-- A target has one first chain. -/
theorem FirstChain.unique
    {start target : Entity}
    {left right : List Link}
    (leftFirst : FirstChain next start target left)
    (rightFirst : FirstChain next start target right) :
    left = right :=
  eq_of_rank_eq leftFirst.chain rightFirst.chain
    (le_antisymm (leftFirst.least right rightFirst.chain) (rightFirst.least left leftFirst.chain))

/-- One entity with a property is met first. -/
theorem FirstMet.unique
    {start left right : Entity}
    {property : Entity → Prop}
    (leftFirst : FirstMet next start property left)
    (rightFirst : FirstMet next start property right) :
    left = right := by
  obtain ⟨leftHolds, leftPath, leftChain, leftLeast⟩ := leftFirst
  obtain ⟨rightHolds, rightPath, rightChain, rightLeast⟩ := rightFirst
  obtain rfl : leftPath = rightPath :=
    eq_of_rank_eq leftChain rightChain
      (le_antisymm (leftLeast right rightPath rightHolds rightChain)
        (rightLeast left leftPath leftHolds leftChain))
  exact leftChain.target_unique rightChain

/-- The first chain from an entity to itself is empty. -/
theorem firstChain_nil (start : Entity) : FirstChain next start start [] := by
  refine ⟨rfl, fun other _ => ?_⟩
  cases other with
  | nil => exact le_refl _
  | cons link rest =>
      apply le_of_lt
      rw [rank_lt_iff]
      left
      simp

/-- The beginning of a first chain is the first chain to where it ends. -/
theorem FirstChain.front
    {start middle target : Entity}
    {front back : List Link}
    (first : FirstChain next start target (front ++ back))
    (frontChain : Chain next start front middle)
    (backChain : Chain next middle back target) :
    FirstChain next start middle front := by
  refine ⟨frontChain, fun other otherChain => le_of_not_gt fun less => ?_⟩
  have whole := first.least (other ++ back) (otherChain.append backChain)
  exact absurd (rank_append_lt otherChain frontChain rfl less) (not_lt_of_ge whole)

/-- The end of a first chain is the first chain from where it begins. -/
theorem FirstChain.back
    {start middle target : Entity}
    {front back : List Link}
    (first : FirstChain next start target (front ++ back))
    (frontChain : Chain next start front middle)
    (backChain : Chain next middle back target) :
    FirstChain next middle target back := by
  refine ⟨backChain, fun other otherChain => le_of_not_gt fun less => ?_⟩
  have whole := first.least (front ++ other) (frontChain.append otherChain)
  exact absurd (rank_append_left_lt frontChain less) (not_lt_of_ge whole)

/-- A first chain does not come back to its start. -/
theorem FirstChain.start_not_met
    {start target : Entity}
    {path : List Link}
    (first : FirstChain next start target path) :
    start ∉ path.map Link.entity := by
  intro met
  obtain ⟨front, back, rfl, nonempty, -, backChain⟩ := first.chain.cut met
  have shorter := length_le_of_rank_le (first.least back backChain)
  have positive : 0 < front.length := List.length_pos_iff.mpr nonempty
  rw [List.length_append] at shorter
  omega

/-- A first chain meets no entity twice. -/
theorem FirstChain.nodup
    {start target : Entity}
    {path : List Link}
    (first : FirstChain next start target path) :
    (start :: path.map Link.entity).Nodup := by
  induction path generalizing start with
  | nil => simp
  | cons link rest inductionHypothesis =>
      have whole : FirstChain next start target ([link] ++ rest) := first
      have restFirst : FirstChain next link.entity target rest :=
        whole.back ⟨first.chain.1, rfl⟩ first.chain.2
      exact List.nodup_cons.mpr ⟨first.start_not_met, inductionHypothesis restFirst⟩

theorem firstChain_congr
    {others : Entity → List Link}
    {start target : Entity}
    {path : List Link}
    (agree : ∀ entity, Reaches next start entity → others entity = next entity) :
    FirstChain others start target path ↔ FirstChain next start target path := by
  have sameRank :
      ∀ {path target}, Chain next start path target →
        rank others start path = rank next start path := by
    intro path target chain
    rw [rank, rank, positions_congr agree chain]
  constructor
  · rintro ⟨chain, least⟩
    have nextChain := (chain_congr agree).mp chain
    refine ⟨nextChain, fun other otherChain => ?_⟩
    rw [← sameRank nextChain, ← sameRank otherChain]
    exact least other ((chain_congr agree).mpr otherChain)
  · rintro ⟨chain, least⟩
    refine ⟨(chain_congr agree).mpr chain, fun other otherChain => ?_⟩
    have nextOther := (chain_congr agree).mp otherChain
    rw [sameRank chain, sameRank nextOther]
    exact least other nextOther

/-- Links and properties that agree within reach have the same first entity. -/
theorem firstMet_congr
    {others : Entity → List Link}
    {start entity : Entity}
    {property otherProperty : Entity → Prop}
    (agree : ∀ entity, Reaches next start entity → others entity = next entity)
    (sameProperty :
      ∀ entity, Reaches next start entity → (otherProperty entity ↔ property entity))
    (first : FirstMet others start otherProperty entity) :
    FirstMet next start property entity := by
  obtain ⟨holds, path, otherChain, least⟩ := first
  have chain := (chain_congr agree).mp otherChain
  refine ⟨(sameProperty entity ⟨path, chain⟩).mp holds, path, chain, ?_⟩
  intro later laterPath laterHolds laterChain
  have otherHolds := (sameProperty later ⟨laterPath, laterChain⟩).mpr laterHolds
  have ranked := least later laterPath otherHolds ((chain_congr agree).mpr laterChain)
  unfold rank at ranked ⊢
  rwa [positions_congr agree chain, positions_congr agree laterChain] at ranked

end LinkedQuery.Traversal
