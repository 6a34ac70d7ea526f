import CommitLint.Proofs.NamedCommits
import CommitLint.Proofs.Outcome
import Mathlib

/-!
# New commits

Which commits a range stands for, and in which order, told by ancestry alone (`History.LeadsTo`).
The walk that lists them takes a commit when all that were made from it are taken. Wherever it
stands, `Frontier` holds: what waits are the commits that can be taken next.

* `Frontier.take`, `Frontier.skip` — a step of the walk keeps this;
* `mem_walk_ready`, `pairwise_walk_ready` — a whole walk takes everything, and parents last;
* `mem_newCommits_iff`, `pairwise_newCommits` — the new commits and their order;
* `commitsIn_new` — what a range stands for.
-/

namespace CommitLint

namespace History

/-! ### Ancestry -/

/-- Whether a commit was made from another. -/
def MadeFrom (h : History) (child parent : ObjectId) : Prop := parent ∈ h.parents child

/-- Whether a commit leads to another over any number of parents, or is the same. -/
def LeadsTo (h : History) : ObjectId → ObjectId → Prop := Relation.ReflTransGen h.MadeFrom

/-- No commit was made from itself, over any number of commits. -/
def Acyclic (h : History) : Prop := ∀ id, ¬ Relation.TransGen h.MadeFrom id id

/-- Every parent of a commit is recorded. -/
def Complete (h : History) : Prop :=
  ∀ child parent, h.MadeFrom child parent → (h.commit? parent).isSome = true

variable {h : History} {id start : ObjectId}

theorem isSome_of_madeFrom {child parent : ObjectId} (edge : h.MadeFrom child parent) :
    (h.commit? child).isSome = true := by
  rw [MadeFrom, parents] at edge
  cases recorded : h.commit? child with
  | none => simp [recorded] at edge
  | some c => rfl

theorem isSome_of_leadsTo (leads : h.LeadsTo start id) (recorded : (h.commit? id).isSome = true) :
    (h.commit? start).isSome = true := by
  rcases leads.cases_head with rfl | ⟨_, edge, -⟩
  · exact recorded
  · exact isSome_of_madeFrom edge

/-- What is gathered from a commit are the recorded commits that it leads to. -/
theorem mem_reachable_iff_leadsTo :
    id ∈ h.reachable start ↔ h.LeadsTo start id ∧ (h.commit? id).isSome = true := by
  rw [mem_reachable_iff]
  constructor
  · intro leads
    refine ⟨?_, (h.mem_commitIds_iff id).1 leads.mem_pool⟩
    induction leads with
    | start _ same => exact List.mem_singleton.1 same ▸ .refl
    | step _ _ edge ih => exact ih.tail edge
  · rintro ⟨leads, recorded⟩
    induction leads with
    | refl => exact .start ((h.mem_commitIds_iff start).2 recorded) (List.mem_singleton_self start)
    | tail _ edge ih =>
      exact .step (ih (isSome_of_madeFrom edge)) ((h.mem_commitIds_iff _).2 recorded) edge

/-! ### Walks that take a commit after all that were made from it -/

/-- Whether no commit of a pool was made from a commit. -/
def Free (h : History) (pool : List ObjectId) (id : ObjectId) : Prop :=
  ∀ child ∈ pool, ¬ h.MadeFrom child id

/-- What holds of a walk wherever it stands. -/
structure Frontier (h : History) (pool waiting : List ObjectId) : Prop where
  /-- What waits and is still in the pool is free. -/
  free : ∀ id ∈ waiting, id ∈ pool → h.Free pool id
  /-- What is free waits. -/
  waits : ∀ id ∈ pool, h.Free pool id → id ∈ waiting
  /-- What lies between two members of the pool is in the pool as well. -/
  between : ∀ first ∈ pool, ∀ last ∈ pool, ∀ id, h.LeadsTo first id → h.LeadsTo id last → id ∈ pool

theorem mem_ready_iff {left : List ObjectId} {parent : ObjectId} :
    parent ∈ h.ready left id ↔ h.MadeFrom id parent ∧ h.Free left parent := by
  simp [ready, MadeFrom, Free]

variable {pool waiting : List ObjectId}

theorem Free.mono {others : List ObjectId} (free : h.Free pool id) (fewer : others ⊆ pool) :
    h.Free others id :=
  fun child mem => free child (fewer mem)

/-- No other member of the pool leads to a free one, for the way there would end with a child of
it. -/
theorem Frontier.not_leadsTo (frontier : h.Frontier pool waiting) (mem : id ∈ pool)
    (free : h.Free pool id)
    {other : ObjectId} (inside : other ∈ pool) (different : other ≠ id) : ¬ h.LeadsTo other id := by
  intro leads
  rcases leads.cases_tail with same | ⟨child, before, edge⟩
  · exact different same.symm
  · exact free child (frontier.between other inside id mem child before (.single edge)) edge

/-- The walk passes what it has taken before. -/
theorem Frontier.skip (frontier : h.Frontier pool (id :: waiting)) (taken : id ∉ pool) :
    h.Frontier pool waiting where
  free other mem := frontier.free other (List.mem_cons_of_mem _ mem)
  waits other mem free := by
    rcases List.mem_cons.1 (frontier.waits other mem free) with rfl | waits
    · exact absurd mem taken
    · exact waits
  between := frontier.between

/-- The walk takes a commit, and those of its parents wait that are free without it. -/
theorem Frontier.take (unique : pool.Nodup) (frontier : h.Frontier pool (id :: waiting))
    (mem : id ∈ pool) :
    h.Frontier (pool.erase id) (h.ready (pool.erase id) id ++ waiting) where
  free other waits inside := by
    rcases List.mem_append.1 waits with ready | before
    · exact (mem_ready_iff.1 ready).2
    · exact (frontier.free other (List.mem_cons_of_mem _ before)
        (List.mem_of_mem_erase inside)).mono List.erase_subset
  waits other left free := by
    obtain ⟨different, inside⟩ := unique.mem_erase_iff.1 left
    by_cases edge : h.MadeFrom id other
    · exact List.mem_append_left _ (mem_ready_iff.2 ⟨edge, free⟩)
    · -- It was free before, for it is no parent of the commit that is taken.
      have before : h.Free pool other := by
        intro child childMem childEdge
        by_cases same : child = id
        · exact edge (same ▸ childEdge)
        · exact free child ((List.mem_erase_of_ne same).2 childMem) childEdge
      rcases List.mem_cons.1 (frontier.waits other inside before) with same | waits
      · exact absurd same different
      · exact List.mem_append_right _ waits
  between first firstMem last lastMem other before after := by
    obtain ⟨different, inside⟩ := unique.mem_erase_iff.1 firstMem
    have still : other ∈ pool :=
      frontier.between first inside last (List.mem_of_mem_erase lastMem) other before after
    refine (List.mem_erase_of_ne ?_).2 still
    rintro rfl
    exact frontier.not_leadsTo mem (frontier.free other List.mem_cons_self mem) inside
      different before

/-- Without cycles some member of a pool is free. -/
theorem Acyclic.exists_free (acyclic : h.Acyclic) (nonempty : pool ≠ []) :
    ∃ id ∈ pool, h.Free pool id := by
  let after : {id // id ∈ pool} → {id // id ∈ pool} → Prop :=
    fun x y => Relation.TransGen h.MadeFrom x.1 y.1
  have : IsTrans _ after := ⟨fun _ _ _ => Relation.TransGen.trans⟩
  have : Std.Irrefl after := ⟨fun x => acyclic x.1⟩
  have founded : WellFounded after := Finite.wellFounded_of_trans_of_irrefl after
  obtain ⟨some, mem⟩ := List.exists_mem_of_ne_nil pool nonempty
  obtain ⟨⟨id, inside⟩, -, newest⟩ := founded.has_min Set.univ ⟨⟨some, mem⟩, trivial⟩
  exact ⟨id, inside, fun child childMem edge => newest ⟨child, childMem⟩ trivial (.single edge)⟩

/-- Without cycles the walk takes every member of the pool. -/
theorem mem_walk_ready (acyclic : h.Acyclic) (unique : pool.Nodup)
    (frontier : h.Frontier pool waiting)
    (mem : id ∈ pool) : id ∈ walk h.ready pool waiting := by
  fun_induction walk h.ready pool waiting with
  | case1 pool =>
    obtain ⟨other, inside, free⟩ := acyclic.exists_free (List.ne_nil_of_mem mem)
    exact absurd (frontier.waits other inside free) List.not_mem_nil
  | case2 pool taken waiting inside _ _ ih =>
    by_cases same : id = taken
    · exact same ▸ List.mem_cons_self
    · have left : id ∈ pool.erase taken := (List.mem_erase_of_ne same).2 mem
      exact List.mem_cons_of_mem _ (ih (unique.erase taken) (frontier.take unique inside) left)
  | case3 pool passed waiting out ih => exact ih unique (frontier.skip out) mem

/-- The walk takes no commit before one that leads to it. -/
theorem pairwise_walk_ready (unique : pool.Nodup) (frontier : h.Frontier pool waiting) :
    (walk h.ready pool waiting).Pairwise fun first second => ¬ h.LeadsTo second first := by
  fun_induction walk h.ready pool waiting with
  | case1 pool => exact .nil
  | case2 pool taken waiting inside _ _ ih =>
    refine List.pairwise_cons.2 ⟨fun later mem => ?_,
      ih (unique.erase taken) (frontier.take unique inside)⟩
    obtain ⟨different, still⟩ := unique.mem_erase_iff.1 (mem_pool_of_mem_walk mem)
    exact frontier.not_leadsTo inside (frontier.free taken List.mem_cons_self inside)
      still different
  | case3 pool passed waiting out ih => exact ih unique (frontier.skip out)

/-! ### What is new -/

/-- The commits that one leads to and another does not, in no particular order. -/
def unknown (h : History) (since upTo : ObjectId) : List ObjectId :=
  (h.reachable upTo).filter fun id => !(h.reachable since).contains id

variable {since upTo : ObjectId}

theorem newCommits_eq :
    h.newCommits since upTo = (walk h.ready (h.unknown since upTo) [upTo]).reverse := rfl

theorem mem_unknown_iff :
    id ∈ h.unknown since upTo ↔ id ∈ h.reachable upTo ∧ id ∉ h.reachable since := by
  simp [unknown]

theorem nodup_unknown : (h.unknown since upTo).Nodup :=
  (h.nodup_reachable upTo).sublist List.filter_sublist

/-- What the newest commit leads to is unknown if it leads to something unknown itself. -/
theorem mem_unknown_of_leadsTo {last : ObjectId} (lastMem : last ∈ h.unknown since upTo)
    (before : h.LeadsTo upTo id)
    (after : h.LeadsTo id last) : id ∈ h.unknown since upTo := by
  obtain ⟨reached, new⟩ := mem_unknown_iff.1 lastMem
  have recorded : (h.commit? last).isSome = true := (mem_reachable_iff_leadsTo.1 reached).2
  refine mem_unknown_iff.2 ⟨mem_reachable_iff_leadsTo.2 ⟨before, isSome_of_leadsTo after recorded⟩,
    fun known => new ?_⟩
  exact mem_reachable_iff_leadsTo.2 ⟨(mem_reachable_iff_leadsTo.1 known).1.trans after, recorded⟩

/-- At the start only the newest commit waits, which leads to all that is unknown. -/
theorem frontier_start (acyclic : h.Acyclic) : h.Frontier (h.unknown since upTo) [upTo] where
  free other mem _ child childMem edge := by
    rw [List.mem_singleton.1 mem] at edge
    have leads : h.LeadsTo upTo child :=
      (mem_reachable_iff_leadsTo.1 (mem_unknown_iff.1 childMem).1).1
    exact acyclic upTo (Relation.TransGen.tail' leads edge)
  waits other mem free := by
    obtain ⟨leads, -⟩ := mem_reachable_iff_leadsTo.1 (mem_unknown_iff.1 mem).1
    rcases leads.cases_tail with same | ⟨child, before, edge⟩
    · exact List.mem_singleton.2 same
    · exact absurd edge (free child (mem_unknown_of_leadsTo mem before (.single edge)))
  between first firstMem last lastMem other before after := by
    obtain ⟨leads, -⟩ := mem_reachable_iff_leadsTo.1 (mem_unknown_iff.1 firstMem).1
    exact mem_unknown_of_leadsTo lastMem (leads.trans before) after

/-- What is new is listed, and nothing else. -/
theorem mem_newCommits_iff (acyclic : h.Acyclic) :
    id ∈ h.newCommits since upTo ↔
    (h.commit? id).isSome = true ∧ h.LeadsTo upTo id ∧ ¬ h.LeadsTo since id := by
  have walked : id ∈ walk h.ready (h.unknown since upTo) [upTo] ↔ id ∈ h.unknown since upTo :=
    ⟨mem_pool_of_mem_walk, mem_walk_ready acyclic nodup_unknown (frontier_start acyclic)⟩
  rw [newCommits_eq, List.mem_reverse, walked, mem_unknown_iff, mem_reachable_iff_leadsTo,
    mem_reachable_iff_leadsTo]
  tauto

/-- No commit stands before one that it leads to. -/
theorem pairwise_newCommits (acyclic : h.Acyclic) :
    (h.newCommits since upTo).Pairwise fun first second => ¬ h.LeadsTo first second := by
  rw [newCommits_eq, List.pairwise_reverse]
  exact pairwise_walk_ready nodup_unknown (frontier_start acyclic)

theorem isSome_of_mem_newCommits (mem : id ∈ h.newCommits since upTo) :
    (h.commit? id).isSome = true := by
  rw [newCommits_eq, List.mem_reverse] at mem
  exact (mem_reachable_iff_leadsTo.1 (mem_unknown_iff.1 (mem_pool_of_mem_walk mem)).1).2

theorem commitsBetween_eq_ok {found : List (ObjectId × Commit)}
    (listed : h.commitsBetween since upTo = .ok found) :
    found = (h.newCommits since upTo).filterMap fun id => (h.commit? id).map fun c => (id, c) := by
  rw [commitsBetween] at listed
  split at listed
  · cases listed
  · exact (Except.ok.inj listed).symm

theorem map_fst_commitsBetween {found : List (ObjectId × Commit)}
    (listed : h.commitsBetween since upTo = .ok found) :
    found.map Prod.fst = h.newCommits since upTo := by
  rw [commitsBetween_eq_ok listed, List.map_filterMap]
  have kept : ∀ id ∈ h.newCommits since upTo,
      ((h.commit? id).map fun c => (id, c)).map Prod.fst = some id := by
    intro id mem
    obtain ⟨c, recorded⟩ := Option.isSome_iff_exists.1 (isSome_of_mem_newCommits mem)
    rw [recorded]
    rfl
  rw [List.filterMap_congr kept, List.filterMap_some]

theorem mem_commitsBetween_iff {found : List (ObjectId × Commit)}
    (listed : h.commitsBetween since upTo = .ok found)
    {c : Commit} : (id, c) ∈ found ↔ id ∈ h.newCommits since upTo ∧ h.commit? id = some c := by
  rw [commitsBetween_eq_ok listed, List.mem_filterMap]
  constructor
  · rintro ⟨other, mem, made⟩
    obtain ⟨_, recorded, eq⟩ := Option.map_eq_some_iff.1 made
    obtain ⟨rfl, rfl⟩ := Prod.mk.inj eq
    exact ⟨mem, recorded⟩
  · rintro ⟨mem, recorded⟩
    exact ⟨id, mem, by rw [recorded]; rfl⟩

/-! ### Ranges -/

theorem missingParent?_eq_none (complete : h.Complete) (ids : List ObjectId) :
    h.missingParent? ids = none := by
  rw [missingParent?, List.findSome?_eq_none_iff]
  intro id _
  rw [List.find?_eq_none]
  intro parent edge
  simp [Option.isSome_iff_ne_none.1 (complete id parent edge)]

theorem exists_commitsBetween (complete : h.Complete) (since upTo : ObjectId) :
    ∃ found, h.commitsBetween since upTo = .ok found := by
  rw [commitsBetween, missingParent?_eq_none complete]
  exact ⟨_, rfl⟩

/-- **What a range stands for.** In a history without cycles that misses no parent, a range whose
sides name two commits stands for the commits that the second leads to and the first does not. Each
of them is listed once, and none before one that it leads to. When the first leads to the second,
there is none. -/
theorem commitsIn_new (acyclic : h.Acyclic) (complete : h.Complete) {range : String}
    {before after : List Char}
    (divided : range.toList = before ++ dots ++ after) (first : ¬ dots <:+: before ++ ['.'])
    {a b : ObjectId × Commit} (since : h.findCommit (sideOf before) = .ok a)
    (upTo : h.findCommit (sideOf after) = .ok b) :
    ∃ found, h.commitsIn range = .ok found ∧
      (found.map Prod.fst).Nodup ∧
      (∀ id c, (id, c) ∈ found ↔ h.commit? id = some c ∧ h.LeadsTo b.1 id ∧ ¬ h.LeadsTo a.1 id) ∧
      (found.map Prod.fst).Pairwise (fun x y => ¬ h.LeadsTo x y) ∧
      (h.LeadsTo a.1 b.1 → found = []) := by
  obtain ⟨found, listed⟩ := exists_commitsBetween complete a.1 b.1
  have listing : ∀ id c, (id, c) ∈ found ↔
      h.commit? id = some c ∧ h.LeadsTo b.1 id ∧ ¬ h.LeadsTo a.1 id := by
    intro id c
    rw [mem_commitsBetween_iff listed, mem_newCommits_iff acyclic]
    constructor
    · rintro ⟨⟨-, new⟩, recorded⟩
      exact ⟨recorded, new⟩
    · rintro ⟨recorded, new⟩
      exact ⟨⟨Option.isSome_of_eq_some recorded, new⟩, recorded⟩
  refine ⟨found, ?_, ?_, listing, ?_, ?_⟩
  · rw [commitsIn_of_found (sides?_of_dots divided first) since upTo, listed]
  · rw [map_fst_commitsBetween listed]
    exact h.nodup_newCommits a.1 b.1
  · rw [map_fst_commitsBetween listed]
    exact pairwise_newCommits acyclic
  · intro known
    rw [List.eq_nil_iff_forall_not_mem]
    rintro ⟨id, c⟩ mem
    obtain ⟨-, leads, unknown⟩ := (listing id c).1 mem
    exact unknown (known.trans leads)

/-! ### A history with a merge -/

/-- A history has no cycles if every commit stands before its parents in some list. -/
theorem acyclic_of_idxOf {ids : List ObjectId}
    (earlier : ∀ child parent, h.MadeFrom child parent → ids.idxOf child < ids.idxOf parent) :
    h.Acyclic := by
  have below : ∀ x y, Relation.TransGen h.MadeFrom x y → ids.idxOf x < ids.idxOf y := by
    intro x y path
    induction path with
    | single edge => exact earlier _ _ edge
    | tail _ edge ih => exact ih.trans (earlier _ _ edge)
  exact fun id cycle => absurd (below id id cycle) (Nat.lt_irrefl _)

/-- The first commit. -/
def rootId : ObjectId := ⟨"00000000000000000000000000000000000000b0", by decide, by decide⟩

/-- A commit made from the first. -/
def leftId : ObjectId := ⟨"00000000000000000000000000000000000000b1", by decide, by decide⟩

/-- Another commit made from the first. -/
def rightId : ObjectId := ⟨"00000000000000000000000000000000000000b2", by decide, by decide⟩

/-- The commit made from both of these. -/
def mergeId : ObjectId := ⟨"00000000000000000000000000000000000000b3", by decide, by decide⟩

/-- A commit with some parents, and with a message that is no text. -/
def commitFrom (parents : List ObjectId) : Commit := ⟨rootId, parents, "fix: caf".toUTF8.push 0xe9⟩

/-- The history of these commits, with a name for the left one. -/
def merged : History where
  objects := [(mergeId, .commit (commitFrom [leftId, rightId])),
    (rightId, .commit (commitFrom [rootId])),
    (leftId, .commit (commitFrom [rootId])), (rootId, .commit (commitFrom []))]
  nodup := by decide
  references := [("refs/heads/left", leftId)]
  head := .detached mergeId

/-- Each commit stands before its parents, which are all recorded. -/
theorem merged_edges {child parent : ObjectId} (edge : merged.MadeFrom child parent) :
    parent ∈ merged.commitIds ∧ merged.commitIds.idxOf child < merged.commitIds.idxOf parent := by
  have recorded : child ∈ merged.commitIds :=
    (merged.mem_commitIds_iff child).2 (isSome_of_madeFrom edge)
  have all : ∀ child ∈ merged.commitIds, ∀ parent ∈ merged.parents child,
      parent ∈ merged.commitIds ∧
      merged.commitIds.idxOf child < merged.commitIds.idxOf parent := by decide
  exact all child recorded parent edge

theorem acyclic_merged : merged.Acyclic := acyclic_of_idxOf fun _ _ edge => (merged_edges edge).2

theorem complete_merged : merged.Complete := fun _ parent edge =>
  (merged.mem_commitIds_iff parent).1 (merged_edges edge).1

theorem divided_merged : "left..".toList = "left".toList ++ dots ++ [] := by decide

theorem findCommit_left_merged :
    merged.findCommit (sideOf "left".toList) = .ok (leftId, commitFrom [rootId]) := by
  decide +kernel

theorem findCommit_head_merged :
    merged.findCommit (sideOf []) = .ok (mergeId, commitFrom [leftId, rightId]) := by
  decide +kernel

/-- The range from the left commit to the head stands for the right commit and then the merge,
although the left commit is no ancestor of the right one. -/
theorem commitsIn_new_merged :
    merged.Acyclic ∧ merged.Complete ∧ ∃ found, merged.commitsIn "left.." = .ok found ∧
      (rightId, commitFrom [rootId]) ∈ found ∧ (mergeId, commitFrom [leftId, rightId]) ∈ found ∧
      (leftId, commitFrom [rootId]) ∉ found ∧ (rootId, commitFrom []) ∉ found ∧
      ¬ [mergeId, rightId].Sublist (found.map Prod.fst) := by
  have known : merged.reachable leftId = [leftId, rootId] := by cbv
  have outside : ∀ id, (merged.commit? id).isSome = true → id ∉ [leftId, rootId] →
      ¬ merged.LeadsTo leftId id := by
    intro id recorded other leads
    exact other (known ▸ mem_reachable_iff_leadsTo.2 ⟨leads, recorded⟩)
  have right : merged.LeadsTo mergeId rightId :=
    .single (show rightId ∈ merged.parents mergeId by decide)
  have root : merged.LeadsTo leftId rootId :=
    .single (show rootId ∈ merged.parents leftId by decide)
  obtain ⟨found, listed, -, listing, order, -⟩ :=
    commitsIn_new acyclic_merged complete_merged divided_merged
    (by decide) findCommit_left_merged findCommit_head_merged
  refine ⟨acyclic_merged, complete_merged, found, listed, ?_, ?_, ?_, ?_, ?_⟩
  · exact (listing _ _).2 ⟨rfl, right, outside rightId rfl (by decide)⟩
  · exact (listing _ _).2 ⟨rfl, .refl, outside mergeId rfl (by decide)⟩
  · exact fun mem => ((listing _ _).1 mem).2.2 .refl
  · exact fun mem => ((listing _ _).1 mem).2.2 root
  · exact fun before => List.pairwise_iff_forall_sublist.1 order before right

end History

end CommitLint
