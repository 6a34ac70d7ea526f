/-!
# Walks

A walk takes the members of a pool one after the other. Each time it takes the first that waits and
is still in the pool, and puts before those that wait what follows it, which may depend on what is
left in the pool. When what follows does not depend on that, the walk takes just what paths within
the pool lead to (`mem_walk_iff`).
-/

namespace CommitLint

/-- The members of a pool in the order in which a walk takes them. -/
def walk {α : Type} [DecidableEq α] (following : List α → α → List α) (pool waiting : List α) :
    List α :=
  match waiting with
  | [] => []
  | a :: waiting =>
    if h : a ∈ pool then
      have := List.length_erase_of_mem h
      have := List.length_pos_of_mem h
      a :: walk following (pool.erase a) (following (pool.erase a) a ++ waiting)
    else walk following pool waiting
termination_by (pool.length, waiting.length)

/-- What paths within a pool lead to from given starts. -/
inductive Leads {α : Type} (next : α → List α) (pool starts : List α) : α → Prop
  /-- A start leads to itself. -/
  | start {a : α} : a ∈ pool → a ∈ starts → Leads next pool starts a
  /-- A path goes on to what comes next. -/
  | step {a b : α} : Leads next pool starts a → b ∈ pool → b ∈ next a → Leads next pool starts b

variable {α : Type}

theorem Leads.mem_pool {next : α → List α} {pool starts : List α} {a : α}
    (h : Leads next pool starts a) : a ∈ pool := by
  cases h with
  | start mem _ => exact mem
  | step _ mem _ => exact mem

theorem not_leads_nil {next : α → List α} {pool : List α} {a : α} : ¬Leads next pool [] a := by
  intro h
  induction h with
  | start _ mem => simp at mem
  | step _ _ _ ih => exact ih

/-- A start outside the pool leads nowhere. -/
theorem leads_cons_of_not_mem {next : α → List α} {pool starts : List α} {a b : α}
    (out : a ∉ pool) :
    Leads next pool (a :: starts) b ↔ Leads next pool starts b := by
  constructor
  · intro h
    induction h with
    | @start c mem start =>
      rcases List.mem_cons.1 start with rfl | start
      · exact absurd mem out
      · exact .start mem start
    | step _ mem edge ih => exact .step ih mem edge
  · intro h
    induction h with
    | start mem start => exact .start mem (List.mem_cons_of_mem _ start)
    | step _ mem edge ih => exact .step ih mem edge

variable [DecidableEq α]

/-- A start in the pool leads to itself, and else to where what comes next leads without it. -/
theorem leads_cons_of_mem {next : α → List α} {pool starts : List α} {a b : α} (mem : a ∈ pool) :
    Leads next pool (a :: starts) b ↔ b = a ∨ Leads next (pool.erase a) (next a ++ starts) b := by
  constructor
  · intro h
    induction h with
    | @start c inside start =>
      by_cases same : c = a
      · exact .inl same
      · refine .inr (.start ((List.mem_erase_of_ne same).2 inside) ?_)
        rcases List.mem_cons.1 start with eq | start
        · exact absurd eq same
        · exact List.mem_append_right _ start
    | @step c d _ inside edge ih =>
      by_cases same : d = a
      · exact .inl same
      · have left : d ∈ pool.erase a := (List.mem_erase_of_ne same).2 inside
        rcases ih with rfl | ih
        · exact .inr (.start left (List.mem_append_left _ edge))
        · exact .inr (.step ih left edge)
  · rintro (rfl | h)
    · exact .start mem (List.mem_cons_self ..)
    · induction h with
      | @start c inside start =>
        have inside := List.mem_of_mem_erase inside
        rcases List.mem_append.1 start with edge | start
        · exact .step (.start mem (List.mem_cons_self ..)) inside edge
        · exact .start inside (List.mem_cons_of_mem _ start)
      | step _ inside edge ih => exact .step ih (List.mem_of_mem_erase inside) edge

/-- A walk takes just what paths within the pool lead to. -/
theorem mem_walk_iff {next : α → List α} {pool waiting : List α} (unique : pool.Nodup) (b : α) :
    b ∈ walk (fun _ a => next a) pool waiting ↔ Leads next pool waiting b := by
  fun_induction walk (fun _ a => next a) pool waiting with
  | case1 pool => simpa using not_leads_nil
  | case2 pool a waiting mem _ _ ih =>
    rw [List.mem_cons, ih (unique.erase a), leads_cons_of_mem mem]
  | case3 pool a waiting out ih => rw [ih unique, leads_cons_of_not_mem out]

theorem mem_pool_of_mem_walk {following : List α → α → List α} {pool waiting : List α} {b : α}
    (h : b ∈ walk following pool waiting) : b ∈ pool := by
  fun_induction walk following pool waiting with
  | case1 pool => simp at h
  | case2 pool a waiting mem _ _ ih =>
    rcases List.mem_cons.1 h with rfl | h
    · exact mem
    · exact List.mem_of_mem_erase (ih h)
  | case3 pool a waiting out ih => exact ih h

/-- A walk takes nothing twice. -/
theorem nodup_walk {following : List α → α → List α} {pool waiting : List α} (unique : pool.Nodup) :
    (walk following pool waiting).Nodup := by
  fun_induction walk following pool waiting with
  | case1 pool => simp
  | case2 pool a waiting mem _ _ ih =>
    exact List.nodup_cons.2 ⟨fun h => unique.not_mem_erase (mem_pool_of_mem_walk h),
      ih (unique.erase a)⟩
  | case3 pool a waiting out ih => exact ih unique

end CommitLint
