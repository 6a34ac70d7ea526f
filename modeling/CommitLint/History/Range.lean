import CommitLint.Failure
import CommitLint.History.Revision
import CommitLint.History.Walk

/-!
# Ranges of commits

A range names two commits and stands for what is new in the second: the commits it leads to over
parents, other than those the first leads to. `History.commitsIn` lists them so that parents stand
before what was made from them. A text without two dots is no range and stands for the one commit
that it names.
-/

namespace CommitLint

namespace History

/-! ### New commits -/

/-- The commits that a commit leads to over parents, itself included. -/
def reachable (h : History) (id : ObjectId) : List ObjectId :=
  walk (fun _ c => h.parents c) h.commitIds [id]

/-- The parents of a commit that no commit of those left was made from, the last parent first. -/
def ready (h : History) (left : List ObjectId) (id : ObjectId) : List ObjectId :=
  (h.parents id).reverse.filter fun p => left.all fun c => !(h.parents c).contains p

/-- The commits that a commit leads to and another does not, parents first. -/
def newCommits (h : History) (since upTo : ObjectId) : List ObjectId :=
  let known := h.reachable since
  let pool := (h.reachable upTo).filter fun id => !known.contains id
  (walk h.ready pool [upTo]).reverse

/-- The first parent that is not recorded, of the newest commit of some that has such a parent. -/
def missingParent? (h : History) (ids : List ObjectId) : Option ObjectId :=
  (h.commitIds.filter ids.contains).findSome? fun id => (h.parents id).find? fun p =>
    (h.commit? p).isNone

theorem mem_reachable_iff (h : History) (start id : ObjectId) :
    id ∈ h.reachable start ↔ Leads h.parents h.commitIds [start] id :=
  mem_walk_iff h.nodup_commitIds id

theorem nodup_reachable (h : History) (start : ObjectId) : (h.reachable start).Nodup :=
  nodup_walk h.nodup_commitIds

theorem nodup_newCommits (h : History) (since upTo : ObjectId) : (h.newCommits since upTo).Nodup :=
  List.pairwise_reverse.2 ((nodup_walk ((h.nodup_reachable upTo).sublist List.filter_sublist)).imp
    Ne.symm)

/-! ### Commits by name -/

/-- The commit that a revision names, or the failure told with the revision. -/
def findCommit (h : History) (revision : String) : Except HistoryError (ObjectId × Commit) :=
  (h.resolveCommit revision).mapError fun e => .invalidReference (revision ++ ": " ++ e.message)

/-- One side of a range: what is left out stands for the head. -/
def sideOf (cs : List Char) : String := if cs = [] then headName else String.ofList cs

/-- The two sides of a range, which two dots divide. -/
def sides? (range : String) : Option (String × String) :=
  (Text.splitAtFirst? ['.', '.'] range.toList).map fun (since, upTo) => (sideOf since, sideOf upTo)

/-- The commits between two commits. The walk to them fails at a parent that is not recorded. -/
def commitsBetween (h : History) (since upTo : ObjectId) :
    Except HistoryError (List (ObjectId × Commit)) :=
  match h.missingParent? (h.reachable since ++ h.reachable upTo) with
  | some id => .error (.commandFailed "revwalk" (RevisionError.missing id).message)
  | none => .ok ((h.newCommits since upTo).filterMap fun id => (h.commit? id).map fun c => (id, c))

/-- The commits that a range stands for, or the one commit that a text without dots names. -/
def commitsIn (h : History) (range : String) : Except HistoryError (List (ObjectId × Commit)) := do
  match sides? range with
  | none => return [← h.findCommit range]
  | some (since, upTo) =>
    let (since, _) ← h.findCommit since
    let (upTo, _) ← h.findCommit upTo
    h.commitsBetween since upTo

theorem commitsIn_of_sides? {h : History} {range since upTo : String}
    (sides : sides? range = some (since, upTo)) :
    h.commitsIn range = (do
      let (since, _) ← h.findCommit since
      let (upTo, _) ← h.findCommit upTo
      h.commitsBetween since upTo) := by
  rw [commitsIn, sides]

theorem commitsIn_of_no_sides {h : History} {range : String} (sides : sides? range = none) :
    h.commitsIn range = (h.findCommit range).map fun found => [found] := by
  rw [commitsIn, sides]
  cases h.findCommit range <;> rfl

end History

end CommitLint
