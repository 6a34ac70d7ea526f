import CommitLint.Proofs.RecordedMessages
import Mathlib

/-!
# Named commits

What a text names in a history. A revision is followed from one object to the next; all of them are
recorded, so that a commit that is found by any name is found by its identifier as well. A range has
two sides when two dots stand anywhere in it, and is cut at the first of them.

* `records_of_resolve` — what a revision names is recorded;
* `findCommit_digits_of_findCommit` — a commit is found again by its identifier;
* `sides?_eq_none_iff`, `sides?_of_dots` — the sides of a range.
-/

namespace CommitLint

/-! ### Texts cut at a mark -/

namespace Text

variable {mark : List Char}

/-- A text is cut nowhere exactly when the mark stands nowhere in it. -/
theorem splitAtFirst?_eq_none_iff (nonempty : mark ≠ []) (cs : List Char) :
    splitAtFirst? mark cs = none ↔ ¬ mark <:+: cs := by
  induction cs with
  | nil => simp [splitAtFirst?, nonempty]
  | cons c cs ih =>
    rw [splitAtFirst?, List.infix_cons_iff]
    by_cases start : mark.isPrefixOf (c :: cs) = true
    · simp [start, List.isPrefixOf_iff_prefix.1 start]
    · rw [if_neg start, Option.map_eq_none_iff, ih, ← List.isPrefixOf_iff_prefix]
      simp [start]

/-- A text is cut where a mark stands that does not begin any earlier. -/
theorem splitAtFirst?_append {before : List Char} (after : List Char) (nonempty : mark ≠ [])
    (first : ¬ mark <:+: before ++ mark.dropLast) :
    splitAtFirst? mark (before ++ mark ++ after) = some (before, after) := by
  induction before with
  | nil =>
    obtain ⟨c, cs, rfl⟩ := List.exists_cons_of_ne_nil nonempty
    simp [splitAtFirst?]
  | cons c before ih =>
    rw [List.cons_append, List.infix_cons_iff, not_or] at first
    have later : mark.isPrefixOf (c :: (before ++ mark ++ after)) = false := by
      rw [← Bool.not_eq_true, List.isPrefixOf_iff_prefix]
      intro start
      -- A mark at the start would end before the last character of the mark that stands there.
      have other : c :: (before ++ mark.dropLast) <+: c :: (before ++ mark ++ after) := by
        rw [List.prefix_cons_inj, List.append_assoc]
        exact (List.prefix_append_right_inj before).2
          ((List.dropLast_prefix mark).trans (List.prefix_append ..))
      refine first.1 (List.prefix_of_prefix_length_le start other ?_)
      simp only [List.length_cons, List.length_append, List.length_dropLast]
      omega
    rw [List.cons_append, List.cons_append, splitAtFirst?, later,
      if_neg Bool.false_ne_true, ih first.2]
    rfl

end Text

namespace History

/-! ### Sides of a range -/

/-- Two dots, which divide the sides of a range. -/
def dots : List Char := ['.', '.']

/-- A text has no sides exactly when no two dots stand in it. -/
theorem sides?_eq_none_iff (range : String) : sides? range = none ↔ ¬ dots <:+: range.toList := by
  rw [sides?, Option.map_eq_none_iff]
  exact Text.splitAtFirst?_eq_none_iff (by decide) _

/-- The sides of a text are what stands before and after its first two dots. -/
theorem sides?_of_dots {range : String} {before after : List Char}
    (divided : range.toList = before ++ dots ++ after) (first : ¬ dots <:+: before ++ ['.']) :
    sides? range = some (sideOf before, sideOf after) := by
  have cut : Text.splitAtFirst? dots range.toList = some (before, after) := by
    rw [divided]
    exact Text.splitAtFirst?_append after (by decide) first
  show (Text.splitAtFirst? dots range.toList).map _ = _
  rw [cut]
  rfl

/-- Of three dots the third belongs to the second side, and a side that is left out is the head. -/
example : sides? "a...b" = some ("a", ".b") ∧ sides? "..b" = some ("HEAD", "b") ∧
    sides? "a.b" = none := by
  decide +kernel

/-! ### Recorded objects -/

open Revision

/-- Whether an entry is what a history records. -/
def Records (h : History) (e : Entry) : Prop := h.object? e.1 = some e.2

variable {h : History} {e e' : Entry} {revision name : String}

theorem records_of_mem (mem : e ∈ h.objects) : h.Records e := by
  cases lookup : h.objects.find? fun other => other.1 = e.1 with
  | none => simpa using List.find?_eq_none.1 lookup e mem
  | some other =>
    have name : other.1 = e.1 := by simpa using List.find?_some lookup
    -- No identifier stands twice, so that the two entries are the same.
    have same : other = e :=
      List.inj_on_of_nodup_map h.nodup (List.mem_of_find?_eq_some lookup) mem name
    rw [Records, object?, lookup, same, Option.map_some]

theorem records_of_stored {id : ObjectId} (found : h.entry? id = some e) : h.Records e := by
  obtain ⟨o, stored, rfl⟩ := Option.map_eq_some_iff.1 found
  exact stored

theorem records_of_entry {id : ObjectId} (found : h.entry id = .ok e) : h.Records e := by
  rw [entry] at found
  split at found
  · next stored => exact Except.ok.inj found ▸ records_of_stored stored
  · cases found

/-! ### Names -/

theorem records_of_byId? (found : h.byId? name = some e) : h.Records e := by
  obtain ⟨id, -, stored⟩ := Option.bind_eq_some_iff.1 found
  exact records_of_stored stored

theorem records_of_byReference? (found : h.byReference? revision name = .ok (some e)) :
    h.Records e := by
  rw [byReference?] at found
  split at found
  · obtain ⟨other, stored, same⟩ := map_eq_ok_iff.1 found
    exact Option.some.inj same ▸ records_of_entry stored
  · split at found <;> cases found

theorem records_of_byPrefix? {digits : List Char} (found : h.byPrefix? digits = .ok (some e)) :
    h.Records e := by
  rw [byPrefix?] at found
  split at found
  · cases found
  · split at found
    · cases found
    · split at found
      · cases found
      · next only =>
        obtain rfl := Option.some.inj (Except.ok.inj found)
        exact records_of_mem (List.mem_filter.1 (only ▸ List.mem_singleton_self _)).1
      · cases found

/-- The ways in which a name is found. -/
theorem find_cases (found : h.find revision name = .ok e) :
    h.byId? name = some e ∨ h.byReference? revision name = .ok (some e) ∨
      ∃ digits, h.byPrefix? digits = .ok (some e) := by
  unfold find at found
  simp only [bind, Except.bind, pure, Except.pure, throw, throwThe, MonadExceptOf.throw] at found
  split at found
  · cases found
  · split at found
    · next byId => exact .inl (Except.ok.inj found ▸ byId)
    · split at found
      · cases found
      · next byReference =>
        split at found
        · exact .inr (.inl (Except.ok.inj found ▸ byReference))
        · -- What is left are starts of identifiers: the name itself if it is short, or what it
          -- describes.
          refine .inr (.inr ?_)
          repeat' split at found
          any_goals cases found
          all_goals exact ⟨_, by assumption⟩

theorem records_of_find (found : h.find revision name = .ok e) : h.Records e := by
  rcases find_cases found with byId | byReference | ⟨digits, byPrefix⟩
  · exact records_of_byId? byId
  · exact records_of_byReference? byReference
  · exact records_of_byPrefix? byPrefix

/-! ### Steps -/

theorem records_of_untagged? {n : Nat} (start : h.Records e) (found : h.untagged? n e = some e') :
    h.Records e' := by
  induction n generalizing e with
  | zero => cases found
  | succ n ih =>
    obtain ⟨id, o⟩ := e
    cases o with
    | tag target =>
      obtain ⟨next, stored, found⟩ := Option.bind_eq_some_iff.1 found
      exact ih (records_of_stored stored) found
    | commit _ | tree | blob => exact Option.some.inj found ▸ start

theorem records_of_peel? {kind : ObjectKind} (start : h.Records e)
    (found : h.peel? kind e = some e') :
    h.Records e' := by
  unfold peel? at found
  split at found
  · exact Option.some.inj found ▸ start
  · split at found
    · cases found
    · next other untagged =>
      have there : h.Records other := records_of_untagged? start untagged
      split at found
      · exact Option.some.inj found ▸ there
      · split at found
        · exact records_of_stored found
        · cases found

theorem records_of_commitOf {id : ObjectId} {c : Commit} (start : h.Records e)
    (found : h.commitOf e = some (id, c)) : h.Records (id, .commit c) := by
  rw [commitOf] at found
  split at found
  · next peeled =>
    obtain ⟨rfl, rfl⟩ := Prod.mk.inj (Option.some.inj found)
    exact records_of_peel? start peeled
  · cases found

theorem records_of_parent {c : Commit} {n : Nat} (found : h.parent c n = .ok e) : h.Records e := by
  rw [parent] at found
  split at found
  · exact records_of_entry found
  · cases found

theorem records_of_ancestor {n : Nat} (start : h.Records e)
    (found : h.ancestor revision n e = .ok e') :
    h.Records e' := by
  induction n generalizing e with
  | zero =>
    rw [ancestor] at found
    split at found
    · next commit => exact Except.ok.inj found ▸ records_of_commitOf start commit
    · cases found
  | succ n ih =>
    rw [ancestor] at found
    split at found
    · obtain ⟨next, first, rest⟩ := bind_eq_ok_iff.1 found
      exact ih (records_of_parent first) rest
    · cases found

/-- A step leads from one recorded object to another. -/
theorem records_of_step {s : Step} (start : h.Records e) (found : h.step revision e s = .ok e') :
    h.Records e' := by
  unfold step at found
  split at found
  · split at found
    · next commit => exact Except.ok.inj found ▸ records_of_commitOf start commit
    · exact records_of_parent found
    · cases found
  · exact records_of_ancestor start found
  · split at found
    · next peeled => exact Except.ok.inj found ▸ records_of_peel? start peeled
    · cases found
  · split at found
    · next untagged => exact Except.ok.inj found ▸ records_of_untagged? start untagged
    · cases found
  all_goals cases found

/-- So do any number of steps. -/
theorem records_of_steps {ss : List Step} (start : h.Records e)
    (found : ss.foldlM (h.step revision) e = .ok e') : h.Records e' := by
  induction ss generalizing e with
  | nil => exact Except.ok.inj found ▸ start
  | cons s ss ih =>
    rw [List.foldlM_cons, bind_eq_ok_iff] at found
    obtain ⟨next, first, rest⟩ := found
    exact ih (records_of_step start first) rest

/-! ### Revisions -/

theorem records_of_resolve (found : h.resolve revision = .ok e) : h.Records e := by
  unfold resolve at found
  simp only [bind, Except.bind, throw, throwThe, MonadExceptOf.throw] at found
  repeat' split at found
  any_goals cases found
  next named => exact records_of_steps (records_of_find named) found

theorem object?_of_findCommit {id : ObjectId} {c : Commit}
    (found : h.findCommit revision = .ok (id, c)) :
    h.object? id = some (.commit c) := by
  rw [findCommit, mapError_eq_ok_iff, resolveCommit, bind_eq_ok_iff] at found
  obtain ⟨start, resolved, named⟩ := found
  have recorded : h.Records start := records_of_resolve resolved
  split at named
  · next commit =>
    obtain rfl := Except.ok.inj named
    exact records_of_commitOf recorded commit
  · cases named

/-- A commit that is found by any name is found by its identifier. -/
theorem findCommit_digits_of_findCommit {found : ObjectId × Commit}
    (named : h.findCommit revision = .ok found) :
    h.findCommit found.1.digits = .ok found :=
  findCommit_digits (object?_of_findCommit named)

end History

end CommitLint
