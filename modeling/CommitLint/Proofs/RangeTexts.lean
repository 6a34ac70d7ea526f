import CommitLint.Proofs.NewCommits
import CommitLint.Proofs.UpwardPaths
import Mathlib

/-!
# Texts of ranges

What a text with two dots in it stands for. It is cut at its first two dots, and a side that is left
out is the head; of two sides that name nothing the first is reported. A side never starts with a
dot or has two dots in it: no reference has such a name, no identifier has a dot, and no step from
one object to another has one. So a text with three dots in a row, or with two dots for a second
time, stands for nothing.

* `exists_first_dots` — where a text is cut;
* `resolve_of_refused` — what a side cannot be;
* `refused_of_three` — of three dots the third is left to the second side;
* `range_sides` — what a text with two dots stands for.
-/

namespace CommitLint

/-! ### The first of several marks -/

/-- No mark begins before the place where a text is cut. -/
theorem Text.not_infix_of_splitAtFirst? {mark cs before after : List Char} (nonempty : mark ≠ [])
    (cut : splitAtFirst? mark cs = some (before, after)) : ¬ mark <:+: before ++ mark.dropLast := by
  induction cs generalizing before with
  | nil => cases cut
  | cons c cs ih =>
    have whole := eq_append_of_splitAtFirst? cut
    rw [splitAtFirst?] at cut
    split at cut
    · obtain ⟨rfl, -⟩ := Prod.mk.inj (Option.some.inj cut)
      intro inside
      have := inside.length_le
      have := List.length_pos_of_ne_nil nonempty
      simp only [List.nil_append, List.length_dropLast] at *
      omega
    · next later =>
      obtain ⟨⟨u, v⟩, found, eq⟩ := Option.map_eq_some_iff.1 cut
      obtain ⟨rfl, rfl⟩ := Prod.mk.inj eq
      rw [List.cons_append, List.infix_cons_iff, not_or]
      refine ⟨fun start => later ?_, ih found⟩
      -- A mark that begins here would still do so in the whole text.
      rw [List.isPrefixOf_iff_prefix, whole, List.append_assoc]
      refine start.trans ?_
      rw [List.cons_append, List.prefix_cons_inj]
      exact (List.prefix_append_right_inj u).2
        ((List.dropLast_prefix mark).trans (List.prefix_append ..))

namespace History

/-- A text with two dots is cut where they stand first. -/
theorem exists_first_dots {cs : List Char} (divided : dots <:+: cs) :
    ∃ before after, cs = before ++ dots ++ after ∧ ¬ dots <:+: before ++ ['.'] := by
  cases cut : Text.splitAtFirst? dots cs with
  | none => exact absurd divided ((Text.splitAtFirst?_eq_none_iff (by decide) cs).1 cut)
  | some sides =>
    obtain ⟨before, after⟩ := sides
    exact ⟨before, after, Text.eq_append_of_splitAtFirst? cut,
      Text.not_infix_of_splitAtFirst? (by decide) cut⟩

/-! ### What no side can be -/

/-- Whether a text starts with a dot or has two dots in it. -/
def Refused (cs : List Char) : Prop := cs.head? = some '.' ∨ dots <:+: cs

/-- Three dots after which two do not stand earlier: the second side is refused. -/
theorem refused_of_three {before after : List Char} (first : ¬ dots <:+: before ++ ['.'])
    (three : ['.', '.', '.'] <:+: before ++ dots ++ after) : Refused after := by
  induction before with
  | nil =>
    have split : ['.', '.', '.'] <:+: '.' :: '.' :: after := three
    rw [List.infix_cons_iff, List.infix_cons_iff] at split
    rcases split with start | start | inside
    · obtain ⟨rest, eq⟩ := start
      obtain rfl : '.' :: rest = after := by simpa using eq
      exact .inl rfl
    · obtain ⟨rest, eq⟩ := start
      obtain rfl : '.' :: '.' :: rest = after := by simpa using eq
      exact .inl rfl
    · exact .inr ((List.infix_append [] dots ['.']).trans inside)
  | cons c before ih =>
    rw [List.cons_append, List.infix_cons_iff, not_or] at first
    rw [List.cons_append, List.cons_append, List.infix_cons_iff] at three
    refine ih first.2 (three.resolve_left fun start => first.1 ?_)
    -- Two dots at the front would already be the first two.
    obtain ⟨rest, eq⟩ := start
    cases before with
    | nil =>
      obtain rfl : '.' = c := (List.cons.inj eq).1
      exact List.prefix_rfl
    | cons d before =>
      have front : '.' = c ∧ '.' = d :=
        ⟨(List.cons.inj eq).1, (List.cons.inj (List.cons.inj eq).2).1⟩
      obtain ⟨rfl, rfl⟩ := front
      exact ⟨before ++ ['.'], rfl⟩

/-! ### Names -/

open Revision

theorem isNamePart_of_refused {cs : List Char} (refused : Refused cs) : isNamePart cs = false := by
  rcases refused with start | inside
  · simp [isNamePart, start]
  · have part : hasPart ['.', '.'] cs = true := by
      rw [hasPart, Option.isSome_iff_ne_none, ne_eq, Text.splitAtFirst?_eq_none_iff (by decide)]
      exact not_not_intro inside
    simp [isNamePart, part]

/-- The first part of a text goes on with the character before it, unless this is a slash. -/
theorem exists_parts_cons {c : Char} (other : c ≠ '/') (cs : List Char) :
    ∃ first others, Path.parts cs = first :: others ∧
    Path.parts (c :: cs) = (c :: first) :: others := by
  obtain ⟨first, others, whole⟩ := List.exists_cons_of_ne_nil (Path.parts_ne_nil cs)
  exact ⟨first, others, whole, by simp only [Path.parts, if_neg other, whole]⟩

/-- Two dots in a row stand in one part of a text. -/
theorem exists_part_of_dots {cs : List Char} (inside : dots <:+: cs) :
    ∃ part ∈ Path.parts cs, dots <:+: part := by
  induction cs with
  | nil => exact absurd inside (by decide)
  | cons c cs ih =>
    by_cases slash : c = '/'
    · subst slash
      have later : dots <:+: cs := (List.infix_cons_iff.1 inside).resolve_left fun ⟨_, eq⟩ => by
        cases eq
      obtain ⟨part, mem, inside⟩ := ih later
      exact ⟨part, List.mem_cons_of_mem _ mem, inside⟩
    · obtain ⟨first, others, tail, whole⟩ := exists_parts_cons slash cs
      rw [whole]
      rcases List.infix_cons_iff.1 inside with start | later
      · -- The second dot goes on with the same part.
        obtain ⟨rest, eq⟩ := start
        obtain ⟨rfl, rfl⟩ := List.cons.inj eq
        obtain ⟨next, parts, -, second⟩ := exists_parts_cons (c := '.') (by decide) rest
        obtain ⟨rfl, -⟩ := List.cons.inj (tail.symm.trans second)
        exact ⟨_, List.mem_cons_self, ⟨[], next, rfl⟩⟩
      · obtain ⟨part, mem, inside⟩ := ih later
        rw [tail] at mem
        rcases List.mem_cons.1 mem with rfl | mem
        · exact ⟨_, List.mem_cons_self, List.infix_cons inside⟩
        · exact ⟨part, List.mem_cons_of_mem _ mem, inside⟩

/-- Some part of a refused text between its slashes can be no part of a name. -/
theorem exists_part_of_refused {cs : List Char} (refused : Refused cs) :
    ∃ part ∈ Path.parts cs, isNamePart part = false := by
  rcases refused with start | inside
  · cases cs with
    | nil => cases start
    | cons c cs =>
      obtain rfl : c = '.' := Option.some.inj start
      obtain ⟨first, others, -, whole⟩ := exists_parts_cons (c := '.') (by decide) cs
      exact ⟨_, whole ▸ List.mem_cons_self, isNamePart_of_refused (.inl rfl)⟩
  · obtain ⟨part, mem, inside⟩ := exists_part_of_dots inside
    exact ⟨part, mem, isNamePart_of_refused (.inr inside)⟩

/-- A text of which some part can be no part of a name is no name of a reference. -/
theorem isReferenceName_of_part {name : String} {part : List Char}
    (mem : part ∈ Path.parts name.toList)
    (none : isNamePart part = false) : isReferenceName name = false := by
  have all : (Path.parts name.toList).all isNamePart = false :=
    List.all_eq_false.2 ⟨part, mem, by simp [none]⟩
  simp [isReferenceName, all]

/-- Nor is any full name that a refused text may stand for. -/
theorem isReferenceName_of_mem_fullNames {name full : String} (refused : Refused name.toList)
    (mem : full ∈ fullNames name) : isReferenceName full = false := by
  obtain ⟨part, inside, none⟩ := exists_part_of_refused refused
  refine isReferenceName_of_part ?_ none
  -- Each full name has the parts of the name after a slash, and the last one has another slash
  -- behind.
  have after (above : List Char) : part ∈ Path.parts (above ++ '/' :: name.toList) := by
    rw [Path.parts_append]
    exact List.mem_append_right _ inside
  simp only [fullNames, List.mem_cons, List.not_mem_nil, or_false] at mem
  rcases mem with rfl | rfl | rfl | rfl | rfl | rfl
  · exact inside
  · rw [String.toList_append]
    exact after "refs".toList
  · rw [String.toList_append]
    exact after "refs/tags".toList
  · rw [String.toList_append]
    exact after "refs/heads".toList
  · rw [String.toList_append]
    exact after "refs/remotes".toList
  · have split : ("refs/remotes/" ++ name ++ "/HEAD").toList
        = ("refs/remotes".toList ++ '/' :: name.toList) ++ '/' :: "HEAD".toList := by
      simp
    rw [split, Path.parts_append]
    exact List.mem_append_left _ (after "refs/remotes".toList)

theorem dot_mem_of_refused {cs : List Char} (refused : Refused cs) : '.' ∈ cs := by
  rcases refused with start | inside
  · exact List.mem_of_mem_head? start
  · exact inside.mem (List.mem_cons_self ..)

/-- A refused text stands for no object by name. -/
theorem find_of_refused {h : History} {revision name : String} (refused : Refused name.toList) :
    h.find revision name = .error (.malformed revision) := by
  have dot : '.' ∈ name.toList := dot_mem_of_refused refused
  have byId : h.byId? name = none := by
    have other : ¬ ((name.map Char.toLower).length = idSize ∧
        (name.map Char.toLower).toList.all isIdDigit = true) := by
      intro digits
      have digit := List.all_eq_true.1 digits.2 '.' (by
        rw [String.toList_map]
        exact List.mem_map.2 ⟨'.', dot, rfl⟩)
      cases digit
    rw [byId?, ObjectId.ofDigits?, dif_neg other, Option.bind_none]
  have byReference : h.byReference? revision name = .error (.malformed revision) := by
    have none : (fullNames name).findSome?
        (fun full => if isReferenceName full then h.target? full else none) = none := by
      rw [List.findSome?_eq_none_iff]
      intro full mem
      rw [isReferenceName_of_mem_fullNames refused mem]
      rfl
    have last : (fullNames name).getLast?.all isReferenceName = false :=
      isReferenceName_of_mem_fullNames refused (by simp [fullNames])
    rw [byReference?, none, last]
    rfl
  have nonempty : name ≠ "" := by
    intro empty
    rw [empty] at dot
    cases dot
  rw [find, if_neg nonempty, byId, byReference]
  rfl

/-! ### Steps -/

theorem dot_mem_afterCount {cs : List Char} (dot : '.' ∈ cs) : '.' ∈ afterCount cs := by
  rw [← List.takeWhile_append_dropWhile (p := Char.isDigit) (l := cs), List.mem_append] at dot
  refine dot.resolve_left fun taken => ?_
  have digit := List.mem_takeWhile_imp taken
  cases digit

theorem dot_mem_tildes {cs : List Char} (dot : '.' ∈ cs) : '.' ∈ (tildes cs).2 := by
  fun_induction tildes cs with
  | case1 cs _ _ ih =>
    exact ih (dot_mem_afterCount ((List.mem_cons.1 dot).resolve_left (by decide)))
  | case2 cs _ => exact dot

/-- No kind of object has a name with a dot in it. -/
theorem peelStep_of_dot {name : List Char} (dot : '.' ∈ name) : peelStep name = .broken := by
  have none : ObjectKind.ofName? (String.ofList name) = none := by
    rw [ObjectKind.ofName?, List.find?_eq_none]
    intro kind _ same
    have eq : kind.name.toList = name := by rw [of_decide_eq_true same, String.toList_ofList]
    rw [← eq] at dot
    cases kind <;> revert dot <;> decide
  rw [peelStep, if_neg (List.ne_nil_of_mem dot), none]

/-- A step takes no dot unless it is broken. -/
theorem firstStep_of_dot {cs : List Char} (dot : '.' ∈ cs) :
    (firstStep cs).1 = .broken ∨ '.' ∈ (firstStep cs).2 := by
  have later {c : Char} {rest : List Char} (other : c ≠ '.') (dot : '.' ∈ c :: rest) : '.' ∈ rest :=
    (List.mem_cons.1 dot).resolve_left other.symm
  rw [firstStep.eq_def]
  split
  · exact .inr (dot_mem_tildes dot)
  · next cs =>
    have dot : '.' ∈ cs := later (by decide) (later (by decide) dot)
    split
    · exact .inl rfl
    · next name rest found =>
      rw [Text.eq_append_of_splitAtFirst? found, List.append_assoc, List.mem_append] at dot
      rcases dot with named | left
      · exact .inl (peelStep_of_dot named)
      · exact .inr (later (by decide) left)
  · exact .inr (dot_mem_afterCount (later (by decide) dot))
  · exact .inl rfl

/-- Steps that are written with a dot break off. -/
theorem broken_mem_steps {cs : List Char} (dot : '.' ∈ cs) : Step.broken ∈ steps cs := by
  fun_induction steps cs with
  | case1 => cases dot
  | case2 c cs ih =>
    rcases firstStep_of_dot dot with broken | left
    · exact broken ▸ List.mem_cons_self
    · exact List.mem_cons_of_mem _ (ih left)

/-- Where the steps break off, nothing is named. -/
theorem steps_of_broken {h : History} {revision : String} {ss : List Step}
    (broken : Step.broken ∈ ss) (e : Entry) :
    ∃ cause, ss.foldlM (h.step revision) e = .error cause := by
  induction ss generalizing e with
  | nil => cases broken
  | cons s ss ih =>
    rw [List.foldlM_cons]
    cases made : h.step revision e s with
    | error cause => exact ⟨cause, rfl⟩
    | ok next =>
      rcases List.mem_cons.1 broken with rfl | broken
      · cases made
      · exact ih broken next

/-! ### Revisions -/

/-- A refused text has a refused name, or a dot among its steps. -/
theorem refused_base_or_dot {revision : String} (refused : Refused revision.toList) :
    Refused (base revision).toList ∨ '.' ∈ revision.toList.dropWhile fun c => !startsStep c := by
  have other : revision ≠ "@" := by
    intro same
    have dot := dot_mem_of_refused refused
    rw [same] at dot
    revert dot
    decide
  rw [base, if_neg other, String.toList_ofList]
  generalize revision.toList = cs at refused
  rw [or_iff_not_imp_right]
  intro noDot
  rcases refused with start | inside
  · cases cs with
    | nil => cases start
    | cons c cs =>
      obtain rfl : c = '.' := Option.some.inj start
      exact .inl rfl
  · obtain ⟨u, v, eq⟩ := inside
    rw [← List.takeWhile_append_dropWhile (p := fun c => !startsStep c) (l := cs),
      List.append_eq_append_iff] at eq
    rcases eq with ⟨rest, eq, -⟩ | ⟨rest, eq, same⟩
    · exact .inr ⟨u, rest, eq.symm⟩
    · rcases List.eq_nil_or_concat rest with rfl | ⟨others, c, rfl⟩
      · exact .inr ⟨u, [], by simpa using eq⟩
      · -- The two dots would reach into the steps.
        have last := congrArg List.getLast? eq
        obtain rfl : '.' = c := by simpa [dots] using last
        rw [same] at noDot
        simp at noDot

/-- **A text that starts with a dot, or has two dots in a row, names nothing.** -/
theorem resolve_of_refused {h : History} {revision : String} (refused : Refused revision.toList) :
    ∃ cause, h.resolve revision = .error cause := by
  unfold resolve
  simp only [bind, Except.bind, throw, throwThe, MonadExceptOf.throw]
  split
  · exact ⟨_, rfl⟩
  · split
    · exact ⟨_, rfl⟩
    · rcases refused_base_or_dot refused with name | dot
      · rw [find_of_refused name]
        exact ⟨_, rfl⟩
      · split
        · exact ⟨_, rfl⟩
        · exact steps_of_broken (broken_mem_steps dot) _

theorem findCommit_of_error {h : History} {revision : String} {cause : RevisionError}
    (unnamed : h.resolveCommit revision = .error cause) :
    h.findCommit revision = .error (.invalidReference (revision ++ ": " ++ cause.message)) := by
  rw [findCommit, unnamed]
  rfl

theorem resolveCommit_of_refused {h : History} {revision : String}
    (refused : Refused revision.toList) :
    ∃ cause, h.resolveCommit revision = .error cause := by
  obtain ⟨cause, unnamed⟩ := resolve_of_refused (h := h) refused
  exact ⟨cause, by rw [resolveCommit, unnamed]; rfl⟩

/-! ### Sides -/

theorem sideOf_toList (cs : List Char) : sideOf (sideOf cs).toList = sideOf cs := by
  by_cases empty : cs = []
  · subst empty
    decide
  · have same : (sideOf cs).toList = cs := by rw [sideOf, if_neg empty, String.toList_ofList]
    rw [same]

/-- The first side, with the head in its place if it is left out, has no two dots before those that
divide the text. -/
theorem not_infix_sideOf {before : List Char} (first : ¬ dots <:+: before ++ ['.']) :
    ¬ dots <:+: (sideOf before).toList ++ ['.'] := by
  by_cases empty : before = []
  · subst empty
    decide
  · rwa [sideOf, if_neg empty, String.toList_ofList]

/-- A text with its sides written out has the same sides. -/
theorem sides?_written {before : List Char} (after : List Char)
    (first : ¬ dots <:+: before ++ ['.']) :
    sides? (sideOf before ++ ".." ++ sideOf after) = some (sideOf before, sideOf after) := by
  have divided : (sideOf before ++ ".." ++ sideOf after).toList
      = (sideOf before).toList ++ dots ++ (sideOf after).toList := by
    rw [String.toList_append, String.toList_append]
    rfl
  rw [sides?_of_dots divided (not_infix_sideOf first), sideOf_toList, sideOf_toList]

section

variable {h : History} {range since upTo : String}

/-- Texts with the same sides stand for the same commits. -/
theorem commitsIn_congr {other : String} (sides : sides? range = some (since, upTo))
    (same : sides? other = some (since, upTo)) : h.commitsIn range = h.commitsIn other := by
  rw [commitsIn_of_sides? sides, commitsIn_of_sides? same]

theorem commitsIn_of_first_unnamed {cause : RevisionError}
    (sides : sides? range = some (since, upTo))
    (unnamed : h.resolveCommit since = .error cause) :
    h.commitsIn range = .error (.invalidReference (since ++ ": " ++ cause.message)) := by
  rw [commitsIn_of_sides? sides, findCommit_of_error unnamed]
  rfl

theorem commitsIn_of_second_unnamed {found : ObjectId × Commit} {cause : RevisionError}
    (sides : sides? range = some (since, upTo)) (named : h.resolveCommit since = .ok found)
    (unnamed : h.resolveCommit upTo = .error cause) :
    h.commitsIn range = .error (.invalidReference (upTo ++ ": " ++ cause.message)) := by
  have first : h.findCommit since = .ok found := by rw [findCommit, named]; rfl
  rw [commitsIn_of_sides? sides, first, findCommit_of_error unnamed]
  rfl

/-- A text of which some side is refused stands for nothing. -/
theorem commitsIn_of_refused (sides : sides? range = some (since, upTo))
    (refused : Refused upTo.toList) :
    ∃ reference, h.commitsIn range = .error (.invalidReference reference) := by
  obtain ⟨cause, second⟩ := resolveCommit_of_refused (h := h) refused
  cases first : h.resolveCommit since with
  | error other => exact ⟨_, commitsIn_of_first_unnamed sides first⟩
  | ok found => exact ⟨_, commitsIn_of_second_unnamed sides first second⟩

end

/-- **What a text with two dots stands for.** It is cut at its first two dots into two sides, and
stands for the same commits as the text in which a side that is left out is written as the head. If
the first side names no commit, this is reported, whatever the second is; and if the second names
none, that is reported. A text with three dots in a row, or with two dots once more after the first
two, never stands for any commits: one of its sides is reported. -/
theorem range_sides (h : History) :
    (∀ range : String, dots <:+: range.toList → ∃ before after,
      range.toList = before ++ dots ++ after ∧ ¬ dots <:+: before ++ ['.'] ∧
      h.commitsIn range = h.commitsIn (sideOf before ++ ".." ++ sideOf after) ∧
      (∀ cause, h.resolveCommit (sideOf before) = .error cause →
        h.commitsIn range = .error (.invalidReference (sideOf before ++ ": " ++ cause.message))) ∧
      (∀ found cause, h.resolveCommit (sideOf before) = .ok found →
        h.resolveCommit (sideOf after) = .error cause →
        h.commitsIn range = .error (.invalidReference (sideOf after ++ ": " ++ cause.message))) ∧
      (['.', '.', '.'] <:+: range.toList ∨ dots <:+: after →
        ∃ reference, h.commitsIn range = .error (.invalidReference reference))) ∧
    (∀ upTo : String, h.commitsIn (".." ++ upTo) = h.commitsIn ("HEAD.." ++ upTo)) ∧
    (∀ since : String, ¬ dots <:+: since.toList ++ ['.'] →
      h.commitsIn (since ++ "..") = h.commitsIn (since ++ "..HEAD")) ∧
    h.commitsIn ".." = h.commitsIn "HEAD..HEAD" := by
  have head : sideOf "HEAD".toList = sideOf [] := sideOf_toList []
  refine ⟨?_, ?_, ?_, ?_⟩
  · intro range divided
    obtain ⟨before, after, whole, first⟩ := exists_first_dots divided
    have sides : sides? range = some (sideOf before, sideOf after) := sides?_of_dots whole first
    refine ⟨before, after, whole, first, commitsIn_congr sides (sides?_written after first), ?_, ?_,
      ?_⟩
    · exact fun cause unnamed => commitsIn_of_first_unnamed sides unnamed
    · exact fun found cause named unnamed => commitsIn_of_second_unnamed sides named unnamed
    · intro more
      have refused : Refused after := by
        rcases more with three | again
        · exact refused_of_three first (whole ▸ three)
        · exact .inr again
      -- A refused side is not left out, so that it stands as it is written.
      have written : (sideOf after).toList = after := by
        rw [sideOf, if_neg (List.ne_nil_of_mem (dot_mem_of_refused refused)), String.toList_ofList]
      exact commitsIn_of_refused sides (written.symm ▸ refused)
  · intro upTo
    have left : (".." ++ upTo).toList = [] ++ dots ++ upTo.toList := String.toList_append
    have written : ("HEAD.." ++ upTo).toList = "HEAD".toList ++ dots ++ upTo.toList :=
      String.toList_append
    refine commitsIn_congr (sides?_of_dots left (by decide)) ?_
    rw [sides?_of_dots written (by decide), head]
  · intro since first
    have left : (since ++ "..").toList = since.toList ++ dots ++ [] := by
      rw [String.toList_append, List.append_nil]
      rfl
    have written : (since ++ "..HEAD").toList = since.toList ++ dots ++ "HEAD".toList := by
      rw [String.toList_append, List.append_assoc]
      rfl
    refine commitsIn_congr (sides?_of_dots left first) ?_
    rw [sides?_of_dots written first, head]
  · exact commitsIn_congr (@sides?_written [] [] (by decide)) (@sides?_written [] [] (by decide))

/-- In a history whose head is a merge of a commit named "left" and another, three dots between this
name and the head stand for nothing, although both name a commit. Of two sides that name nothing the
first is reported. -/
theorem range_sides_three_dots :
    (merged.findCommit "left").isOk = true ∧ (merged.findCommit "HEAD").isOk = true ∧
    (∃ reference, merged.commitsIn "left...HEAD" = .error (.invalidReference reference)) ∧
    merged.commitsIn "nowhere..left..HEAD" =
      .error (.invalidReference "nowhere: revspec 'nowhere' not found") := by
  obtain ⟨divided, -⟩ := range_sides merged
  refine ⟨by decide +kernel, by decide +kernel, ?_, ?_⟩
  · obtain ⟨before, after, -, -, -, -, -, more⟩ := divided "left...HEAD" (by decide)
    exact more (.inl (by decide))
  · obtain ⟨before, after, whole, first, -, unnamed, -⟩ := divided "nowhere..left..HEAD" (by decide)
    have cut : sides? "nowhere..left..HEAD" = some ("nowhere", "left..HEAD") := by decide +kernel
    have side : sideOf before = "nowhere" := by
      have sides := sides?_of_dots whole first
      rw [cut] at sides
      exact (Prod.mk.inj (Option.some.inj sides)).1.symm
    have none : merged.resolveCommit "nowhere" = .error (.notFound "nowhere") := by decide +kernel
    rw [side] at unnamed
    rw [unnamed _ none]
    rfl

end History

end CommitLint
