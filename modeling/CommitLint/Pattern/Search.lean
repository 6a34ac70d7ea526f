import CommitLint.Pattern.Basic

/-!
# The search decides what a pattern finds

What `nullable` and `derivatives` say about words, and with them the main statement:
`Pattern.isMatch` holds just when some part of the text is a word that the pattern describes.
-/

namespace CommitLint.Pattern

/-! ### The empty word -/

theorem matches_seq_nil_iff {p q : Pattern} {before after : List Char} :
    Matches (seq p q) before [] after ↔ Matches p before [] after ∧ Matches q before [] after := by
  constructor
  · intro h
    generalize eq : ([] : List Char) = w at h
    cases h with
    | seq hp hq =>
      obtain ⟨rfl, rfl⟩ := List.append_eq_nil_iff.1 eq.symm
      exact ⟨by simpa using hp, by simpa using hq⟩
  · rintro ⟨hp, hq⟩
    exact Matches.seq (u := []) (v := []) hp (by simpa using hq)

theorem matches_alt_iff {p q : Pattern} {before word after : List Char} :
    Matches (alt p q) before word after ↔
    Matches p before word after ∨ Matches q before word after := by
  constructor
  · intro h
    cases h with
    | altLeft h => exact .inl h
    | altRight h => exact .inr h
  · rintro (h | h)
    · exact .altLeft h
    · exact .altRight h

/-- The empty word is described at a place just when the characters around the place allow it. -/
theorem nullable_iff (p : Pattern) (before after : List Char) :
    nullable before.getLast? after.head? p = true ↔ Matches p before [] after := by
  induction p with
  | empty => exact ⟨fun _ => .empty, fun _ => rfl⟩
  | char s => exact ⟨fun h => by simp [nullable] at h, nofun⟩
  | assertion a => exact ⟨.assertion, fun h => by cases h with | assertion h => exact h⟩
  | seq p q hp hq => rw [nullable, Bool.and_eq_true, hp, hq, matches_seq_nil_iff]
  | alt p q hp hq => rw [nullable, Bool.or_eq_true, hp, hq, matches_alt_iff]
  | star p _ => exact ⟨fun _ => .starNil, fun _ => rfl⟩

/-! ### The first character -/

theorem matches_empty_seq_iff {q : Pattern} {before word after : List Char} :
    Matches (seq empty q) before word after ↔ Matches q before word after := by
  constructor
  · intro h
    cases h with
    | seq hp hq =>
      cases hp
      simpa using hq
  · intro h
    exact Matches.seq (u := []) .empty (by simpa using h)

theorem matches_followedBy_iff {p q : Pattern} {before word after : List Char} :
    Matches (followedBy p q) before word after ↔ Matches (seq p q) before word after := by
  by_cases h : p = empty
  · rw [followedBy, if_pos h, h, matches_empty_seq_iff]
  · rw [followedBy, if_neg h]

/-- A word of a sequence starts with a character of its first part, or all of it is the second
part's. -/
theorem matches_seq_cons_iff {p q : Pattern} {before word after : List Char} {c : Char} :
    Matches (seq p q) before (c :: word) after ↔
      (∃ u v, word = u ++ v ∧ Matches p before (c :: u) (v ++ after) ∧
        Matches q (before ++ c :: u) v after) ∨
      Matches p before [] (c :: word ++ after) ∧ Matches q before (c :: word) after := by
  constructor
  · intro h
    generalize eq : c :: word = w at h
    cases h with
    | @seq _ _ _ u v _ hp hq =>
      cases u with
      | nil =>
        obtain rfl : c :: word = v := eq
        exact .inr ⟨hp, by simpa using hq⟩
      | cons d u =>
        obtain ⟨rfl, rfl⟩ := List.cons.inj eq
        exact .inl ⟨u, v, rfl, hp, hq⟩
  · rintro (⟨u, v, rfl, hp, hq⟩ | ⟨hp, hq⟩)
    · exact Matches.seq (u := c :: u) hp hq
    · exact Matches.seq (u := []) hp (by simpa using hq)

/-- A word of a repetition that is not empty starts with a word that is not. -/
theorem matches_star_cons_iff {p : Pattern} {before word after : List Char} {c : Char} :
    Matches (star p) before (c :: word) after ↔
      ∃ u v, word = u ++ v ∧ Matches p before (c :: u) (v ++ after) ∧
        Matches (star p) (before ++ c :: u) v after := by
  constructor
  · intro h
    generalize starred : star p = s at h
    generalize eq : c :: word = w at h
    induction h with
    | starNil => cases eq
    | @starCons r before u v after hp hr _ ih =>
      obtain rfl := Pattern.star.inj starred
      cases u with
      | nil =>
        have step := ih rfl eq
        simpa using step
      | cons d u =>
        obtain ⟨rfl, rfl⟩ := List.cons.inj eq
        exact ⟨u, v, rfl, hp, hr⟩
    | _ => cases starred
  · rintro ⟨u, v, rfl, hp, hr⟩
    exact Matches.starCons (u := c :: u) hp hr

/-- A word is described just when one of the patterns that its first character leaves describes the
rest. -/
theorem exists_derivative_iff (p : Pattern) (before word after : List Char) (c : Char) :
    (∃ d ∈ derivatives before.getLast? c p, Matches d (before ++ [c]) word after) ↔
      Matches p before (c :: word) after := by
  induction p generalizing word after with
  | empty => exact ⟨fun h => by simp [derivatives] at h, nofun⟩
  | char s =>
    constructor
    · rintro ⟨d, mem, h⟩
      rw [derivatives] at mem
      split at mem
      · next found =>
        obtain rfl := List.mem_singleton.1 mem
        cases h
        exact .char found
      · simp at mem
    · intro h
      cases h with
      | char found => exact ⟨empty, by simp [derivatives, found], .empty⟩
  | assertion a => exact ⟨fun h => by simp [derivatives] at h, nofun⟩
  | seq p q hp hq =>
    have null := nullable_iff p before (c :: word ++ after)
    rw [matches_seq_cons_iff, derivatives]
    constructor
    · rintro ⟨d, mem, h⟩
      rcases List.mem_append.1 mem with mem | mem
      · obtain ⟨e, derived, rfl⟩ := List.mem_map.1 mem
        cases matches_followedBy_iff.1 h with
        | @seq _ _ _ u v _ he hrest =>
          exact .inl ⟨u, v, rfl, (hp u (v ++ after)).1 ⟨e, derived, he⟩, by simpa using hrest⟩
      · split at mem
        · next empties => exact .inr ⟨null.1 (by simpa using empties),
            (hq word after).1 ⟨d, mem, h⟩⟩
        · simp at mem
    · rintro (⟨u, v, rfl, first, rest⟩ | ⟨first, rest⟩)
      · obtain ⟨e, mem, he⟩ := (hp u (v ++ after)).2 first
        exact ⟨followedBy e q, List.mem_append_left _ (List.mem_map_of_mem mem),
          matches_followedBy_iff.2 (.seq he (by simpa using rest))⟩
      · obtain ⟨d, mem, hd⟩ := (hq word after).2 rest
        have empties : nullable before.getLast? (some c) p = true := by simpa using null.2 first
        exact ⟨d, List.mem_append_right _ (by simpa [empties] using mem), hd⟩
  | alt p q hp hq =>
    rw [matches_alt_iff, ← hp, ← hq, derivatives]
    constructor
    · rintro ⟨d, mem, h⟩
      rcases List.mem_append.1 mem with mem | mem
      · exact .inl ⟨d, mem, h⟩
      · exact .inr ⟨d, mem, h⟩
    · rintro (⟨d, mem, h⟩ | ⟨d, mem, h⟩)
      · exact ⟨d, List.mem_append_left _ mem, h⟩
      · exact ⟨d, List.mem_append_right _ mem, h⟩
  | star p hp =>
    rw [matches_star_cons_iff, derivatives]
    constructor
    · rintro ⟨d, mem, h⟩
      obtain ⟨e, derived, rfl⟩ := List.mem_map.1 mem
      cases matches_followedBy_iff.1 h with
      | @seq _ _ _ u v _ he hrest =>
        exact ⟨u, v, rfl, (hp u (v ++ after)).1 ⟨e, derived, he⟩, by simpa using hrest⟩
    · rintro ⟨u, v, rfl, first, rest⟩
      obtain ⟨e, mem, he⟩ := (hp u (v ++ after)).2 first
      exact ⟨followedBy e (star p), List.mem_map_of_mem mem,
        matches_followedBy_iff.2 (.seq he (by simpa using rest))⟩

/-! ### The search -/

/-- Some start of a text is a word that the pattern describes, after what stands before the text. -/
def MatchesStart (p : Pattern) (before text : List Char) : Prop :=
  ∃ word after, text = word ++ after ∧ Matches p before word after

theorem matchesStart_nil_iff (p : Pattern) (before : List Char) :
    MatchesStart p before [] ↔ nullable before.getLast? none p = true := by
  rw [show (none : Option Char) = ([] : List Char).head? from rfl, nullable_iff]
  constructor
  · rintro ⟨word, after, eq, h⟩
    obtain ⟨rfl, rfl⟩ := List.append_eq_nil_iff.1 eq.symm
    exact h
  · intro h
    exact ⟨[], [], rfl, h⟩

theorem matchesStart_cons_iff (p : Pattern) (before text : List Char) (c : Char) :
    MatchesStart p before (c :: text) ↔
      nullable before.getLast? (some c) p = true ∨
      ∃ d ∈ derivatives before.getLast? c p, MatchesStart d (before ++ [c]) text := by
  rw [show some c = (c :: text).head? from rfl, nullable_iff]
  constructor
  · rintro ⟨word, after, eq, h⟩
    cases word with
    | nil =>
      obtain rfl : c :: text = after := eq
      exact .inl h
    | cons d word =>
      obtain ⟨rfl, rfl⟩ := List.cons.inj eq
      obtain ⟨e, mem, he⟩ := (exists_derivative_iff p before word after c).2 h
      exact .inr ⟨e, mem, word, after, rfl, he⟩
  · rintro (h | ⟨e, mem, word, after, rfl, he⟩)
    · exact ⟨[], c :: text, rfl, h⟩
    · exact ⟨c :: word, after, rfl, (exists_derivative_iff p before word after c).1 ⟨e, mem, he⟩⟩

/-- The search succeeds just when a pattern that is held matches from here on, or `p` from here or
from a later place. -/
theorem searchFrom_iff (p : Pattern) (live : List Pattern) (before text : List Char) :
    searchFrom p live before.getLast? text = true ↔
      (∃ q ∈ live, MatchesStart q before text) ∨ ∃ u v, text = u ++ v ∧
      MatchesStart p (before ++ u) v := by
  induction text generalizing live before with
  | nil =>
    simp only [searchFrom, List.any_cons, Bool.or_eq_true, List.any_eq_true, ← matchesStart_nil_iff]
    constructor
    · rintro (h | h)
      · exact .inr ⟨[], [], rfl, by simpa using h⟩
      · exact .inl h
    · rintro (h | ⟨u, v, eq, h⟩)
      · exact .inr h
      · obtain ⟨rfl, rfl⟩ := List.append_eq_nil_iff.1 eq.symm
        exact .inl (by simpa using h)
  | cons c text ih =>
    have last : (before ++ [c]).getLast? = some c := by simp
    have later := ih ((p :: live).flatMap (derivatives before.getLast? c)).eraseDups (before ++ [c])
    rw [last] at later
    rw [searchFrom, Bool.or_eq_true, later, List.any_eq_true]
    constructor
    · rintro (⟨q, mem, h⟩ | ⟨d, mem, h⟩ | ⟨u, v, rfl, h⟩)
      · have start := (matchesStart_cons_iff q before text c).2 (.inl h)
        rcases List.mem_cons.1 mem with rfl | mem
        · exact .inr ⟨[], c :: text, rfl, by simpa using start⟩
        · exact .inl ⟨q, mem, start⟩
      · obtain ⟨q, mem, derived⟩ := List.mem_flatMap.1 (List.mem_eraseDups.1 mem)
        have start := (matchesStart_cons_iff q before text c).2 (.inr ⟨d, derived, h⟩)
        rcases List.mem_cons.1 mem with rfl | mem
        · exact .inr ⟨[], c :: text, rfl, by simpa using start⟩
        · exact .inl ⟨q, mem, start⟩
      · exact .inr ⟨c :: u, v, rfl, by simpa using h⟩
    · have here (q : Pattern) (mem : q ∈ p :: live) (h : MatchesStart q before (c :: text)) :
          (∃ q ∈ p :: live, nullable before.getLast? (some c) q = true) ∨
          (∃ d ∈ ((p :: live).flatMap (derivatives before.getLast? c)).eraseDups,
            MatchesStart d (before ++ [c]) text) := by
        rcases (matchesStart_cons_iff q before text c).1 h with h | ⟨d, derived, h⟩
        · exact .inl ⟨q, mem, h⟩
        · exact .inr ⟨d, List.mem_eraseDups.2 (List.mem_flatMap.2 ⟨q, mem, derived⟩), h⟩
      rintro (⟨q, mem, h⟩ | ⟨u, v, eq, h⟩)
      · exact (here q (List.mem_cons_of_mem _ mem) h).imp_right .inl
      · cases u with
        | nil =>
          obtain rfl : c :: text = v := eq
          exact (here p (List.mem_cons_self ..) (by simpa using h)).imp_right .inl
        | cons d u =>
          obtain ⟨rfl, rfl⟩ := List.cons.inj eq
          exact .inr (.inr ⟨u, v, rfl, by simpa using h⟩)

/-- A pattern matches a text just when some part of the text is a word that it describes. -/
theorem isMatch_iff (p : Pattern) (text : String) :
    p.isMatch text = true ↔ p.Finds text.toList := by
  have search := searchFrom_iff p [] [] text.toList
  rw [isMatch, show (none : Option Char) = ([] : List Char).getLast? from rfl, search]
  constructor
  · rintro (⟨q, mem, _⟩ | ⟨before, rest, eq, word, after, rfl, h⟩)
    · simp at mem
    · exact ⟨before, word, after, by simp [eq], by simpa using h⟩
  · rintro ⟨before, word, after, eq, h⟩
    exact .inr ⟨before, word ++ after, by simp [eq], word, after, rfl, by simpa using h⟩

end CommitLint.Pattern
