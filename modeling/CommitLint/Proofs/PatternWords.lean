import CommitLint.Pattern.Search
import Mathlib

/-!
# Words of patterns

Which words a pattern describes, told for each way of putting patterns together. A pattern that is a
row of parts is followed through a text part by part: each part takes a word off the front, and the
others go on with what is left.

* `matches_literal_iff`, `matches_star_char_iff` — the words of the patterns that rows are made of;
* `matchesStart_seq_iff`, `matchesStart_literal_iff` — how a row goes on after its first part;
* `matchesStart_inOrder_textEnd_iff` — a row that ends with the text, and the words of its parts;
* `matches_normal_iff` — rows may be regrouped, and empty parts left out.
-/

namespace CommitLint.Pattern

variable {p q : Pattern} {before word after text : List Char}

/-! ### Single patterns -/

theorem matches_empty_iff : Matches empty before word after ↔ word = [] := by
  constructor
  · intro h
    cases h
    rfl
  · intro h
    subst h
    exact .empty

theorem matches_char_iff {s : CharSet} :
    Matches (char s) before word after ↔ ∃ c, word = [c] ∧ s.mem c = true := by
  constructor
  · intro h
    cases h with
    | char found => exact ⟨_, rfl, found⟩
  · intro h
    obtain ⟨c, rfl, found⟩ := h
    exact .char found

theorem matches_assertion_iff {a : Assertion} :
    Matches (.assertion a) before word after ↔
    word = [] ∧ a.holds before.getLast? after.head? = true := by
  constructor
  · intro h
    cases h with
    | assertion holds => exact ⟨rfl, holds⟩
  · intro h
    obtain ⟨rfl, holds⟩ := h
    exact .assertion holds

theorem matches_textEnd_iff :
    Matches (.assertion .textEnd) before word after ↔ word = [] ∧ after = [] := by
  rw [matches_assertion_iff]
  cases after <;> simp [Assertion.holds]

theorem matches_seq_iff : Matches (seq p q) before word after ↔
    ∃ u v, word = u ++ v ∧ Matches p before u (v ++ after) ∧ Matches q (before ++ u) v after := by
  constructor
  · intro h
    cases h with
    | seq hp hq => exact ⟨_, _, rfl, hp, hq⟩
  · intro h
    obtain ⟨u, v, rfl, hp, hq⟩ := h
    exact .seq hp hq

theorem matches_seq_empty_iff :
    Matches (seq p empty) before word after ↔ Matches p before word after := by
  simp [matches_seq_iff, matches_empty_iff]

theorem matches_optional_iff :
    Matches (optional p) before word after ↔ word = [] ∨ Matches p before word after := by
  rw [optional, matches_alt_iff, matches_empty_iff]

/-- A repeated character makes the words of such characters. -/
theorem matches_star_char_iff {s : CharSet} :
    Matches (star (char s)) before word after ↔ ∀ c ∈ word, s.mem c = true := by
  induction word generalizing before with
  | nil => exact iff_of_true .starNil (by simp)
  | cons c word ih =>
    rw [matches_star_cons_iff, List.forall_mem_cons]
    constructor
    · intro h
      obtain ⟨u, v, rfl, first, rest⟩ := h
      obtain ⟨d, eq, found⟩ := matches_char_iff.1 first
      obtain ⟨rfl, rfl⟩ := List.cons.inj eq
      exact ⟨found, ih.1 rest⟩
    · intro h
      exact ⟨[], word, rfl, .char h.1, ih.2 h.2⟩

theorem mem_compl_single_iff {a c : Char} : (CharSet.compl (.single a)).mem c = true ↔ c ≠ a := by
  rw [CharSet.mem_compl, Bool.not_eq_true', ← Bool.not_eq_true, CharSet.mem_single]

/-- All characters but one, repeated, make the words without that one. -/
theorem matches_star_compl_iff {a : Char} :
    Matches (star (char (.compl (.single a)))) before word after ↔ a ∉ word := by
  simp only [matches_star_char_iff, mem_compl_single_iff]
  constructor
  · intro h mem
    exact h a mem rfl
  · intro clean c mem same
    exact clean (same ▸ mem)

theorem matches_restOfLine_iff : Matches restOfLine before word after ↔ '\n' ∉ word :=
  matches_star_compl_iff

/-- A literal pattern describes one word. -/
theorem matches_literal_iff (s : String) :
    Matches (literal s) before word after ↔ word = s.toList := by
  rw [literal]
  generalize s.toList = cs
  induction cs generalizing before word with
  | nil => exact matches_empty_iff
  | cons c cs ih =>
    simp only [List.foldr_cons, matches_seq_iff, matches_char_iff, CharSet.mem_single, ih]
    constructor
    · intro h
      obtain ⟨u, v, rfl, ⟨d, rfl, rfl⟩, rfl⟩ := h
      rfl
    · intro h
      exact ⟨[c], cs, h, ⟨c, rfl, rfl⟩, rfl⟩

/-! ### Rows from the start of a text -/

theorem matchesStart_alt_iff :
    MatchesStart (alt p q) before text ↔
    MatchesStart p before text ∨ MatchesStart q before text := by
  simp only [MatchesStart, matches_alt_iff, and_or_left, exists_or]

/-- The first part takes a word off the text, and the second goes on with what is left. -/
theorem matchesStart_seq_iff : MatchesStart (seq p q) before text ↔
    ∃ u v, text = u ++ v ∧ Matches p before u v ∧ MatchesStart q (before ++ u) v := by
  constructor
  · intro h
    obtain ⟨word, after, rfl, h⟩ := h
    obtain ⟨u, v, rfl, hp, hq⟩ := matches_seq_iff.1 h
    exact ⟨u, v ++ after, List.append_assoc u v after, hp, v, after, rfl, hq⟩
  · intro h
    obtain ⟨u, v, rfl, hp, w, after, rfl, hq⟩ := h
    exact ⟨u ++ w, after, (List.append_assoc u w after).symm, .seq hp hq⟩

theorem matchesStart_literal_iff (s : String) :
    MatchesStart (literal s) before text ↔ s.toList <+: text := by
  simp only [MatchesStart, matches_literal_iff]
  constructor
  · intro h
    obtain ⟨word, after, rfl, rfl⟩ := h
    exact ⟨after, rfl⟩
  · intro h
    obtain ⟨after, rfl⟩ := h
    exact ⟨_, after, rfl, rfl⟩

theorem matchesStart_literal_seq_iff (s : String) : MatchesStart (seq (literal s) q) before text ↔
    ∃ v, text = s.toList ++ v ∧ MatchesStart q (before ++ s.toList) v := by
  simp only [matchesStart_seq_iff, matches_literal_iff]
  constructor
  · intro h
    obtain ⟨u, v, rfl, rfl, rest⟩ := h
    exact ⟨v, rfl, rest⟩
  · intro h
    obtain ⟨v, rfl, rest⟩ := h
    exact ⟨_, v, rfl, rfl, rest⟩

/-- The alternatives of a first part are those of the row. -/
theorem matchesStart_alt_seq_iff {r : Pattern} :
    MatchesStart (seq (alt p q) r) before text ↔
      MatchesStart (seq p r) before text ∨ MatchesStart (seq q r) before text := by
  simp only [matchesStart_seq_iff, matches_alt_iff, and_or_left, or_and_right, exists_or]

/-- A part that may always be empty does not count at the end of a row. -/
theorem matchesStart_seq_free_iff (free : ∀ before text, MatchesStart q before text) :
    MatchesStart (seq p q) before text ↔ MatchesStart p before text := by
  simp only [matchesStart_seq_iff, free, and_true]
  exact Iff.rfl

theorem matchesStart_star (before text : List Char) : MatchesStart (star p) before text :=
  ⟨[], text, rfl, .starNil⟩

theorem matchesStart_inOrder_cons_iff (parts : List Pattern) :
    MatchesStart (inOrder (p :: parts)) before text ↔
    MatchesStart (seq p (inOrder parts)) before text := by
  cases parts with
  | nil => simp only [MatchesStart, inOrder, matches_seq_empty_iff]
  | cons next parts => exact Iff.rfl

/-- A pattern that starts with the text is looked for at its start only. -/
theorem finds_textStart_seq_iff :
    (seq (.assertion .textStart) p).Finds text ↔ MatchesStart p [] text := by
  constructor
  · intro h
    obtain ⟨before, word, after, rfl, h⟩ := h
    obtain ⟨u, v, rfl, start, hp⟩ := matches_seq_iff.1 h
    obtain ⟨rfl, holds⟩ := matches_assertion_iff.1 start
    have first : before = [] := by simpa [Assertion.holds] using holds
    subst first
    exact ⟨v, after, rfl, hp⟩
  · intro h
    obtain ⟨word, after, rfl, h⟩ := h
    have start : Matches (.assertion .textStart) [] [] (word ++ after) := .assertion rfl
    exact ⟨[], word, after, rfl, .seq (u := []) start h⟩

/-! ### Words of the parts -/

/-- The words that patterns describe one after the other, from a place in a text up to another. -/
inductive Splits : List Pattern → List Char → List (List Char) → List Char → Prop
  | nil {before after : List Char} : Splits [] before [] after
  | cons {p : Pattern} {parts : List Pattern} {before word after : List Char}
    {words : List (List Char)} :
    Matches p before word (words.flatten ++ after) → Splits parts (before ++ word) words after →
    Splits (p :: parts) before (word :: words) after

theorem splits_cons_iff {parts : List Pattern} {words : List (List Char)} :
    Splits (p :: parts) before words after ↔
    ∃ u us, words = u :: us ∧ Matches p before u (us.flatten ++ after) ∧
      Splits parts (before ++ u) us after := by
  constructor
  · intro h
    cases h with
    | cons hp hparts => exact ⟨_, _, rfl, hp, hparts⟩
  · intro h
    obtain ⟨u, us, rfl, hp, hparts⟩ := h
    exact .cons hp hparts

theorem splits_nil_iff {words : List (List Char)} : Splits [] before words after ↔ words = [] := by
  constructor
  · intro h
    cases h
    rfl
  · intro h
    subst h
    exact .nil

/-- A row that ends with the text takes all of it apart. -/
theorem matchesStart_inOrder_textEnd_iff (parts : List Pattern) :
    MatchesStart (inOrder (parts ++ [.assertion .textEnd])) before text ↔
      ∃ words, text = words.flatten ∧ Splits parts before words [] := by
  induction parts generalizing before text with
  | nil => simp [inOrder, MatchesStart, matches_textEnd_iff, splits_nil_iff]
  | cons p parts ih =>
    simp only [List.cons_append, matchesStart_inOrder_cons_iff, matchesStart_seq_iff,
      splits_cons_iff, ih]
    constructor
    · intro h
      obtain ⟨u, v, rfl, hp, us, rfl, hparts⟩ := h
      exact ⟨u :: us, rfl, u, us, rfl, by rwa [List.append_nil], hparts⟩
    · intro h
      obtain ⟨words, rfl, u, us, rfl, hp, hparts⟩ := h
      rw [List.append_nil] at hp
      exact ⟨u, us.flatten, rfl, hp, us, rfl, hparts⟩

/-! ### Regrouping -/

/-- The first pattern and then the second, as one row without empty parts. -/
def chain : Pattern → Pattern → Pattern
  | empty, q => q
  | seq p r, q => seq p (chain r q)
  | p, q => if q = empty then p else seq p q

/-- A pattern in which all rows are grouped to the right and have no empty parts. -/
def normal : Pattern → Pattern
  | seq p q => chain (normal p) (normal q)
  | alt p q => alt (normal p) (normal q)
  | star p => star (normal p)
  | p => p

theorem matches_seq_assoc_iff {r : Pattern} : Matches (seq (seq p q) r) before word after ↔
    Matches (seq p (seq q r)) before word after := by
  simp only [matches_seq_iff]
  constructor
  · intro h
    obtain ⟨w, t, rfl, ⟨u, v, rfl, hp, hq⟩, hr⟩ := h
    refine ⟨u, v ++ t, List.append_assoc u v t, by rwa [List.append_assoc], v, t, rfl, hq, ?_⟩
    rwa [List.append_assoc]
  · intro h
    obtain ⟨u, w, rfl, hp, v, t, rfl, hq, hr⟩ := h
    refine ⟨u ++ v, t, (List.append_assoc u v t).symm, ⟨u, v, rfl, ?_, hq⟩, ?_⟩
    · rwa [List.append_assoc] at hp
    · rwa [List.append_assoc] at hr

theorem matches_unlessEmpty_iff : Matches (if q = empty then p else seq p q) before word after ↔
    Matches (seq p q) before word after := by
  split
  · next none => rw [none, matches_seq_empty_iff]
  · exact Iff.rfl

theorem matches_chain_iff (p q : Pattern) :
    Matches (chain p q) before word after ↔ Matches (seq p q) before word after := by
  induction p generalizing before word with
  | empty => exact matches_empty_seq_iff.symm
  | seq p r _ ih =>
    rw [chain, matches_seq_assoc_iff, matches_seq_iff, matches_seq_iff]
    simp only [ih]
  | char s => exact matches_unlessEmpty_iff
  | assertion a => exact matches_unlessEmpty_iff
  | alt p r => exact matches_unlessEmpty_iff
  | star p => exact matches_unlessEmpty_iff

/-- Regrouping changes no word. -/
theorem matches_normal_iff (p : Pattern) :
    Matches (normal p) before word after ↔ Matches p before word after := by
  induction p generalizing before word after with
  | empty => exact Iff.rfl
  | char s => exact Iff.rfl
  | assertion a => exact Iff.rfl
  | seq p q hp hq => simp only [normal, matches_chain_iff, matches_seq_iff, hp, hq]
  | alt p q hp hq => simp only [normal, matches_alt_iff, hp, hq]
  | star p hp =>
    rw [normal]
    constructor
    · intro h
      generalize starred : star (normal p) = s at h
      induction h with
      | starNil => exact .starNil
      | starCons first _ _ ih =>
        obtain rfl := Pattern.star.inj starred
        exact .starCons (hp.1 first) (ih rfl)
      | _ => cases starred
    · intro h
      generalize starred : star p = s at h
      induction h with
      | starNil => exact .starNil
      | starCons first _ _ ih =>
        obtain rfl := Pattern.star.inj starred
        exact .starCons (hp.2 first) (ih rfl)
      | _ => cases starred

theorem finds_iff_of_normal (same : normal p = normal q) (text : List Char) :
    p.Finds text ↔ q.Finds text := by
  have words (before word after : List Char) : Matches p before word after ↔
      Matches q before word after := by
    rw [← matches_normal_iff p, ← matches_normal_iff q, same]
  simp only [Finds, words]

end CommitLint.Pattern
