import CommitLint.Ignore
import CommitLint.Pattern.Reader
import CommitLint.Proofs.HeaderGrammar
import CommitLint.Proofs.PatternWords
import Mathlib

/-!
# Headers taken apart

A conventional header is put together from a type, a scope, a mark and a subject. `Parts` are such
parts, and `Parts.text` is the header that they make. No two of them make the same header, and the
reader gives back the type and the subject.

The grammar can be written as a pattern with five groups, `patternText`. What the groups stand for
in a header are its parts. As these are told apart in one way only, it does not matter which of
several words a search would rather give to a group.

* `Parts.text_injective` — a header is taken apart in one way;
* `splits_groups_iff` — the words of the five groups are those of the parts;
* `grammar_exact` — the reader, the grammar and the pattern.
-/

namespace CommitLint.ConventionalHeader

open Text

/-! ### Parts -/

def scopeText (scope? : Option String) : String := (scope?.map fun x => "(" ++ x ++ ")").getD ""

def markText (isMarked : Bool) : String := if isMarked then "!" else ""

def tailText (subject? : Option String) : String := (subject?.map fun s => " " ++ s).getD ""

/-- The parts of a header. -/
@[ext] structure Parts where
  /-- The type. -/
  type : String
  /-- What stands in parentheses after the type, if they are there. -/
  scope? : Option String
  /-- Whether there is an exclamation mark. -/
  isMarked : Bool
  /-- What stands after the colon and a blank, if they are not the end. -/
  subject? : Option String
  /-- There is a type. -/
  type_ne : type ≠ ""
  /-- The type is a word. -/
  type_word : ∀ c ∈ type.toList, isWordChar c = true
  /-- The first closing parenthesis closes the scope. -/
  scope_open : ∀ x ∈ scope?, ')' ∉ x.toList
  /-- The subject is on one line. -/
  subject_line : ∀ s ∈ subject?, '\n' ∉ s.toList

def Parts.text (p : Parts) : String :=
  p.type ++ scopeText p.scope? ++ markText p.isMarked ++ ":" ++ tailText p.subject?

/-- The characters of the five pieces that a header is made of. -/
def Parts.words (p : Parts) : List (List Char) :=
  [p.type.toList, (scopeText p.scope?).toList, (markText p.isMarked).toList, [':'],
    (tailText p.subject?).toList]

theorem Parts.flatten_words (p : Parts) : p.words.flatten = p.text.toList := by
  simp [words, text]

theorem isScope_iff {cs : List Char} :
    IsScope cs ↔ ∃ scope? : Option String, (∀ x ∈ scope?, ')' ∉ x.toList) ∧
    cs = (scopeText scope?).toList := by
  constructor
  · intro h
    rcases h with rfl | ⟨x, rfl, clean⟩
    · exact ⟨none, by simp, rfl⟩
    · exact ⟨some (String.ofList x), by simpa using clean, by simp [scopeText]⟩
  · intro h
    obtain ⟨scope?, clean, rfl⟩ := h
    cases scope? with
    | none => exact .inl rfl
    | some x => exact .inr ⟨x.toList, by simp [scopeText], clean x rfl⟩

theorem isMark_iff {cs : List Char} : IsMark cs ↔ ∃ isMarked, cs = (markText isMarked).toList := by
  constructor
  · intro h
    rcases h with rfl | rfl
    · exact ⟨false, rfl⟩
    · exact ⟨true, rfl⟩
  · intro h
    obtain ⟨isMarked, rfl⟩ := h
    cases isMarked with
    | false => exact .inl rfl
    | true => exact .inr rfl

theorem isTail_iff {cs subject : List Char} : IsTail cs subject ↔ ∃ subject? : Option String,
    (∀ s ∈ subject?, '\n' ∉ s.toList) ∧ cs = (tailText subject?).toList ∧
    subject = (subject?.getD "").toList := by
  constructor
  · intro h
    rcases h with ⟨rfl, rfl⟩ | ⟨rfl, clean⟩
    · exact ⟨none, by simp, rfl, rfl⟩
    · exact ⟨some (String.ofList subject), by simpa using clean, by simp [tailText], by simp⟩
  · intro h
    obtain ⟨subject?, clean, rfl, rfl⟩ := h
    cases subject? with
    | none => exact .inl ⟨rfl, rfl⟩
    | some s => exact .inr ⟨by simp [tailText], clean s rfl⟩

/-! ### Headers and parts -/

theorem Parts.form (p : Parts) : Form p.text.toList p.type.toList (p.subject?.getD "").toList := by
  refine form_iff.2 ⟨(scopeText p.scope?).toList, (markText p.isMarked).toList,
    (tailText p.subject?).toList,
    ?_, ?_, p.type_word, ?_, ?_, ?_⟩
  · simp [text]
  · simpa using p.type_ne
  · exact isScope_iff.2 ⟨_, p.scope_open, rfl⟩
  · exact isMark_iff.2 ⟨_, rfl⟩
  · exact isTail_iff.2 ⟨_, p.subject_line, rfl, rfl⟩

/-- Pieces that may stand in a header are those of some parts. -/
theorem exists_parts {type scope mark tail subject : List Char} (ne : type ≠ [])
    (word : ∀ c ∈ type, isWordChar c = true) (hscope : IsScope scope) (hmark : IsMark mark)
    (htail : IsTail tail subject) : ∃ p : Parts, p.words = [type, scope, mark, [':'], tail] := by
  obtain ⟨scope?, unclosed, rfl⟩ := isScope_iff.1 hscope
  obtain ⟨isMarked, rfl⟩ := isMark_iff.1 hmark
  obtain ⟨subject?, line, rfl, -⟩ := isTail_iff.1 htail
  refine ⟨⟨String.ofList type, scope?, isMarked, subject?, ?_, by simpa using word, unclosed, line⟩,
    ?_⟩
  · simpa using ne
  · simp [Parts.words]

/-- A header is of the form exactly when it can be put together from parts. -/
theorem exists_parts_iff (header : String) :
    (∃ p : Parts, p.text = header) ↔ ∃ type subject, Form header.toList type subject := by
  constructor
  · intro h
    obtain ⟨p, rfl⟩ := h
    exact ⟨_, _, p.form⟩
  · intro h
    obtain ⟨type, subject, h⟩ := h
    obtain ⟨scope, mark, tail, eq, ne, word, hscope, hmark, htail⟩ := form_iff.1 h
    obtain ⟨p, words⟩ := exists_parts ne word hscope hmark htail
    refine ⟨p, String.toList_injective ?_⟩
    rw [← p.flatten_words, words, eq]
    simp

theorem scopeText_injective : Function.Injective scopeText := by
  intro a b same
  cases a <;> cases b <;> simp_all [scopeText]

theorem markText_injective : Function.Injective markText := by
  intro a b same
  cases a <;> cases b <;> simp_all [markText]

theorem tailText_injective : Function.Injective tailText := by
  intro a b same
  cases a <;> cases b <;> simp_all [tailText]

/-- **A header is taken apart in one way.** Each piece ends where the reader ends it: the type
before the first character that is not of a word, the scope with the first closing parenthesis, the
mark before the colon. -/
theorem Parts.text_injective : Function.Injective Parts.text := by
  intro p q same
  have pieces (r : Parts) : r.text.toList = r.type.toList ++
      ((scopeText r.scope?).toList ++ ((markText r.isMarked).toList
        ++ ':' :: (tailText r.subject?).toList)) := by
    simp [text]
  have scope (r : Parts) : IsScope (scopeText r.scope?).toList :=
    isScope_iff.2 ⟨_, r.scope_open, rfl⟩
  have mark (r : Parts) : IsMark (markText r.isMarked).toList := isMark_iff.2 ⟨_, rfl⟩
  have types : p.type.toList = q.type.toList := by
    have read := parts?_of_form p.form
    rw [same, parts?_of_form q.form] at read
    exact (Prod.mk.inj (Option.some.inj read)).1.symm
  have afterType :
      (scopeText p.scope?).toList ++ ((markText p.isMarked).toList
        ++ ':' :: (tailText p.subject?).toList) =
        (scopeText q.scope?).toList ++ ((markText q.isMarked).toList
          ++ ':' :: (tailText q.subject?).toList) := by
    have chars := congrArg String.toList same
    rw [pieces, pieces, types] at chars
    exact List.append_cancel_left chars
  have scopeLeft : (markText p.isMarked).toList ++ ':' :: (tailText p.subject?).toList =
      (markText q.isMarked).toList ++ ':' :: (tailText q.subject?).toList := by
    rw [← afterScope_append (scope p) (head?_mark_ne (mark p)), afterType,
      afterScope_append (scope q) (head?_mark_ne (mark q))]
  have markLeft : ':' :: (tailText p.subject?).toList = ':' :: (tailText q.subject?).toList :=
    calc ':' :: (tailText p.subject?).toList
        = afterMark ((markText p.isMarked).toList ++ ':' :: (tailText p.subject?).toList) :=
          (afterMark_append (mark p) (by simp)).symm
      _ = afterMark ((markText q.isMarked).toList ++ ':' :: (tailText q.subject?).toList) :=
          congrArg afterMark scopeLeft
      _ = ':' :: (tailText q.subject?).toList := afterMark_append (mark q) (by simp)
  -- What is left after each piece is the same, and so are the pieces.
  rw [markLeft] at scopeLeft
  have marks := List.append_cancel_right scopeLeft
  rw [markLeft, marks] at afterType
  have scopes := List.append_cancel_right afterType
  apply Parts.ext
  · exact String.toList_injective types
  · exact scopeText_injective (String.toList_injective scopes)
  · exact markText_injective (String.toList_injective marks)
  · exact tailText_injective (String.toList_injective (List.cons.inj markLeft).2)

theorem parse_text (p : Parts) : parse p.text = ⟨p.type, (p.subject?.map trim).getD ""⟩ := by
  rw [parse_of_form p.form, String.ofList_toList, String.ofList_toList]
  cases p.subject? with
  | none => rfl
  | some s => rfl

theorem parse_of_no_parts {header : String} (none : ∀ p : Parts, p.text ≠ header) :
    parse header = ⟨"", trim header⟩ := by
  apply parse_of_not_form
  intro type subject form
  obtain ⟨p, made⟩ := (exists_parts_iff header).2 ⟨type, subject, form⟩
  exact none p made

theorem type_parse_ne_iff (header : String) :
    (parse header).type ≠ "" ↔ ∃ p : Parts, p.text = header := by
  constructor
  · intro typed
    by_contra none
    rw [parse_of_no_parts (not_exists.1 none)] at typed
    exact typed rfl
  · intro h
    obtain ⟨p, rfl⟩ := h
    rw [parse_text]
    exact p.type_ne

/-! ### The grammar as a pattern -/

/-- The grammar in the notation of patterns. -/
def patternText : String := "^(?P<type>\\w+)(?:\\([^)]*\\))?!?:(?: (?P<subject>.*))?$"

section

open Pattern

/-- The parts of the pattern: type, scope, mark, colon, and the subject after a blank. -/
def groups : List Pattern :=
  [times (char .word) 1 (star (char .word)),
   atMost (inOrder [char (.single '('), star (char (.compl (.single ')'))), char (.single ')')]) 1,
   atMost (char (.single '!')) 1,
   char (.single ':'),
   atMost (inOrder [char (.single ' '), restOfLine]) 1]

/-- The pattern: its parts from the start of the text to the end. -/
def pattern : Pattern := opening (groups ++ [.assertion .textEnd])

theorem ofText_patternText : Pattern.ofText patternText = .ok pattern := by decide +kernel

variable {before word after : List Char}

theorem matches_single_iff {a : Char} :
    Matches (char (.single a)) before word after ↔ word = [a] := by
  simp [matches_char_iff, CharSet.mem_single]

theorem matches_atMost_one_iff {p : Pattern} :
    Matches (atMost p 1) before word after ↔ word = [] ∨ Matches p before word after := by
  rw [atMost, atMost, matches_optional_iff, matches_seq_empty_iff]

theorem matches_type_iff : Matches (times (char .word) 1 (star (char .word))) before word after ↔
    word ≠ [] ∧ ∀ c ∈ word, isWordChar c = true := by
  have member (c : Char) : CharSet.word.mem c = isWordChar c := rfl
  simp only [times, matches_seq_iff, matches_char_iff, matches_star_char_iff, member]
  constructor
  · intro h
    obtain ⟨u, v, rfl, ⟨c, rfl, first⟩, rest⟩ := h
    exact ⟨by simp, List.forall_mem_cons.2 ⟨first, rest⟩⟩
  · intro h
    obtain ⟨ne, all⟩ := h
    obtain ⟨c, v, rfl⟩ := List.exists_cons_of_ne_nil ne
    exact ⟨[c], v, rfl, ⟨c, rfl, all c List.mem_cons_self⟩,
      fun d mem => all d (List.mem_cons_of_mem _ mem)⟩

theorem matches_scope_iff :
    Matches (atMost (inOrder [char (.single '('), star (char (.compl (.single ')'))),
    char (.single ')')]) 1) before word after ↔ IsScope word := by
  simp only [matches_atMost_one_iff, inOrder, matches_seq_iff, matches_single_iff,
    matches_star_compl_iff, IsScope]
  refine or_congr_right ?_
  constructor
  · intro h
    obtain ⟨u, v, rfl, rfl, x, w, rfl, clean, rfl⟩ := h
    exact ⟨x, rfl, clean⟩
  · intro h
    obtain ⟨x, rfl, clean⟩ := h
    exact ⟨['('], x ++ [')'], rfl, rfl, x, [')'], rfl, clean, rfl⟩

theorem matches_mark_iff :
    Matches (atMost (char (.single '!')) 1) before word after ↔ IsMark word := by
  rw [matches_atMost_one_iff, matches_single_iff, IsMark]

theorem matches_tail_iff :
    Matches (atMost (inOrder [char (.single ' '), restOfLine]) 1) before word after ↔
    ∃ subject, IsTail word subject := by
  simp only [matches_atMost_one_iff, inOrder, matches_seq_iff, matches_single_iff,
    matches_restOfLine_iff, IsTail]
  constructor
  · intro h
    rcases h with rfl | ⟨u, subject, rfl, rfl, clean⟩
    · exact ⟨[], .inl ⟨rfl, rfl⟩⟩
    · exact ⟨subject, .inr ⟨rfl, clean⟩⟩
  · intro h
    obtain ⟨subject, ⟨rfl, -⟩ | ⟨rfl, clean⟩⟩ := h
    · exact .inl rfl
    · exact .inr ⟨[' '], subject, rfl, rfl, clean⟩

/-- The words of the groups, one after the other, are the pieces of some parts. -/
theorem splits_groups_iff {words : List (List Char)} :
    Splits groups before words after ↔ ∃ p : Parts, words = p.words := by
  simp only [groups, splits_cons_iff, splits_nil_iff, matches_type_iff, matches_scope_iff,
    matches_mark_iff,
    matches_single_iff, matches_tail_iff]
  constructor
  · intro h
    obtain ⟨type, _, rfl, ⟨ne, word⟩, scope, _, rfl, hscope, mark, _, rfl, hmark, _, _, rfl,
        rfl, tail, _, rfl,
      ⟨subject, htail⟩, rfl⟩ := h
    obtain ⟨p, words⟩ := exists_parts ne word hscope hmark htail
    exact ⟨p, words.symm⟩
  · intro h
    obtain ⟨p, rfl⟩ := h
    exact ⟨_, _, rfl, ⟨by simpa using p.type_ne, p.type_word⟩, _, _, rfl,
      isScope_iff.2 ⟨_, p.scope_open, rfl⟩,
      _, _, rfl, isMark_iff.2 ⟨_, rfl⟩, _, _, rfl, rfl, _, _, rfl,
      ⟨_, isTail_iff.2 ⟨_, p.subject_line, rfl, rfl⟩⟩, rfl⟩

theorem isMatch_pattern_iff (header : String) :
    pattern.isMatch header = true ↔ ∃ p : Parts, p.text = header := by
  rw [isMatch_iff, pattern, opening, finds_textStart_seq_iff, matchesStart_inOrder_textEnd_iff]
  simp only [splits_groups_iff]
  constructor
  · intro h
    obtain ⟨_, eq, p, rfl⟩ := h
    exact ⟨p, String.toList_injective (p.flatten_words.symm.trans eq.symm)⟩
  · intro h
    obtain ⟨p, rfl⟩ := h
    exact ⟨p.words, p.flatten_words.symm, p, rfl⟩

end

/-- **The reader recognises exactly the grammar.** A header that is made of parts is made of these
parts only, and is read as their type and their subject without the white space around it. Every
other header has no type and is all subject. So a header has a type exactly when it is of the
grammar. The grammar is that of the pattern: a header is matched when it is made of parts, and
whichever way the groups are matched, their words are the pieces of the parts. -/
theorem grammar_exact :
    Function.Injective Parts.text ∧
    (∀ p : Parts, parse p.text = ⟨p.type, (p.subject?.map trim).getD ""⟩) ∧
    (∀ header, (∀ p : Parts, p.text ≠ header) → parse header = ⟨"", trim header⟩) ∧
    (∀ header, (parse header).type ≠ "" ↔ ∃ p : Parts, p.text = header) ∧
    (Pattern.ofText patternText = .ok pattern ∧
      (∀ header, pattern.isMatch header = true ↔ ∃ p : Parts, p.text = header) ∧
      ∀ words, Pattern.Splits groups [] words [] ↔ ∃ p : Parts, words = p.words) :=
  ⟨Parts.text_injective, parse_text, fun _ => parse_of_no_parts, type_parse_ne_iff,
    ofText_patternText,
    isMatch_pattern_iff, fun _ => splits_groups_iff⟩

/-- An exclamation mark before the scope is none. -/
theorem grammar_exact_misplaced :
    (∀ p : Parts, p.text ≠ "feat!(x): y") ∧ parse "feat!(x): y" = ⟨"", "feat!(x): y"⟩ := by
  obtain ⟨-, -, outside, typed, -⟩ := grammar_exact
  have untyped : (parse "feat!(x): y").type = "" := by decide +kernel
  have none (p : Parts) : p.text ≠ "feat!(x): y" :=
    fun made => (typed "feat!(x): y").2 ⟨p, made⟩ untyped
  have same : trim "feat!(x): y" = "feat!(x): y" := by decide +kernel
  refine ⟨none, (outside "feat!(x): y" none).trans ?_⟩
  rw [same]

end CommitLint.ConventionalHeader
