import CommitLint.ConventionalHeader
import CommitLint.Text.Reading
import Mathlib

/-!
# The reader of headers and the grammar

`ConventionalHeader.parts?` reads a header from the left, one optional part after the other. It
recognises the grammar `ConventionalHeader.Form` and nothing else.

* `parts?_of_form`, `form_of_parts?` — the reader is complete and sound;
* `parse_of_form`, `parse_of_not_form` — type and subject of a header inside and outside the
  grammar;
* `exists_typed_iff` — the headers whose type is one of a list, with what they say after the colon.
-/

namespace CommitLint.ConventionalHeader

open Text

/-- Nothing, or characters in parentheses, none of which closes them. -/
def IsScope (cs : List Char) : Prop := cs = [] ∨ ∃ x, cs = '(' :: x ++ [')'] ∧ ')' ∉ x

/-- Nothing, or an exclamation mark. -/
def IsMark (cs : List Char) : Prop := cs = [] ∨ cs = ['!']

/-- What may follow the colon: nothing, or a blank and a subject on the same line. -/
def IsTail (tail subject : List Char) : Prop :=
  tail = [] ∧ subject = [] ∨ tail = ' ' :: subject ∧ '\n' ∉ subject

theorem form_iff {cs type subject : List Char} :
    Form cs type subject ↔ ∃ scope mark tail,
      cs = type ++ scope ++ mark ++ ':' :: tail ∧ type ≠ [] ∧
      (∀ c ∈ type, isWordChar c = true) ∧ IsScope scope ∧ IsMark mark ∧ IsTail tail subject := by
  constructor
  · rintro ⟨ne, word, scope, mark, tail⟩
    exact ⟨_, _, _, rfl, ne, word, scope, mark, tail⟩
  · rintro ⟨scope, mark, tail, rfl, ne, word, hscope, hmark, htail⟩
    exact Form.mk ne word hscope hmark htail

/-! ### The optional parts -/

theorem afterScope_append {scope rest : List Char} (h : IsScope scope)
    (closed : rest.head? ≠ some '(') :
    afterScope (scope ++ rest) = rest := by
  rcases h with rfl | ⟨x, rfl, clean⟩
  · rw [List.nil_append]
    unfold afterScope
    split
    · simp at closed
    · rfl
  · have inside : ∀ c ∈ x, decide (c ≠ ')') = true :=
      fun c mem => decide_eq_true fun eq => clean (eq ▸ mem)
    have stop : ∀ c ∈ (')' :: rest).head?, decide (c ≠ ')') = false := by simp
    have inner := (Reading.span_append inside stop).2
    simp only [List.cons_append, List.append_assoc, List.nil_append, afterScope, inner]

/-- What is taken off is a scope, whatever follows. -/
theorem exists_scope (cs : List Char) : ∃ scope, IsScope scope ∧ cs = scope ++ afterScope cs := by
  unfold afterScope
  split
  · next inner =>
    split
    · next rest eq =>
      refine ⟨'(' :: inner.takeWhile (· ≠ ')') ++ [')'], Or.inr ⟨_, rfl, ?_⟩, ?_⟩
      · intro mem
        simpa using List.mem_takeWhile_imp mem
      · calc '(' :: inner
            = '(' :: (inner.takeWhile (· ≠ ')') ++ inner.dropWhile (· ≠ ')')) := by
              rw [List.takeWhile_append_dropWhile]
          _ = '(' :: inner.takeWhile (· ≠ ')') ++ [')'] ++ rest := by
              rw [eq, List.append_assoc]
              rfl
    · exact ⟨[], Or.inl rfl, rfl⟩
  · exact ⟨[], Or.inl rfl, rfl⟩

theorem afterMark_append {mark rest : List Char} (h : IsMark mark) (plain : rest.head? ≠ some '!') :
    afterMark (mark ++ rest) = rest := by
  rcases h with rfl | rfl
  · rw [List.nil_append]
    unfold afterMark
    split
    · simp at plain
    · rfl
  · rfl

theorem exists_mark (cs : List Char) : ∃ mark, IsMark mark ∧ cs = mark ++ afterMark cs := by
  unfold afterMark
  split
  · exact ⟨['!'], Or.inr rfl, rfl⟩
  · exact ⟨[], Or.inl rfl, rfl⟩

theorem subjectPart?_eq_some_iff {cs subject : List Char} :
    subjectPart? cs = some subject ↔ ∃ tail, cs = ':' :: tail ∧ IsTail tail subject := by
  constructor
  · intro h
    unfold subjectPart? at h
    split at h
    · exact ⟨[], rfl, Or.inl ⟨rfl, (Option.some.inj h).symm⟩⟩
    · split at h
      · cases h
      · next clean =>
        obtain rfl := Option.some.inj h
        exact ⟨_, rfl, Or.inr ⟨rfl, clean⟩⟩
    · cases h
  · rintro ⟨tail, rfl, ⟨rfl, rfl⟩ | ⟨rfl, clean⟩⟩
    · rfl
    · simp [subjectPart?, clean]

/-! ### The reader and the grammar -/

theorem isWordChar_parenthesis : isWordChar '(' = false := by decide +kernel

theorem isWordChar_exclamation : isWordChar '!' = false := by decide +kernel

/-- The word at the front ends where the scope, the mark or the colon begins. -/
theorem isWordChar_head {scope mark : List Char} (hscope : IsScope scope) (hmark : IsMark mark)
    (tail : List Char) :
    ∃ c rest, scope ++ mark ++ ':' :: tail = c :: rest ∧ isWordChar c = false := by
  rcases hscope with rfl | ⟨x, rfl, -⟩
  · rcases hmark with rfl | rfl
    · exact ⟨_, _, rfl, isWordChar_colon⟩
    · exact ⟨_, _, rfl, isWordChar_exclamation⟩
  · exact ⟨_, _, rfl, isWordChar_parenthesis⟩

theorem head?_mark_ne {mark tail : List Char} (h : IsMark mark) :
    (mark ++ ':' :: tail).head? ≠ some '(' := by
  rcases h with rfl | rfl <;> simp

theorem parts?_of_form {cs type subject : List Char} (h : Form cs type subject) :
    parts? cs = some (type, subject) := by
  obtain ⟨scope, mark, tail, rfl, ne, word, hscope, hmark, htail⟩ := form_iff.1 h
  obtain ⟨c, rest, front, stop⟩ := isWordChar_head hscope hmark tail
  have stops : ∀ d ∈ (c :: rest).head?, isWordChar d = false := by simp [stop]
  obtain ⟨read, left⟩ := Reading.span_append word stops
  have said : subjectPart? (afterMark (afterScope (c :: rest))) = some subject := by
    rw [← front, List.append_assoc, afterScope_append hscope (head?_mark_ne hmark),
      afterMark_append hmark (by simp), subjectPart?_eq_some_iff]
    exact ⟨tail, rfl, htail⟩
  have cut : type ++ scope ++ mark ++ ':' :: tail = type ++ (c :: rest) := by
    rw [← front]
    simp only [List.append_assoc]
  rw [cut, parts?, read, left, said]
  cases type with
  | nil => exact absurd rfl ne
  | cons t ts => rfl

theorem form_of_parts? {cs type subject : List Char} (h : parts? cs = some (type, subject)) :
    Form cs type subject := by
  rw [parts?] at h
  split at h
  · cases h
  · next ne =>
    obtain ⟨found, said, eq⟩ := Option.map_eq_some_iff.1 h
    obtain ⟨rfl, rfl⟩ := Prod.mk.inj eq
    obtain ⟨tail, colon, htail⟩ := subjectPart?_eq_some_iff.1 said
    obtain ⟨scope, hscope, eqScope⟩ := exists_scope (cs.dropWhile isWordChar)
    obtain ⟨mark, hmark, eqMark⟩ := exists_mark (afterScope (cs.dropWhile isWordChar))
    refine form_iff.2 ⟨scope, mark, tail, ?_, ne, fun c mem => List.mem_takeWhile_imp mem,
      hscope, hmark, htail⟩
    calc cs = cs.takeWhile isWordChar ++ cs.dropWhile isWordChar :=
      List.takeWhile_append_dropWhile.symm
      _ = cs.takeWhile isWordChar ++ (scope ++ (mark ++ ':' :: tail)) := by
          rw [← colon, ← eqMark, ← eqScope]
      _ = cs.takeWhile isWordChar ++ scope ++ mark ++ ':' :: tail := by
          simp only [List.append_assoc]

theorem parse_of_form {header : String} {type subject : List Char}
    (h : Form header.toList type subject) :
    parse header = ⟨String.ofList type, trim (String.ofList subject)⟩ := by
  rw [parse, parts?_of_form h]

theorem parse_of_not_form {header : String}
    (h : ∀ type subject, ¬ Form header.toList type subject) :
    parse header = ⟨"", trim header⟩ := by
  rw [parse]
  split
  · next type subject eq => exact absurd (form_of_parts? eq) (h type subject)
  · rfl

/-! ### Headers of given types -/

/-- A header is made of a type, an optional scope, an optional mark, a colon with a blank, and a
subject. -/
structure Made (header type scope mark subject : String) : Prop where
  /-- The parts make up the header. -/
  parts : header = type ++ scope ++ mark ++ ": " ++ subject
  /-- The scope is empty or stands in parentheses. -/
  scope_form : scope = "" ∨ ∃ x : String, scope = "(" ++ x ++ ")" ∧ ')' ∉ x.toList
  /-- The mark is empty or an exclamation mark. -/
  mark_form : mark = "" ∨ mark = "!"

theorem Made.form {header type scope mark subject : String}
    (h : Made header type scope mark subject)
    (oneLine : '\n' ∉ header.toList) (ne : type ≠ "")
    (word : ∀ c ∈ type.toList, isWordChar c = true) :
    Form header.toList type.toList subject.toList := by
  obtain ⟨rfl, hscope, hmark⟩ := h
  have clean : '\n' ∉ subject.toList := fun mem => oneLine (by simp [mem])
  refine form_iff.2 ⟨scope.toList, mark.toList, ' ' :: subject.toList, ?_, ?_, word, ?_, ?_,
    Or.inr ⟨rfl, clean⟩⟩
  · simp
  · simpa using ne
  · rcases hscope with rfl | ⟨x, rfl, closed⟩
    · exact Or.inl rfl
    · exact Or.inr ⟨x.toList, by simp, closed⟩
  · rcases hmark with rfl | rfl
    · exact Or.inl rfl
    · exact Or.inr rfl

/-- A header of the grammar with something after its colon is made of its parts. -/
theorem exists_made_of_form {header : String} {type subject : List Char}
    (h : Form header.toList type subject)
    (said : subject ≠ []) :
    ∃ scope mark, Made header (String.ofList type) scope mark (String.ofList subject) := by
  obtain ⟨scope, mark, tail, eq, -, -, hscope, hmark, ⟨-, none⟩ | ⟨rfl, -⟩⟩ := form_iff.1 h
  · exact absurd none said
  refine ⟨String.ofList scope, String.ofList mark, ?_, ?_, ?_⟩
  · rw [← String.ofList_toList (s := header), eq]
    apply String.toList_injective
    simp
  · rcases hscope with rfl | ⟨x, rfl, closed⟩
    · exact Or.inl rfl
    · refine Or.inr ⟨String.ofList x, ?_, by simpa using closed⟩
      apply String.toList_injective
      simp
  · rcases hmark with rfl | rfl
    · exact Or.inl rfl
    · exact Or.inr rfl

/-- The headers of one line whose type is one of a list of words and whose subject is not empty:
they are made of these parts. -/
theorem exists_typed_iff {header : String} (oneLine : '\n' ∉ header.toList) {types : List String}
    (words : ∀ type ∈ types, type ≠ "" ∧ ∀ c ∈ type.toList, isWordChar c = true)
    (good : String → Prop) :
    ((parse header).type ∈ types ∧ (parse header).subject ≠ "" ∧ good (parse header).subject) ↔
      ∃ type scope mark subject, Made header type scope mark subject ∧ type ∈ types ∧
        trim subject ≠ "" ∧ good (trim subject) := by
  constructor
  · rintro ⟨listed, said, hgood⟩
    by_cases h : ∃ type subject, Form header.toList type subject
    · obtain ⟨type, subject, form⟩ := h
      rw [parse_of_form form] at listed said hgood
      have ne : subject ≠ [] := by
        rintro rfl
        exact said rfl
      obtain ⟨scope, mark, made⟩ := exists_made_of_form form ne
      exact ⟨_, scope, mark, _, made, listed, said, hgood⟩
    · rw [parse_of_not_form fun type subject form => h ⟨type, subject, form⟩] at listed
      exact absurd rfl (words _ listed).1
  · rintro ⟨type, scope, mark, subject, made, listed, said, hgood⟩
    obtain ⟨ne, word⟩ := words type listed
    rw [parse_of_form (made.form oneLine ne word)]
    simp only [String.ofList_toList]
    exact ⟨listed, said, hgood⟩

end CommitLint.ConventionalHeader
