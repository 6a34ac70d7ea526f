import CommitLint.Message
import CommitLint.Text.Affix
import Mathlib

/-!
# The written lines of a text

A message is made of the lines of a text from the first to the last that is not blank. Here the same
lines are told without any trimming: `firstWritten` finds the header, `linesAfterFirst` are all
lines after it, and `writtenBody` are these up to the last one that is not blank.

* `header_parse`, `body_parse` — a parsed message consists of exactly these lines;
* `exists_mem_writtenBody_iff` — a line that is not blank is never lost at the end, so that it may
  be looked for among all lines after the header;
* `newline_not_mem_firstWritten` — a header has no line feed in it.
-/

namespace CommitLint

open Text

/-- The first line that is not blank, or the empty text when all are. -/
def firstWritten (ls : List String) : String := (ls.find? fun line => !isBlank line).getD ""

/-- The lines after the first one that is not blank. -/
def linesAfterFirst (ls : List String) : List String := (ls.dropWhile isBlank).tail

/-- The lines after the first one that is not blank, up to the last one that is not. -/
def writtenBody (ls : List String) : List String := (linesAfterFirst ls).rdropWhile isBlank

/-! ### Trimming blank lines -/

theorem dropBlankEnds_eq_rdropWhile (ls : List String) :
    dropBlankEnds ls = (ls.dropWhile isBlank).rdropWhile isBlank := rfl

theorem dropBlankEnds_cons_of_isBlank {line : String} (blank : isBlank line = true)
    (ls : List String) :
    dropBlankEnds (line :: ls) = dropBlankEnds ls := by
  rw [dropBlankEnds, List.dropWhile_cons_of_pos blank, dropBlankEnds]

theorem dropBlankEnds_concat_of_isBlank {line : String} (blank : isBlank line = true)
    (ls : List String) :
    dropBlankEnds (ls ++ [line]) = dropBlankEnds ls := by
  rw [dropBlankEnds_eq_rdropWhile, dropBlankEnds_eq_rdropWhile, List.dropWhile_append]
  split
  · next none =>
    rw [List.isEmpty_iff.1 none, List.dropWhile_cons_of_pos blank, List.dropWhile_nil]
  · exact List.rdropWhile_concat_pos isBlank _ line blank

/-- Blank lines around others do not count. -/
theorem dropBlankEnds_blanks {above below : List String}
    (first : ∀ line ∈ above, isBlank line = true)
    (last : ∀ line ∈ below, isBlank line = true) (ls : List String) :
    dropBlankEnds (above ++ ls ++ below) = dropBlankEnds ls := by
  induction above with
  | cons line above ih =>
    rw [List.cons_append, List.cons_append,
      dropBlankEnds_cons_of_isBlank (first line List.mem_cons_self)]
    exact ih fun other mem => first other (List.mem_cons_of_mem _ mem)
  | nil =>
    rw [List.nil_append]
    induction below using List.reverseRecOn with
    | nil => rw [List.append_nil]
    | append_singleton below line ih =>
      rw [← List.append_assoc, dropBlankEnds_concat_of_isBlank (last line (by simp))]
      exact ih fun other mem => last other (List.mem_append_left _ mem)

/-- What stands at the front stays there when the end is trimmed, if it is not trimmed itself. -/
theorem rdropWhile_cons_of_neg {α : Type*} {p : α → Bool} {a : α} (h : p a = false) (l : List α) :
    (a :: l).rdropWhile p = a :: l.rdropWhile p := by
  induction l using List.reverseRecOn with
  | nil => simp [h]
  | append_singleton l b ih =>
    rw [← List.cons_append]
    by_cases hb : p b = true
    · rw [List.rdropWhile_concat_pos p _ b hb, List.rdropWhile_concat_pos p _ b hb, ih]
    · rw [List.rdropWhile_concat_neg p _ b hb, List.rdropWhile_concat_neg p _ b hb,
        List.cons_append]

/-- Either all lines are blank, or the first that is not is what is left at the front. -/
theorem dropWhile_isBlank_eq (ls : List String) :
    (ls.dropWhile isBlank = [] ∧ firstWritten ls = "") ∨
      (isBlank (firstWritten ls) = false ∧
        ls.dropWhile isBlank = firstWritten ls :: linesAfterFirst ls) := by
  induction ls with
  | nil => exact Or.inl ⟨rfl, rfl⟩
  | cons line rest ih =>
    by_cases h : isBlank line = true
    · simpa [firstWritten, linesAfterFirst, h] using ih
    · refine Or.inr ?_
      simp [firstWritten, linesAfterFirst, h]

theorem dropBlankEnds_eq (ls : List String) :
    (dropBlankEnds ls = [] ∧ firstWritten ls = "" ∧ writtenBody ls = []) ∨
      dropBlankEnds ls = firstWritten ls :: writtenBody ls := by
  rw [dropBlankEnds_eq_rdropWhile]
  rcases dropWhile_isBlank_eq ls with ⟨none, empty⟩ | ⟨written, front⟩
  · exact Or.inl ⟨by simp [none], empty, by simp [writtenBody, linesAfterFirst, none]⟩
  · exact Or.inr (by rw [front, rdropWhile_cons_of_neg written, writtenBody])

/-- The header of a message is the first line of its text that is not blank. -/
theorem header_parse (text : String) : (Message.parse text).header = firstWritten (lines text) := by
  rw [Message.parse, Message.header_ofLines]
  rcases dropBlankEnds_eq (lines text) with ⟨none, empty, -⟩ | kept
  · rw [none, empty]
    rfl
  · rw [kept]
    rfl

/-- The body of a message are the lines after the header up to the last that is not blank. -/
theorem body_parse (text : String) : (Message.parse text).body = writtenBody (lines text) := by
  rw [Message.parse, Message.body_ofLines]
  rcases dropBlankEnds_eq (lines text) with ⟨none, -, empty⟩ | kept
  · rw [none, empty]
    rfl
  · rw [kept]
    rfl

/-! ### Lines that are never trimmed -/

/-- A member that is not trimmed itself is found after trimming as well as before. -/
theorem exists_mem_rdropWhile_iff {α : Type*} {p q : α → Bool}
    (apart : ∀ a, q a = true → p a = false)
    (l : List α) : (∃ a ∈ l.rdropWhile p, q a = true) ↔ ∃ a ∈ l, q a = true := by
  induction l using List.reverseRecOn with
  | nil => simp
  | append_singleton l b ih =>
    by_cases hb : p b = true
    · have hq : q b ≠ true := fun h => by simp [apart b h] at hb
      rw [List.rdropWhile_concat_pos p _ b hb, ih]
      simp [or_and_right, exists_or, hq]
    · rw [List.rdropWhile_concat_neg p _ b hb]

/-- A line that starts with a mark which is not blank is not blank itself. -/
theorem isBlank_eq_false_of_startsWith {line mark : String} (visible : isBlank mark = false)
    (h : startsWith line mark = true) : isBlank line = false := by
  obtain ⟨rest, eq⟩ := (startsWith_iff line mark).1 h
  rw [Bool.eq_false_iff, ne_eq, isBlank_iff] at visible ⊢
  intro blank
  apply visible
  intro c mem
  exact blank c (by rw [eq]; exact List.mem_append_left _ mem)

/-- A line with a mark stands in the body exactly when it stands anywhere after the header. -/
theorem exists_mem_writtenBody_iff {mark : String} (visible : isBlank mark = false)
    (ls : List String) :
    (∃ line ∈ writtenBody ls, startsWith line mark = true) ↔
      ∃ line ∈ linesAfterFirst ls, startsWith line mark = true :=
  exists_mem_rdropWhile_iff (fun _ => isBlank_eq_false_of_startsWith visible) _

/-! ### Lines have no line feeds -/

/-- A line feed stands at most at the end of a chunk. -/
theorem exists_content_of_mem_lineChunks {cs chunk : List Char} (h : chunk ∈ lineChunks cs) :
    ∃ content, '\n' ∉ content ∧ (chunk = content ∨ chunk = content ++ ['\n']) := by
  induction cs generalizing chunk with
  | nil => simp [lineChunks] at h
  | cons c cs ih =>
    by_cases hc : c = '\n'
    · subst hc
      rw [lineChunks_newline] at h
      rcases List.mem_cons.1 h with rfl | h
      · exact ⟨[], by simp, Or.inr rfl⟩
      · exact ih h
    · have single : ∃ content, '\n' ∉ content ∧ ([c] = content ∨ [c] = content ++ ['\n']) :=
        ⟨[c], by simpa using Ne.symm hc, Or.inl rfl⟩
      rw [lineChunks, if_neg hc] at h
      split at h
      · obtain rfl := List.mem_singleton.1 h
        exact single
      · next first others eq =>
        rcases List.mem_cons.1 h with rfl | h
        · obtain ⟨content, clean, ending⟩ := @ih first (by rw [eq]; exact List.mem_cons_self)
          refine ⟨c :: content, by simp [clean, Ne.symm hc], ?_⟩
          rcases ending with rfl | rfl
          · exact Or.inl rfl
          · exact Or.inr rfl
        · exact ih (by rw [eq]; exact List.mem_cons_of_mem _ h)

/-- What is kept of a chunk comes from before its line feed. -/
theorem newline_not_mem_chunkContent {content chunk : List Char} (clean : '\n' ∉ content)
    (h : chunk = content ∨ chunk = content ++ ['\n']) : '\n' ∉ chunkContent chunk := by
  have clean_reverse : '\n' ∉ content.reverse := by simpa using clean
  rcases h with rfl | rfl
  · rw [chunkContent]
    split
    · next eq => rw [eq] at clean_reverse; simp at clean_reverse
    · next eq => rw [eq] at clean_reverse; simp at clean_reverse
    · exact clean
  · rw [chunkContent, List.reverse_append, List.reverse_singleton, List.singleton_append]
    split
    · next before eq =>
      obtain ⟨-, eq⟩ := List.cons.inj eq
      rw [eq] at clean_reverse
      intro mem
      exact clean_reverse (List.mem_cons_of_mem _ (List.mem_reverse.1 mem))
    · next eq =>
      obtain ⟨-, rfl⟩ := List.cons.inj eq
      simpa using clean
    · next none => exact absurd rfl (none _)

theorem newline_not_mem_of_mem_lines {text line : String} (h : line ∈ lines text) :
    '\n' ∉ line.toList := by
  obtain ⟨chunk, mem, rfl⟩ := List.mem_map.1 h
  obtain ⟨content, clean, ending⟩ := exists_content_of_mem_lineChunks mem
  rw [String.toList_ofList]
  exact newline_not_mem_chunkContent clean ending

/-- A header is one line. -/
theorem newline_not_mem_firstWritten (text : String) :
    '\n' ∉ (firstWritten (lines text)).toList := by
  rw [firstWritten]
  cases found : (lines text).find? fun line => !isBlank line with
  | none => simp
  | some line => exact newline_not_mem_of_mem_lines (List.mem_of_find?_eq_some found)

end CommitLint
