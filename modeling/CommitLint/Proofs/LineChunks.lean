import CommitLint.Proofs.CleanedMessages
import Mathlib

/-!
# Lines with their ends

A text is cut into chunks, each a line with the line feed at its end; the last line may have none.
Chunks that are left when others are taken away are the chunks of what they make when put together,
and a text that is put after the end of a line is cut by itself.

* `lineChunks_flatten` — what is left of the chunks of a text is cut in the same places;
* `lineChunks_append`, `lines_append` — texts that are put one after the other.
-/

namespace CommitLint.Text

/-! ### Chunks -/

/-- Chunks as they are cut: lines with their line feeds, and at last perhaps a line without. -/
inductive Chunked : List (List Char) → Prop
  /-- Nothing is cut into no chunks. -/
  | nil : Chunked []
  /-- A last line without a line feed. -/
  | last {line : List Char} : '\n' ∉ line → line ≠ [] → Chunked [line]
  /-- A line with its line feed. -/
  | cons {line : List Char} {chunks : List (List Char)} : '\n' ∉ line → Chunked chunks →
    Chunked ((line ++ ['\n']) :: chunks)

theorem chunked_lineChunks (cs : List Char) : Chunked (lineChunks cs) := by
  induction cs with
  | nil => exact .nil
  | cons c cs ih =>
    by_cases feed : c = '\n'
    · subst feed
      rw [lineChunks_newline]
      exact @Chunked.cons [] _ List.not_mem_nil ih
    · rw [lineChunks, if_neg feed]
      -- The character goes to the front of the first chunk, if there is one.
      generalize lineChunks cs = chunks at ih
      cases ih with
      | nil => exact .last (by simpa using Ne.symm feed) (List.cons_ne_nil c [])
      | last single nonempty => exact .last (by simp [single, Ne.symm feed]) (List.cons_ne_nil c _)
      | @cons line chunks single others =>
        exact @Chunked.cons (c :: line) chunks (by simp [single, Ne.symm feed]) others

/-- Chunks may be taken away. -/
theorem Chunked.sublist {chunks others : List (List Char)} (h : Chunked chunks)
    (left : others.Sublist chunks) :
    Chunked others := by
  induction h generalizing others with
  | nil => exact List.sublist_nil.1 left ▸ .nil
  | last single nonempty =>
    rcases List.sublist_singleton.1 left with rfl | rfl
    · exact .nil
    · exact .last single nonempty
  | cons single _ ih =>
    cases left with
    | cons _ rest => exact ih rest
    | cons_cons _ rest => exact .cons single (ih rest)

/-- Chunks that are put together are cut again as they were. -/
theorem Chunked.lineChunks_flatten {chunks : List (List Char)} (h : Chunked chunks) :
    lineChunks chunks.flatten = chunks := by
  induction h with
  | nil => rfl
  | last single nonempty =>
    rw [List.flatten_singleton]
    exact lineChunks_of_single single nonempty
  | cons single _ ih =>
    rw [List.flatten_cons, List.append_assoc, List.singleton_append,
      lineChunks_append_newline single, ih]

/-- What is left of the chunks of a text is cut in the same places. -/
theorem lineChunks_flatten {chunks : List (List Char)} {cs : List Char}
    (left : chunks.Sublist (lineChunks cs)) :
    lineChunks chunks.flatten = chunks :=
  ((chunked_lineChunks cs).sublist left).lineChunks_flatten

/-- Of a line that ends in a carriage return and a line feed both are dropped. -/
theorem chunkContent_append_return (line : List Char) :
    chunkContent (line ++ ['\r', '\n']) = line := by
  simp [chunkContent]

/-! ### Texts that end where a line ends -/

/-- Whether characters end where a line ends: with a line feed, or before there are any. -/
def EndsLine (cs : List Char) : Prop := cs.getLast?.getD '\n' = '\n'

instance decidableEndsLine (cs : List Char) : Decidable (EndsLine cs) :=
  inferInstanceAs (Decidable (cs.getLast?.getD '\n' = '\n'))

theorem endsLine_nil : EndsLine [] := rfl

theorem endsLine_concat (cs : List Char) : EndsLine (cs ++ ['\n']) := by simp [EndsLine]

/-- What comes after the first character ends where a line ends, and is there unless that was a line
feed. -/
theorem EndsLine.tail {c : Char} {cs : List Char} (ends : EndsLine (c :: cs)) :
    EndsLine cs ∧ (c ≠ '\n' → cs ≠ []) := by
  cases cs with
  | nil => exact ⟨endsLine_nil, fun other => absurd ends other⟩
  | cons d ds =>
    rw [EndsLine, List.getLast?_cons_cons] at ends
    exact ⟨ends, fun _ => List.cons_ne_nil d ds⟩

/-- What comes after the end of a line is cut by itself. -/
theorem lineChunks_append {cs : List Char} (ends : EndsLine cs) (rest : List Char) :
    lineChunks (cs ++ rest) = lineChunks cs ++ lineChunks rest := by
  induction cs with
  | nil => rfl
  | cons c cs ih =>
    obtain ⟨others, more⟩ := ends.tail
    rw [List.cons_append]
    by_cases feed : c = '\n'
    · subst feed
      rw [lineChunks_newline, lineChunks_newline, ih others, List.cons_append]
    · have nonempty : lineChunks cs ≠ [] := by
        intro none
        have all := flatten_lineChunks cs
        rw [none, List.flatten_nil] at all
        exact more feed all.symm
      obtain ⟨chunk, chunks, eq⟩ := List.exists_cons_of_ne_nil nonempty
      rw [lineChunks, if_neg feed, ih others, lineChunks, if_neg feed, eq]
      rfl

theorem lines_append {before : String} (ends : EndsLine before.toList) (after : String) :
    lines (before ++ after) = lines before ++ lines after := by
  rw [lines, String.toList_append, lineChunks_append ends, List.map_append]
  rfl

/-- Every text is one that ends where a line ends, and then a last line without a line feed. -/
theorem exists_last_line (cs : List Char) :
    ∃ front line, cs = front ++ line ∧ EndsLine front ∧ '\n' ∉ line := by
  induction cs using List.reverseRecOn with
  | nil => exact ⟨[], [], rfl, endsLine_nil, List.not_mem_nil⟩
  | append_singleton cs c ih =>
    obtain ⟨front, line, rfl, ends, single⟩ := ih
    by_cases feed : c = '\n'
    · subst feed
      exact ⟨front ++ line ++ ['\n'], [], by simp, endsLine_concat _, List.not_mem_nil⟩
    · exact ⟨front, line ++ [c], by simp, ends, by simp [single, Ne.symm feed]⟩

end CommitLint.Text
