import CommitLint.Proofs.LineChunks
import CommitLint.Proofs.Routes
import Mathlib

/-!
# Edited messages

What an editor leaves behind is a text with more in it than the message. `countedText` is the text
without the lines that do not count: the comments, and all from the scissors line on. The lines that
are left keep their ends, and are read as they stand; and so it does not matter what stands in the
others.

* `ofEditFile_eq_parse_countedText` — an edited message is the message of the text that counts;
* `Retouch`, `countedText_of_retouched` — texts that differ in comments and behind scissors lines;
* `edited_counts_only` — what an edited message does not depend on, and what it does not contain.
-/

namespace CommitLint

open Text

/-! ### Lines that count -/

/-- Whether a line with its end is the scissors line. -/
def isCut (chunk : List Char) : Bool := String.ofList (chunkContent chunk) = scissors

/-- Whether a line with its end is a comment. -/
def isRemark (chunk : List Char) : Bool := chunk.head? = some '#'

/-- The lines that count, with their ends: those before the scissors line that are no comments. -/
def countedChunks (chunks : List (List Char)) : List (List Char) :=
  (chunks.takeWhile (!isCut ·)).filter (!isRemark ·)

def countedText (content : String) : String :=
  String.ofList (countedChunks (lineChunks content.toList)).flatten

theorem countedChunks_sublist (chunks : List (List Char)) : (countedChunks chunks).Sublist chunks :=
  List.filter_sublist.trans (List.takeWhile_sublist _)

/-- A line is a comment whether it is seen with its end or without. -/
theorem isComment_chunkContent (chunk : List Char) :
    isComment (String.ofList (chunkContent chunk)) = isRemark chunk := by
  obtain ⟨terminator, eq, spaces⟩ := exists_terminator chunk
  rw [isComment, String.toList_ofList, isRemark]
  conv_rhs => rw [eq]
  cases content : chunkContent chunk with
  | cons c cs => rfl
  | nil =>
    -- Nothing but the end is there, and it has no number sign.
    cases terminator with
    | nil => rfl
    | cons c cs =>
      have space : isSpace c = true := spaces c List.mem_cons_self
      have other : c ≠ '#' := by
        rintro rfl
        exact absurd space (by decide)
      simp [other]

/-- The lines of the text that counts are the lines that count. -/
theorem lines_countedText (content : String) :
    lines (countedText content) = countedLines (lines content) := by
  have cut : lineChunks (countedText content).toList =
      countedChunks (lineChunks content.toList) := by
    rw [countedText, String.toList_ofList]
    exact lineChunks_flatten (countedChunks_sublist _)
  rw [lines, cut, countedLines, lines, List.takeWhile_map, List.filter_map]
  have uncut : (fun line => decide (line ≠ scissors)) ∘
      (fun chunk => String.ofList (chunkContent chunk)) =
      fun chunk => !isCut chunk := by
    funext chunk
    simp [isCut]
  have unmarked : (fun line => !isComment line) ∘
      (fun chunk => String.ofList (chunkContent chunk)) =
      fun chunk => !isRemark chunk := by
    funext chunk
    simp [isComment_chunkContent]
  rw [uncut, unmarked, countedChunks]

/-- An edited message is the message of the text that counts. -/
theorem ofEditFile_eq_parse_countedText (content : String) :
    Message.ofEditFile content = Message.parse (countedText content) := by
  rw [Message.ofEditFile, Message.parse, lines_countedText]

/-! ### Texts that differ in what does not count -/

/-- Whether characters are one line, with its end if it has one, that is a comment and not the
scissors line. -/
structure IsCommentLine (line : List Char) : Prop where
  /-- There is one line. -/
  single : lineChunks line = [line]
  /-- It is a comment. -/
  remark : isRemark line = true
  /-- It is not the scissors line. -/
  uncut : isCut line = false

/-- Whether characters are the scissors line with its end. -/
structure IsScissorsLine (line : List Char) : Prop where
  /-- There is one line. -/
  single : lineChunks line = [line]
  /-- It has an end. -/
  ends : EndsLine line
  /-- It is the scissors line. -/
  cut : isCut line = true

/-- The marker is the scissors line when a carriage return and a line feed come after it. -/
theorem isScissorsLine_return : IsScissorsLine (scissors ++ "\r\n").toList := by
  have chars : (scissors ++ "\r\n").toList = scissors.toList ++ ['\r'] ++ ['\n'] := by
    rw [String.toList_append, List.append_assoc]
    rfl
  have single : '\n' ∉ scissors.toList ++ ['\r'] := by decide +kernel
  rw [chars]
  refine ⟨?_, endsLine_concat _, ?_⟩
  · rw [lineChunks_append_newline single, lineChunks_nil]
  · rw [isCut, List.append_assoc]
    show decide (String.ofList (chunkContent (scissors.toList ++ ['\r', '\n'])) = scissors) = true
    rw [chunkContent_append_return, String.ofList_toList, decide_eq_true rfl]

/-- One change of a text in what does not count: a whole comment line is taken out, or what stands
behind a scissors line is replaced. -/
inductive Retouch : String → String → Prop
  /-- A comment line is taken out. If it has no end, it is the last line. -/
  | comment {before line after : String} : EndsLine before.toList → IsCommentLine line.toList →
    (EndsLine line.toList ∨ after = "") → Retouch (before ++ line ++ after) (before ++ after)
  /-- Other text is put behind a scissors line. -/
  | tail {before line : String} (after after' : String) : EndsLine before.toList →
    IsScissorsLine line.toList →
    Retouch (before ++ line ++ after) (before ++ line ++ after')

/-- Whether a text becomes another by changes, made or undone, in what does not count. -/
abbrev Retouched : String → String → Prop := Relation.EqvGen Retouch

/-- A comment does not count wherever it stands. -/
theorem countedChunks_comment {line : List Char} (remark : isRemark line = true)
    (uncut : isCut line = false)
    (before after : List (List Char)) :
    countedChunks (before ++ line :: after) = countedChunks (before ++ after) := by
  induction before with
  | nil => simp [countedChunks, remark, uncut]
  | cons chunk before ih =>
    cases cut : isCut chunk with
    | true => simp [countedChunks, cut]
    | false =>
      simp only [countedChunks, List.cons_append] at ih ⊢
      rw [List.takeWhile_cons_of_pos (by simp [cut]), List.takeWhile_cons_of_pos (by simp [cut]),
        List.filter_cons, List.filter_cons, ih]

/-- Nothing counts from the scissors line on. -/
theorem countedChunks_cut {line : List Char} (cut : isCut line = true)
    (before after : List (List Char)) :
    countedChunks (before ++ line :: after) = countedChunks before := by
  have stop : (before ++ line :: after).takeWhile (!isCut ·) = before.takeWhile (!isCut ·) := by
    induction before with
    | nil => simp [cut]
    | cons chunk before ih => rw [List.cons_append, List.takeWhile_cons, List.takeWhile_cons, ih]
  rw [countedChunks, stop, countedChunks]

/-- A change in what does not count leaves the text that counts as it is. -/
theorem countedText_of_retouch {content other : String} (h : Retouch content other) :
    countedText content = countedText other := by
  cases h with
  | @comment before line after complete comment whole =>
    have chunks : lineChunks (line.toList ++ after.toList) =
        line.toList :: lineChunks after.toList := by
      rcases whole with ends | rfl
      · rw [lineChunks_append ends, comment.single, List.singleton_append]
      · rw [String.toList_empty, List.append_nil, comment.single, lineChunks_nil]
    rw [countedText, countedText, String.toList_append, String.toList_append, String.toList_append,
      List.append_assoc, lineChunks_append complete, lineChunks_append complete, chunks,
      countedChunks_comment comment.remark comment.uncut]
  | @tail before line after after' complete scissors =>
    have counted : ∀ after : String, countedText (before ++ line ++ after) =
        countedText before := by
      intro after
      have chunks : lineChunks (before ++ line ++ after).toList =
          lineChunks before.toList ++ line.toList :: lineChunks after.toList := by
        rw [String.toList_append, String.toList_append, List.append_assoc,
          lineChunks_append complete,
          lineChunks_append scissors.ends, scissors.single, List.singleton_append]
      rw [countedText, chunks, countedChunks_cut scissors.cut, countedText]
    rw [counted after, counted after']

theorem countedText_of_retouched {content other : String} (h : Retouched content other) :
    countedText content = countedText other := by
  induction h with
  | rel _ _ change => exact countedText_of_retouch change
  | refl _ => rfl
  | symm _ _ _ ih => exact ih.symm
  | trans _ _ _ _ _ first second => exact first.trans second

/-! ### No comments in a message -/

theorem isComment_of_mem_countedLines {ls : List String} {line : String}
    (mem : line ∈ countedLines ls) :
    isComment line = false := by
  simpa using (List.mem_filter.1 mem).2

/-- The lines of an edited message are no comments. -/
theorem isComment_of_mem_kept {content line : String}
    (mem : line ∈ (Message.ofEditFile content).kept) :
    isComment line = false := by
  by_cases none : dropBlankEnds (countedLines (lines content)) = []
  · have empty : (Message.ofEditFile content).kept = [""] := by
      rw [Message.ofEditFile, Message.kept, Message.header_ofLines, Message.body_ofLines, none]
      rfl
    rw [empty, List.mem_singleton] at mem
    subst mem
    decide
  · rw [Message.ofEditFile, kept_ofLines none] at mem
    obtain ⟨above, below, eq, -⟩ := exists_append_dropBlankEnds (countedLines (lines content))
    apply isComment_of_mem_countedLines
    rw [eq]
    exact List.mem_append_left _ (List.mem_append_right _ mem)

theorem isComment_reread (line : String) : isComment (reread line) = isComment line := by
  rw [reread, isComment_chunkContent, isRemark, isComment]
  cases line.toList <;> rfl

/-- Nor are the lines that its text has when it is read again. -/
theorem isComment_of_mem_lines_raw {content line : String}
    (mem : line ∈ lines (Message.ofEditFile content).raw) :
    isComment line = false := by
  have plain := @isComment_of_mem_kept content
  rw [ofEditFile_eq_parse_countedText] at mem plain
  cases blank : isBlank (countedText content) with
  | true =>
    rw [parse_of_isBlank blank] at mem
    cases mem
  | false =>
    have clean := clean_parse blank
    rw [clean.lines_raw] at mem
    have known : ∀ other ∈ (Message.parse (countedText content)).kept.dropLast ++
        [(Message.parse (countedText content)).final], isComment other = false := by
      rw [Message.dropLast_append_final]
      exact fun other => plain
    rcases List.mem_append.1 mem with front | last
    · obtain ⟨other, inside, rfl⟩ := List.mem_map.1 front
      rw [isComment_reread]
      exact known other (List.mem_append_left _ inside)
    · exact known line (List.mem_append_right _ last)

/-! ### What a message does not depend on -/

/-- **What counts of an edited message.** It is the message of the text that is left when its lines
are taken with their ends, cut off at the first scissors line, and freed from comments; a text
without comments is read as it stands. Two texts of which one becomes the other by taking out,
putting in or replacing comment lines, and by replacing what stands behind a scissors line, have one
message, which is skipped or not and reported in one way, also when files with these texts are
checked. No line of the message is a comment, nor is any line of its text. -/
theorem edited_counts_only (content : String) :
    (Message.ofEditFile content = Message.parse (countedText content) ∧
      ((∀ line ∈ lines content, isComment line = false) →
        Message.ofEditFile content = Message.parse content)) ∧
    (∀ other, Retouched content other →
      Message.ofEditFile content = Message.ofEditFile other ∧
      (∀ config : Config, config.skips (Message.ofEditFile content) =
        config.skips (Message.ofEditFile other) ∧
        config.lint (Message.ofEditFile content) = config.lint (Message.ofEditFile other)) ∧
      ∀ (w w' : Workspace) (path path' : String), w.readBytes path = .ok content.toUTF8 →
        w'.readBytes path' = .ok other.toUTF8 → ∀ input input' config,
          w.reports input config (.file path) = w'.reports input' config (.file path')) ∧
    (∀ line ∈ (Message.ofEditFile content).header :: (Message.ofEditFile content).body,
      isComment line = false) ∧
    ∀ line ∈ lines (Message.ofEditFile content).raw, isComment line = false := by
  refine ⟨⟨ofEditFile_eq_parse_countedText content, ofEditFile_eq_parse⟩, ?_,
    fun _ => isComment_of_mem_kept,
    fun _ => isComment_of_mem_lines_raw⟩
  intro other retouched
  have same : Message.ofEditFile content = Message.ofEditFile other := by
    rw [ofEditFile_eq_parse_countedText, ofEditFile_eq_parse_countedText,
      countedText_of_retouched retouched]
  refine ⟨same, fun config => by rw [same]; exact ⟨rfl, rfl⟩, ?_⟩
  intro w w' path path' read read' input input' config
  rw [reports_file read, reports_file read', same]

/-- What stands in two texts before they differ. -/
def sharedText : String := "fix: a thing\n\nBody\n"

/-- A text with a comment in it and something behind the scissors line. -/
def remarkedText : String := sharedText ++ "# a remark\n" ++ (scissors ++ "\r\n" ++ "-old\n+new\n")

/-- The text without the comment, and with something else behind the scissors line. -/
def unremarkedText : String := sharedText ++ (scissors ++ "\r\n") ++ "Signed-off-by: B"

/-- The two texts have one message. -/
theorem edited_counts_only_remarked : Retouched remarkedText unremarkedText ∧
    Message.ofEditFile remarkedText = Message.ofEditFile unremarkedText := by
  have complete : EndsLine sharedText.toList := by decide +kernel
  have comment : IsCommentLine "# a remark\n".toList :=
    ⟨by decide +kernel, by decide +kernel, by decide +kernel⟩
  have first : Retouch remarkedText (sharedText ++ (scissors ++ "\r\n" ++ "-old\n+new\n")) :=
    .comment complete comment (.inl (by decide +kernel))
  have second : Retouch (sharedText ++ (scissors ++ "\r\n") ++ "-old\n+new\n") unremarkedText :=
    .tail _ _ complete isScissorsLine_return
  rw [String.append_assoc] at second
  have retouched : Retouched remarkedText unremarkedText :=
    .trans _ _ _ (.rel _ _ first) (.rel _ _ second)
  exact ⟨retouched, ((edited_counts_only remarkedText).2.1 unremarkedText retouched).1⟩

end CommitLint
