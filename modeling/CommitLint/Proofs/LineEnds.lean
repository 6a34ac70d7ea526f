import CommitLint.Proofs.LineChunks
import CommitLint.Proofs.Routes
import Mathlib

/-!
# Ends of lines

A line may end in a line feed, or in a carriage return and a line feed. A text without carriage
returns has the same lines when one is put before each line feed, and so the same message, whichever
way it is read. Blank lines before and after a message do not count either.

* `lines_withReturns` — the lines of a text with carriage returns put in;
* `parse_blankLines` — the message of a text with blank lines around it;
* `line_ends_immaterial` — messages and reports of texts that differ in the ends of lines.
-/

namespace CommitLint

open Text

namespace Text

/-! ### Carriage returns put in -/

/-- A character, after a carriage return if it is a line feed. -/
def returned (c : Char) : List Char := if c = '\n' then ['\r', '\n'] else [c]

/-- A text with a carriage return before each line feed. -/
def withReturns (text : String) : String := String.ofList (text.toList.flatMap returned)

theorem flatMap_returned_of_single {cs : List Char} (single : '\n' ∉ cs) :
    cs.flatMap returned = cs := by
  induction cs with
  | nil => rfl
  | cons c cs ih =>
    have other : c ≠ '\n' := (List.ne_of_not_mem_cons single).symm
    rw [List.flatMap_cons, returned, if_neg other, ih (List.not_mem_of_not_mem_cons single),
      List.singleton_append]

/-- A line without carriage returns is read back as it was. -/
theorem reread_of_plain {line : String} (plain : '\r' ∉ line.toList) : reread line = line := by
  rw [reread_eq_self_iff, ← Bool.not_eq_true, endsWith_iff]
  rintro ⟨rest, eq⟩
  exact plain (by simp [eq])

/-- The text is cut in the same places. -/
theorem lineChunks_flatMap_returned (cs : List Char) :
    lineChunks (cs.flatMap returned) = (lineChunks cs).map (·.flatMap returned) := by
  induction cs with
  | nil => rfl
  | cons c cs ih =>
    rw [List.flatMap_cons, returned]
    by_cases feed : c = '\n'
    · subst feed
      have single : '\n' ∉ ['\r'] := by decide
      have front := lineChunks_append_newline single (cs.flatMap returned)
      rw [if_pos rfl, lineChunks_newline, List.map_cons, ← ih]
      exact front
    · rw [if_neg feed, List.singleton_append, lineChunks, lineChunks, if_neg feed, if_neg feed, ih]
      cases lineChunks cs with
      | nil => simp [returned, feed]
      | cons chunk chunks => simp [returned, feed]

/-- A line without carriage returns is the same with either end. -/
theorem chunkContent_flatMap_returned {cs chunk : List Char} (mem : chunk ∈ lineChunks cs)
    (plain : '\r' ∉ chunk) :
    chunkContent (chunk.flatMap returned) = chunkContent chunk := by
  obtain ⟨content, single, rfl | rfl⟩ := exists_content_of_mem_lineChunks mem
  · rw [flatMap_returned_of_single single]
  · have inside : '\r' ∉ (String.ofList content).toList := by
      rw [String.toList_ofList]
      exact fun there => plain (List.mem_append_left _ there)
    have same := reread_of_plain inside
    rw [reread, String.toList_ofList, String.ofList_inj] at same
    rw [List.flatMap_append, flatMap_returned_of_single single, same]
    exact chunkContent_append_return content

/-- A text without carriage returns has the same lines when they are put in. -/
theorem lines_withReturns {text : String} (plain : '\r' ∉ text.toList) :
    lines (withReturns text) = lines text := by
  rw [lines, withReturns, String.toList_ofList, lineChunks_flatMap_returned, List.map_map, lines]
  apply List.map_congr_left
  intro chunk mem
  have inside : '\r' ∉ chunk := by
    intro there
    apply plain
    rw [← flatten_lineChunks text.toList]
    exact List.mem_flatten.2 ⟨chunk, mem, there⟩
  show String.ofList (chunkContent (chunk.flatMap returned)) = _
  rw [chunkContent_flatMap_returned mem inside]

/-! ### Blank lines -/

/-- Whether a text is made of blank lines, each with a line feed at its end and no carriage
return. -/
structure BlankLines (text : String) : Prop where
  /-- Each line has its end. -/
  ends : EndsLine text.toList
  /-- Nothing is there but white space. -/
  blank : isBlank text = true
  /-- No carriage return is there. -/
  plain : '\r' ∉ text.toList

theorem BlankLines.lines {text : String} (h : BlankLines text) :
    ∀ line ∈ lines text, isBlank line = true :=
  (isBlank_iff_lines text).1 h.blank

/-- A line feed at the end makes a line more, which is blank, or ends the last one. -/
theorem exists_lines_append_newline {text : String} (plain : '\r' ∉ text.toList) :
    ∃ below, lines (text ++ "\n") = lines text ++ below ∧ ∀ line ∈ below, isBlank line = true := by
  obtain ⟨front, last, eq, ends, single⟩ := exists_last_line text.toList
  have parts : text = String.ofList front ++ String.ofList last := by
    rw [← String.toList_inj, eq, String.toList_append, String.toList_ofList, String.toList_ofList]
  have complete : EndsLine (String.ofList front).toList := by rwa [String.toList_ofList]
  have onLast : '\n' ∉ (String.ofList last).toList := by rwa [String.toList_ofList]
  have whole : lines (String.ofList last ++ "\n") = [reread (String.ofList last)] := by
    have one := lines_append_newline onLast ""
    rwa [String.append_empty] at one
  rw [parts, String.append_assoc, lines_append complete, lines_append complete, whole]
  by_cases none : last = []
  · subst none
    have empty : lines (String.ofList []) = [] := rfl
    rw [empty, List.append_nil]
    exact ⟨[""], rfl, by simp [isBlank_empty]⟩
  · have inside : '\r' ∉ (String.ofList last).toList := by
      rw [String.toList_ofList]
      exact fun there => plain (eq ▸ List.mem_append_right _ there)
    have written : String.ofList last ≠ "" := by
      intro empty
      rw [← String.toList_inj, String.toList_ofList] at empty
      exact none empty
    rw [reread_of_plain inside, lines_of_single onLast written]
    exact ⟨[], (List.append_nil _).symm, by simp⟩

end Text

/-! ### Messages -/

/-- A message is told by the lines without the blank ones around them. -/
theorem ofLines_congr {ls others : List String} (same : dropBlankEnds ls = dropBlankEnds others) :
    Message.ofLines ls = Message.ofLines others := by
  simp only [Message.ofLines, same]

/-- Blank lines around a text do not count. -/
theorem parse_blankLines {above text below : String} (plain : '\r' ∉ text.toList)
    (first : BlankLines above)
    (last : BlankLines below) :
    Message.parse (above ++ text ++ "\n" ++ below) = Message.parse text := by
  obtain ⟨blanks, eq, blank⟩ := exists_lines_append_newline plain
  have complete : EndsLine (above ++ (text ++ "\n")).toList := by
    rw [← String.append_assoc, String.toList_append]
    exact endsLine_concat _
  have all : lines (above ++ text ++ "\n" ++ below) =
      lines above ++ lines text ++ (blanks ++ lines below) := by
    rw [@String.append_assoc above text, lines_append complete, lines_append first.ends, eq]
    simp only [List.append_assoc]
  rw [Message.parse, all, Message.parse]
  refine ofLines_congr (dropBlankEnds_blanks first.lines ?_ _)
  rw [List.forall_mem_append]
  exact ⟨blank, last.lines⟩

section

variable {text : String}

theorem parse_withReturns (plain : '\r' ∉ text.toList) :
    Message.parse (withReturns text) = Message.parse text := by
  rw [Message.parse, lines_withReturns plain, Message.parse]

theorem ofEditFile_withReturns (plain : '\r' ∉ text.toList) :
    Message.ofEditFile (withReturns text) = Message.ofEditFile text := by
  rw [Message.ofEditFile, lines_withReturns plain, Message.ofEditFile]

/-- Blank lines go at both ends, and carriage returns everywhere. -/
example : Message.parse (withReturns "\n \nfix: a thing\n\nBody\n\t\n")
    = ⟨"fix: a thing\n\nBody", "fix: a thing", ["", "Body"]⟩ := by
  decide +kernel

end

/-- **The ends of lines do not matter.** A text without carriage returns has the same message when
blank lines are put around it, and still the same when a carriage return is put before each line
feed then. Every text without carriage returns, with comments and a scissors line in it or not, has
the same message with and without them, and the same reports, on standard input as in a file. -/
theorem line_ends_immaterial :
    (∀ above text below : String, '\r' ∉ text.toList → BlankLines above → BlankLines below →
      let spaced := above ++ text ++ "\n" ++ below
      Message.parse spaced = Message.parse text ∧
      Message.parse (withReturns spaced) = Message.parse text) ∧
    ∀ text : String, '\r' ∉ text.toList →
      (Message.parse (withReturns text) = Message.parse text ∧
        Message.ofEditFile (withReturns text) = Message.ofEditFile text) ∧
      (∀ config : Config, config.lint (Message.parse (withReturns text)) =
        config.lint (Message.parse text) ∧
        config.lint (Message.ofEditFile (withReturns text)) =
          config.lint (Message.ofEditFile text)) ∧
      ∀ (w w' : Workspace) (config : Config),
        w.reports (withReturns text).toUTF8 config .standardInput =
          w'.reports text.toUTF8 config .standardInput ∧
        ∀ path path', w.readBytes path = .ok (withReturns text).toUTF8 →
        w'.readBytes path' = .ok text.toUTF8 →
          ∀ input input', w.reports input config (.file path) =
            w'.reports input' config (.file path') := by
  constructor
  · intro above text below plain first last spaced
    have none : '\r' ∉ spaced.toList := by
      have feed : '\r' ∉ "\n".toList := by decide
      simp only [spaced, String.toList_append, List.mem_append, not_or]
      exact ⟨⟨⟨first.plain, plain⟩, feed⟩, last.plain⟩
    have same : Message.parse spaced = Message.parse text := parse_blankLines plain first last
    exact ⟨same, (parse_withReturns none).trans same⟩
  · intro text plain
    have parsed := parse_withReturns plain
    have edited := ofEditFile_withReturns plain
    refine ⟨⟨parsed, edited⟩, fun config => by rw [parsed, edited]; exact ⟨rfl, rfl⟩,
      fun w w' config => ⟨?_, ?_⟩⟩
    · rw [reports_standardInput, reports_standardInput, parsed]
    · intro path path' read read' input input'
      rw [reports_file read, reports_file read', edited]

end CommitLint
