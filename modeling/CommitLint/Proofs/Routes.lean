import CommitLint.Proofs.ConfigSearch
import CommitLint.Proofs.RecordedMessages
import CommitLint.Proofs.WrittenLines
import Mathlib

/-!
# Routes of a text

A text comes to a check through standard input, in a file, or as the message of a commit. On each
route something else happens to it: a file is read as an editor leaves it behind, without its
comment lines, and a message comes back without the line feeds at its start and without what follows
a zero byte. Of a text with neither comment lines nor zero bytes the same message is made by all of
them.

* `parse_dropWhile_newline`, `ofEditFile_eq_parse` — what a route leaves out does not count;
* `reports_of_route` — the report of a text does not depend on the route;
* `routes_agree` — nor does the exit code.
-/

namespace CommitLint

open Text

/-! ### What is left out on the way -/

/-- A line feed at the start makes one more line, which is empty. -/
theorem lines_cons_newline (cs : List Char) :
    lines (String.ofList ('\n' :: cs)) = "" :: lines (String.ofList cs) := by
  rw [lines, lines, String.toList_ofList, String.toList_ofList, lineChunks_newline, List.map_cons]
  rfl

/-- Line feeds at the start of a text do not count. -/
theorem parse_dropWhile_newline (cs : List Char) :
    Message.parse (String.ofList (cs.dropWhile (· = '\n'))) = Message.parse (String.ofList cs) := by
  induction cs with
  | nil => rfl
  | cons c cs ih =>
    by_cases eq : c = '\n'
    · subst eq
      have same : Message.parse (String.ofList ('\n' :: cs)) =
          Message.parse (String.ofList cs) := by
        rw [Message.parse, lines_cons_newline, Message.parse, Message.ofLines, Message.ofLines,
          dropBlankEnds_cons_of_isBlank isBlank_empty]
      rw [List.dropWhile_cons_of_pos (by decide), ih, same]
    · rw [List.dropWhile_cons_of_neg (by simpa using eq)]

theorem isComment_scissors : isComment scissors = true := by decide +kernel

/-- All lines count when there are no comments, since the scissors line is one. -/
theorem countedLines_eq_self {ls : List String} (plain : ∀ line ∈ ls, isComment line = false) :
    countedLines ls = ls := by
  -- Nothing is cut off, for the line at which that is done would be a comment.
  have before : ls.takeWhile (· ≠ scissors) = ls := by
    rw [List.takeWhile_eq_self_iff]
    intro line mem
    rw [decide_eq_true_iff]
    rintro rfl
    have comment := plain scissors mem
    rw [isComment_scissors] at comment
    cases comment
  rw [countedLines, before, List.filter_eq_self]
  intro line mem
  rw [plain line mem]
  rfl

/-- A text without comments is read in the same way whether an editor left it behind or not. -/
theorem ofEditFile_eq_parse {text : String} (plain : ∀ line ∈ lines text, isComment line = false) :
    Message.ofEditFile text = Message.parse text := by
  rw [Message.ofEditFile, countedLines_eq_self plain, Message.parse]

/-- The message of a commit is that of the text that was recorded, if nothing is cut off at a zero
byte. -/
theorem parse_text_of_message {c : Commit} {text : String} (recorded : c.message = text.toUTF8)
    (whole : '\x00' ∉ text.toList) : Message.parse c.text = Message.parse text := by
  have kept : (text.toList.dropWhile (· = '\n')).takeWhile (· ≠ '\x00') =
      text.toList.dropWhile (· = '\n') := by
    rw [List.takeWhile_eq_self_iff]
    intro char mem
    rw [decide_eq_true_iff]
    rintro rfl
    exact whole ((List.dropWhile_suffix _).subset mem)
  rw [text_of_message recorded, kept, parse_dropWhile_newline, String.ofList_toList]

/-! ### Routes -/

/-- How a text comes to a check: the source, and the commit that is cited for it, if any is. -/
inductive Route (w : Workspace) (input : ByteArray) (text : String) : Source → Option String → Prop
  /-- The text is on standard input. -/
  | standardInput : input = text.toUTF8 → Route w input text .standardInput none
  /-- A file holds the text. -/
  | file {path : String} : w.readBytes path = .ok text.toUTF8 → Route w input text (.file path) none
  /-- The text was recorded as the message of a commit. -/
  | commit {revision : String} {h : History} {id : ObjectId} {c : Commit} : w.history = .ok h →
    h.findCommit revision = .ok (id, c) → c.message = text.toUTF8 →
    Route w input text (.commit revision) (some id.digits)

/-- The report with another commit cited, or none. -/
def Report.citing (r : Report) (sha : Option String) : Report := { r with commitSha := sha }

theorem citing_commitSha {r : Report} {sha : Option String} (same : r.commitSha = sha) :
    r.citing sha = r := by
  subst same
  rfl

/-- The report of a text on standard input is that of its message. -/
theorem reports_standardInput (w : Workspace) (text : String) (config : Config) :
    w.reports text.toUTF8 config .standardInput = .ok [config.lint (Message.parse text)] := by
  rw [Workspace.reports, Workspace.messageInput, fromUTF8?_toUTF8]
  rfl

/-- The report of a text in a file is that of the message that an editor left behind. -/
theorem reports_file {w : Workspace} {path text : String}
    (read : w.readBytes path = .ok text.toUTF8)
    (input : ByteArray) (config : Config) :
    w.reports input config (.file path) = .ok [config.lint (Message.ofEditFile text)] := by
  rw [Workspace.reports, Workspace.messageFile, read]
  simp only [fromUTF8?_toUTF8]
  rfl

section

variable {w : Workspace} {input : ByteArray} {text : String} {source : Source} {sha : Option String}

/-- The one report of a text is that of its message, whatever the route. -/
theorem reports_of_route (route : Route w input text source sha) (whole : '\x00' ∉ text.toList)
    (plain : ∀ line ∈ lines text, isComment line = false) (config : Config) :
    w.reports input config source = .ok [(config.lint (Message.parse text)).citing sha] := by
  have uncited : (config.lint (Message.parse text)).citing none =
      config.lint (Message.parse text) :=
    citing_commitSha (commitSha_lint config (Message.parse text))
  cases route with
  | standardInput piped => rw [piped, reports_standardInput, uncited]
  | file read =>
    -- What an editor left behind has no lines that do not count.
    rw [reports_file read, ofEditFile_eq_parse plain, uncited]
  | commit opened found recorded =>
    rw [reports_commit, commit_of_history opened, found, ← parse_text_of_message recorded whole]
    rfl

/-- What is counted does not depend on the commit that is cited. -/
theorem violationsOf_citing (s : Severity) (r : Report) (sha : Option String) :
    violationsOf s [r.citing sha] = violationsOf s [r] := rfl

/-- The exit code of a text is told by its message, whatever the route. -/
theorem exitCode_of_route {i : Invocation} {a : CheckArguments} {config : Config}
    (route : Route w input text a.source sha) (whole : '\x00' ∉ text.toList)
    (plain : ∀ line ∈ lines text, isComment line = false)
    (loaded : w.chosenConfig i.config = .ok config)
    (build : Build) (styled : Bool) (format : Option Format) (quiet strict : Bool) :
    (w.run build styled input (i.checking a format quiet strict)).1.exitCode =
      let reports := [config.lint (Message.parse text)]
      if 0 < (violationsOf .error reports).length ∨
        (strict = true ∧ 0 < (violationsOf .warning reports).length) then 1 else 0 := by
  rw [exitCode_checking loaded (reports_of_route route whole plain config), violationsOf_citing,
    violationsOf_citing]

end

/-- **The routes of a text agree.** A text without zero bytes and comment lines comes to two checks
with the same configuration, each by a route of its own. Both have one report, that of the message
of the text, and the reports differ in nothing but the commit that is cited; and the exit codes are
the same, whether the checks are strict or not. -/
theorem routes_agree {text : String} (whole : '\x00' ∉ text.toList)
    (plain : ∀ line ∈ lines text, isComment line = false) {config : Config} {w w' : Workspace}
    {input input' : ByteArray} {i i' : Invocation} {a a' : CheckArguments}
    {sha sha' : Option String}
    (loaded : w.chosenConfig i.config = .ok config)
    (loaded' : w'.chosenConfig i'.config = .ok config)
    (route : Route w input text a.source sha) (route' : Route w' input' text a'.source sha') :
    (∃ r : Report, r.commitSha = none ∧ w.reports input config a.source = .ok [r.citing sha] ∧
      w'.reports input' config a'.source = .ok [r.citing sha']) ∧
    ∀ build styled format quiet strict,
      (w.run build styled input (i.checking a format quiet strict)).1.exitCode =
        (w'.run build styled input' (i'.checking a' format quiet strict)).1.exitCode := by
  refine ⟨⟨config.lint (Message.parse text), commitSha_lint config _,
    reports_of_route route whole plain config,
    reports_of_route route' whole plain config⟩, ?_⟩
  intro build styled format quiet strict
  rw [exitCode_of_route route whole plain loaded, exitCode_of_route route' whole plain loaded']

/-- A configuration file that is a text is loaded. -/
theorem chosenConfig_of_readBytes {w : Workspace} {path text : String} {config : Config}
    (read : w.readBytes path = .ok text.toUTF8) (parsed : Config.parse text = .ok config) :
    w.chosenConfig (some path) = .ok config := by
  have uses : w.Uses (some path) text := ⟨path, rfl, read⟩
  rw [chosenConfig_of_uses uses, parsed]

/-- A text that starts with line feeds. -/
def spacedText : String := "\n\nfeat: add a thing\r\n\r\nSigned-off-by: A\n"

/-- The identifier of the commit with this text for a message. -/
def spacedId : ObjectId := ⟨"00000000000000000000000000000000000000a1", by decide, by decide⟩

/-- The commit with this text for a message. -/
def spacedCommit : Commit := ⟨spacedId, [], spacedText.toUTF8⟩

def spacedHistory : History where
  objects := [(spacedId, .commit spacedCommit)]
  nodup := by simp
  references := []
  head := .detached spacedId

/-- A workspace with the second starter configuration in a file, and the text in a file and in a
commit. -/
def spacedPlace : Workspace where
  files := ⟨[(["lint.toml"], .file Preset.conventional.text.toUTF8),
    (["message"], .file spacedText.toUTF8),
    ([".git"], .directory), ([".git", "HEAD"], .file spacedId.digits.toUTF8),
      ([".git", "objects"], .directory),
    ([".git", "refs"], .directory)], [], .whole⟩
  place := []
  «variables» := ⟨none, none, none⟩
  repositories := [([".git"], spacedHistory)]

/-- What is asked for when this text is checked. -/
def spacedInvocation : Invocation := ⟨.version, true, false, false, none, some "lint.toml"⟩

/-- The text comes to the same from the file and from the commit as from standard input. -/
theorem routes_agree_spaced :
    let filed : CheckArguments := ⟨some "message", none, none, false⟩
    let recorded : CheckArguments := ⟨none, some spacedId.digits, none, false⟩
    let piped : CheckArguments := ⟨none, none, none, false⟩
    let reports := fun a : CheckArguments =>
      spacedPlace.reports spacedText.toUTF8 ⟨.conventional, true, []⟩ a.source
    let code := fun a strict => (spacedPlace.run ⟨"0.1.0", none, none⟩ false spacedText.toUTF8
      (spacedInvocation.checking a none false strict)).1.exitCode
    (∃ r : Report, r.commitSha = none ∧
      reports filed = .ok [r.citing none] ∧ reports piped = .ok [r.citing none]) ∧
    (∃ r : Report, r.commitSha = none ∧
      reports recorded = .ok [r.citing (some spacedId.digits)] ∧
      reports piped = .ok [r.citing none]) ∧
    ∀ strict, code filed strict = code piped strict ∧ code recorded strict = code piped strict := by
  intro filed recorded piped reports code
  have whole : '\x00' ∉ spacedText.toList := by decide +kernel
  have plain : ∀ line ∈ lines spacedText, isComment line = false := by
    have all : (lines spacedText).all (!isComment ·) = true := by decide +kernel
    simpa using all
  have loaded : spacedPlace.chosenConfig spacedInvocation.config = .ok ⟨.conventional, true, []⟩ :=
    chosenConfig_of_readBytes rfl parse_conventional
  have onInput : Route spacedPlace spacedText.toUTF8 spacedText piped.source none :=
    .standardInput rfl
  have inFile : Route spacedPlace spacedText.toUTF8 spacedText filed.source none := .file rfl
  have inCommit : Route spacedPlace spacedText.toUTF8 spacedText recorded.source
      (some spacedId.digits) :=
    .commit (h := spacedHistory) rfl (History.findCommit_digits rfl) rfl
  obtain ⟨reportFiled, codeFiled⟩ := routes_agree whole plain loaded loaded inFile onInput
  obtain ⟨reportRecorded, codeRecorded⟩ := routes_agree whole plain loaded loaded inCommit onInput
  exact ⟨reportFiled, reportRecorded, fun strict =>
    ⟨codeFiled _ false none false strict, codeRecorded _ false none false strict⟩⟩

end CommitLint
