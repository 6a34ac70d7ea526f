import CommitLint.Pattern.Search
import CommitLint.Proofs.RangeReports
import CommitLint.Proofs.Routes
import CommitLint.Proofs.RuleReports
import Mathlib

/-!
# Messages that are skipped

A message is skipped as a whole or checked as a whole. A configuration that skips more than another,
and has the same rules, passes every check that the other one passes: the messages of a source are
obtained before any configuration bears on them, and each report is either the same or that of a
skipped message.

* `Config.skips_iff` — which messages are skipped;
* `Config.WidenedBy.lint` — one report under two configurations;
* `reports_eq_messages` — the reports of a source are those of its messages, one by one;
* `ignoring_monotone` — reports and exit codes under two configurations.
-/

namespace CommitLint

/-! ### One message -/

/-- Whether a configuration marks a message as one to be skipped. -/
def Config.Marks (config : Config) (m : Message) : Prop :=
  (config.defaultIgnores = true ∧ ∃ p ∈ CommitLint.defaultIgnores, p.Finds m.header.toList ∨
    p.Finds m.raw.toList) ∨
    ∃ ignore ∈ config.ignores, ignore.pattern.Finds m.raw.toList

theorem Config.skips_iff (config : Config) (m : Message) :
    config.skips m = true ↔ config.Marks m := by
  have usual : m.isDefaultIgnored = true ↔
      ∃ p ∈ CommitLint.defaultIgnores, p.Finds m.header.toList ∨ p.Finds m.raw.toList := by
    simp only [Message.isDefaultIgnored, List.any_eq_true, Bool.or_eq_true, Pattern.isMatch_iff]
  rw [skips, Bool.or_eq_true, Bool.and_eq_true, usual, Config.Marks]
  simp only [List.any_eq_true, Pattern.isMatch_iff]

theorem Config.lint_of_marks {config : Config} {m : Message} (marks : config.Marks m) :
    config.lint m = Report.skipped m.header :=
  lint_of_skips ((config.skips_iff m).2 marks)

theorem Config.lint_of_not_marks {config : Config} {m : Message} (unmarked : ¬config.Marks m) :
    config.lint m = validate m config.rules := by
  apply lint_of_not_skips
  rw [Bool.eq_false_iff]
  exact fun skips => unmarked ((config.skips_iff m).1 skips)

theorem Config.ignored_lint_iff (config : Config) (m : Message) :
    (config.lint m).ignored = true ↔ config.Marks m := by
  by_cases marks : config.Marks m
  · rw [lint_of_marks marks]
    exact iff_of_true rfl marks
  · rw [lint_of_not_marks marks, ignored_validate]
    exact iff_of_false Bool.false_ne_true marks

/-! ### Two configurations -/

/-- Whether another configuration has the same rules and skips for at least the same causes. -/
structure Config.WidenedBy (config wider : Config) : Prop where
  rules : wider.rules = config.rules
  usual : config.defaultIgnores = true → wider.defaultIgnores = true
  ignores : config.ignores.map (·.pattern) ⊆ wider.ignores.map (·.pattern)

namespace Config.WidenedBy

variable {config wider : Config} {m : Message}

theorem marks (widened : config.WidenedBy wider) (marks : config.Marks m) : wider.Marks m := by
  rcases marks with ⟨on, usual⟩ | ⟨ignore, mem, finds⟩
  · exact .inl ⟨widened.usual on, usual⟩
  · have known : ignore.pattern ∈ wider.ignores.map (·.pattern) :=
      widened.ignores (List.mem_map_of_mem mem)
    obtain ⟨other, inside, same⟩ := List.mem_map.1 known
    have found : other.pattern.Finds m.raw.toList := same ▸ finds
    exact .inr ⟨other, inside, found⟩

/-- A report is the same, or that of a skipped message. -/
theorem lint (widened : config.WidenedBy wider) (m : Message) :
    wider.lint m = config.lint m ∨ wider.lint m = Report.skipped m.header := by
  by_cases more : wider.Marks m
  · exact .inr (lint_of_marks more)
  · have unmarked : ¬config.Marks m := fun marks => more (widened.marks marks)
    left
    rw [lint_of_not_marks more, lint_of_not_marks unmarked, widened.rules]

/-- Nothing is found in a message that was not found before. -/
theorem violations_lint (widened : config.WidenedBy wider) (m : Message) :
    (wider.lint m).violations.Sublist (config.lint m).violations := by
  rcases widened.lint m with same | skipped
  · rw [same]
  · rw [skipped]
    exact List.nil_sublist _

/-- Reports on the same messages, whatever commits they cite, are rejected only where they were
before. -/
theorem isRejected {ms : List (Option String × Message)} {strict : Bool}
    (widened : config.WidenedBy wider)
    (rejected : isRejected strict (ms.map fun c => (wider.lint c.2).citing c.1) = true) :
    CommitLint.isRejected strict (ms.map fun c => (config.lint c.2).citing c.1) = true := by
  rw [isRejected_iff_exists] at rejected ⊢
  obtain ⟨r, mem, failing⟩ := rejected
  obtain ⟨c, inside, rfl⟩ := List.mem_map.1 mem
  have fewer : ((wider.lint c.2).citing c.1).violations.Sublist
      ((config.lint c.2).citing c.1).violations :=
    widened.violations_lint c.2
  exact ⟨_, List.mem_map_of_mem inside, isRejected_of_sublist fewer failing⟩

/-- The exit code on the same messages is the same, or a check that was rejected passes. -/
theorem exitCode_ofReports (widened : config.WidenedBy wider) (i j : Invocation)
    (styled plain strict : Bool)
    (ms : List (Option String × Message)) :
    let first := (Ending.ofReports i styled strict
      (ms.map fun c => (config.lint c.2).citing c.1)).exitCode
    let second := (Ending.ofReports j plain strict
      (ms.map fun c => (wider.lint c.2).citing c.1)).exitCode
    second = first ∨ (first = 1 ∧ second = 0) := by
  intro first second
  have codeFirst : first = _ := CommitLint.exitCode_ofReports i styled strict _
  have codeSecond : second = _ := CommitLint.exitCode_ofReports j plain strict _
  by_cases rejected : CommitLint.isRejected strict (ms.map fun c => (wider.lint c.2).citing c.1) =
    true
  · left
    rw [codeFirst, codeSecond, if_pos rejected, if_pos (widened.isRejected rejected)]
  · rw [if_neg rejected] at codeSecond
    rw [codeFirst, codeSecond]
    split
    · exact .inr ⟨rfl, rfl⟩
    · exact .inl rfl

end Config.WidenedBy

/-! ### Messages of a source -/

/-- The messages of a source, each with the commit that is cited for it, if any is. -/
def Workspace.messages (w : Workspace) (input : ByteArray) :
    Source → Except Failure (List (Option String × Message))
  | .standardInput => (messageInput input).mapError .input |>.map fun text =>
    [(none, Message.parse text)]
  | .file path => (w.messageFile path).mapError .input |>.map fun text =>
    [(none, Message.ofEditFile text)]
  | .commit revision =>
    (w.commit revision).mapError .history |>.map fun c => [(some c.1.digits, Message.parse c.2)]
  | .range range =>
    (w.commits range).mapError .history |>.map fun cs => cs.map fun c =>
      (some c.1.digits, Message.parse c.2)

theorem map_map_except {ε α β γ : Type} (x : Except ε α) (f : α → β) (g : β → γ) :
    (x.map f).map g = x.map fun a => g (f a) := by
  cases x <;> rfl

/-- No configuration bears on what the messages of a source are. -/
theorem reports_eq_messages (w : Workspace) (input : ByteArray) (config : Config)
    (source : Source) :
    w.reports input config source =
      (w.messages input source).map fun ms => ms.map fun c => (config.lint c.2).citing c.1 := by
  -- The report of a message that is no commit's cites none.
  have uncited (m : Message) : (config.lint m).citing none = config.lint m :=
    citing_commitSha (commitSha_lint config m)
  cases source with
  | standardInput =>
    rw [Workspace.messages, map_map_except]
    simp only [List.map_cons, List.map_nil, uncited]
    rfl
  | file path =>
    rw [Workspace.messages, map_map_except]
    simp only [List.map_cons, List.map_nil, uncited]
    rfl
  | commit revision =>
    rw [Workspace.messages, map_map_except]
    rfl
  | range range =>
    rw [Workspace.messages, map_map_except]
    simp only [List.map_map]
    rfl

/-- A check whose messages are not obtained ends with the cause, and one whose messages are obtained
with their reports. -/
theorem run_checking_messages {w : Workspace} {build : Build} {styled : Bool} {input : ByteArray}
    {i : Invocation}
    {config : Config} (loaded : w.chosenConfig i.config = .ok config) (a : CheckArguments)
    (format : Option Format) (quiet strict : Bool) :
    (w.run build styled input (i.checking a format quiet strict)).1 =
      match w.messages input a.source with
      | .error cause => .failed cause
      | .ok ms => .ofReports (i.checking a format quiet strict) styled strict
        (ms.map fun c => (config.lint c.2).citing c.1) := by
  have reports := reports_eq_messages w input config a.source
  cases obtained : w.messages input a.source with
  | ok ms =>
    rw [obtained] at reports
    exact run_checking loaded reports format quiet strict
  | error cause =>
    rw [obtained] at reports
    have stops : Stops w input (i.checking a format quiet strict) cause w :=
      .messages rfl loaded (unobtained_of_reports reports)
    rw [run_of_stops stops]

/-- **Messages are skipped as a whole, and a configuration that skips more rejects no more.** The
report of a message that is marked is that of a skipped message, without violations; any other
message has the report of the rules. The reports of a check are those of the messages, whatever the
configuration. Of two configurations with the same rules, where one marks for at least the causes of
the other, the report of each message is the same or that of a skipped message. So two checks of the
same messages end with the same exit code, or the one that skips more passes where the other one
rejects. -/
theorem ignoring_monotone :
    (∀ (config : Config) (m : Message),
      (config.Marks m → config.lint m = ⟨none, m.header, true, []⟩) ∧
      (¬config.Marks m → config.lint m = validate m config.rules) ∧
      ((config.lint m).ignored = true ↔ config.Marks m)) ∧
    (∀ (w : Workspace) (input : ByteArray) (config : Config) (source : Source),
      w.reports input config source =
        (w.messages input source).map fun ms => ms.map fun c => (config.lint c.2).citing c.1) ∧
    ∀ config wider : Config, config.WidenedBy wider →
      (∀ m, wider.lint m = config.lint m ∨ wider.lint m = ⟨none, m.header, true, []⟩) ∧
      (∀ (ms : List Message) (i : Invocation) (styled strict : Bool),
        (Ending.ofReports i styled strict (ms.map config.lint)).exitCode = 0 →
        (Ending.ofReports i styled strict (ms.map wider.lint)).exitCode = 0) ∧
      ∀ (w w' : Workspace) (input input' : ByteArray) (i i' : Invocation) (a a' : CheckArguments)
        (build : Build) (styled : Bool) (format : Option Format) (quiet strict : Bool),
        w.chosenConfig i.config = .ok config → w'.chosenConfig i'.config = .ok wider →
        w.messages input a.source = w'.messages input' a'.source →
        let first := (w.run build styled input (i.checking a format quiet strict)).1.exitCode
        let second := (w'.run build styled input' (i'.checking a' format quiet strict)).1.exitCode
        second = first ∨ (first = 1 ∧ second = 0) := by
  refine ⟨fun config m => ⟨Config.lint_of_marks, Config.lint_of_not_marks,
    config.ignored_lint_iff m⟩,
    reports_eq_messages, ?_⟩
  intro config wider widened
  refine ⟨widened.lint, ?_, ?_⟩
  · intro ms i styled strict passes
    have uncited (config : Config) :
        ms.map config.lint = (ms.map fun m => (none, m)).map fun c =>
          (config.lint c.2).citing c.1 := by
      rw [List.map_map]
      exact List.map_congr_left fun m _ => (citing_commitSha (commitSha_lint config m)).symm
    rw [uncited] at passes ⊢
    rcases widened.exitCode_ofReports i i styled styled strict (ms.map fun m => (none, m))
      with same | ⟨rejected, -⟩
    · exact same.trans passes
    · rw [rejected] at passes
      exact absurd passes Nat.one_ne_zero
  · intro w w' input input' i i' a a' build styled format quiet strict loaded loaded'
      sameMessages first second
    have codeFirst : first = Ending.exitCode _ :=
      congrArg Ending.exitCode (run_checking_messages loaded a format quiet strict)
    have codeSecond : second = Ending.exitCode _ :=
      congrArg Ending.exitCode (run_checking_messages loaded' a' format quiet strict)
    rw [← sameMessages] at codeSecond
    rw [codeFirst, codeSecond]
    cases w.messages input a.source with
    | error cause => exact .inl rfl
    | ok ms => exact widened.exitCode_ofReports _ _ styled styled strict ms

/-- The message of a merge, which the standard configuration skips. -/
def mergeText : String := "Merge branch side\n"

/-- The standard configuration without the usual messages of tools. -/
def Config.outspoken : Config := ⟨.standard, false, []⟩

/-- A workspace with this configuration in a file that is not looked for. -/
def outspokenPlace : Workspace :=
  ⟨⟨[(["lint.toml"], .file "default-ignores = false\n".toUTF8)], [], .whole⟩, [],
    ⟨none, none, none⟩, []⟩

/-- The merge is rejected, and passes where it is skipped. -/
theorem ignoring_monotone_merge :
    let exit := fun path => (outspokenPlace.run ⟨"0.1.0", none, none⟩ false mergeText.toUTF8
      (Invocation.checking ⟨.version, true, false, false, none, path⟩ ⟨none, none, none, false⟩
        none false false)).1.exitCode
    Config.outspoken.WidenedBy .standard ∧ exit (some "lint.toml") = 1 ∧ exit none = 0 := by
  intro exit
  have widened : Config.outspoken.WidenedBy .standard := ⟨rfl, fun _ => rfl, List.Subset.refl _⟩
  have parsed : Config.parse "default-ignores = false\n" = .ok .outspoken := by cbv
  have loaded : outspokenPlace.chosenConfig (some "lint.toml") = .ok .outspoken :=
    chosenConfig_of_readBytes rfl parsed
  have loaded' : outspokenPlace.chosenConfig none = .ok .standard := by decide +kernel
  have obtained : outspokenPlace.messages mergeText.toUTF8 .standardInput =
      .ok [(none, Message.parse mergeText)] := by
    rw [Workspace.messages, Workspace.messageInput, fromUTF8?_toUTF8]
    rfl
  have rejected : exit (some "lint.toml") = 1 := by
    have reports := reports_eq_messages outspokenPlace mergeText.toUTF8 .outspoken .standardInput
    rw [obtained] at reports
    refine (exitCode_eq_one_iff_isRejected (a := ⟨none, none, none, false⟩)
      loaded reports none false false).2 ?_
    decide +kernel
  have accepted : exit none ≠ 1 := by
    have skipped : exit none = Ending.exitCode _ :=
      congrArg Ending.exitCode (run_checking_messages loaded' ⟨none, none, none, false⟩
        none false false)
    rw [skipped, CheckArguments.source, obtained]
    decide +kernel
  obtain ⟨-, -, two⟩ := ignoring_monotone
  have codes := (two _ _ widened).2.2 outspokenPlace outspokenPlace mergeText.toUTF8
    mergeText.toUTF8
    ⟨.version, true, false, false, none, some "lint.toml"⟩
      ⟨.version, true, false, false, none, none⟩
    ⟨none, none, none, false⟩ ⟨none, none, none, false⟩ ⟨"0.1.0", none, none⟩ false none false false
    loaded loaded' rfl
  rcases codes with same | apart
  · exact absurd (same.trans rejected) accepted
  · exact ⟨widened, apart⟩

end CommitLint
