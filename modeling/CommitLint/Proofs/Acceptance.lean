import CommitLint.Proofs.HeaderGrammar
import CommitLint.Proofs.Verdict
import CommitLint.Proofs.WrittenLines
import CommitLint.Proofs.WrittenRules
import Mathlib

/-!
# Accepted messages

What the rules of the two configurations ask of a text, told of its lines: `firstWritten` is the
header, `writtenBody` are the lines of the body, `linesAfterFirst` are all lines after the header.

* `conventional_verdict` — the texts that the second starter configuration accepts, and when it
  warns;
* `standard_verdict` — the rules that a text breaks when nothing is configured.
-/

namespace CommitLint

open Text ConventionalHeader

def signOffMark : String := "Signed-off-by:"

/-- A header and a body that the second starter configuration accepts. -/
structure Accepted (header : String) (body : List String) : Prop where
  /-- The header is long enough. -/
  min : 10 ≤ header.length
  /-- The header is not too long. -/
  max : header.length ≤ 72
  /-- Some line of the body is a sign-off. -/
  signed : ∃ line ∈ body, startsWith line signOffMark = true
  /-- The header has a listed type, and a subject that is not blank and does not end with a stop. -/
  made : ∃ type scope mark subject, Made header type scope mark subject ∧ type ∈ conventionalTypes ∧
    trim subject ≠ "" ∧ ¬ endsWith (trim subject) "." = true
  /-- No line of the body is too long. -/
  lines : ∀ line ∈ body, line.length ≤ 100

/-! ### The second starter configuration -/

theorem entries_conventional :
    RuleSet.conventional.entries = RuleSet.conventional.conventionalEntries := rfl

theorem words_conventionalTypes :
    ∀ type ∈ conventionalTypes, type ≠ "" ∧ ∀ c ∈ type.toList, isWordChar c = true := by
  intro type mem
  simp only [conventionalTypes, List.mem_cons, List.not_mem_nil, or_false] at mem
  rcases mem with rfl | rfl | rfl | rfl | rfl | rfl | rfl | rfl | rfl | rfl | rfl
  all_goals
    refine ⟨by simp, ?_⟩
    rw [String.toList_ofList]
    exact List.all_eq_true.1 (by decide +kernel)

/-- The rules that fail the check find nothing exactly when header and body are as asked. -/
theorem findings_conventional_iff {m : Message} (oneLine : '\n' ∉ m.header.toList) :
    (∀ e ∈ RuleSet.conventional.entries, e.2.severity = .error → findingOf e.1 e.2 m = none) ↔
      Accepted m.header m.body := by
  have fits : ∀ e ∈ RuleSet.conventional.entries, e.2.value.kind = e.1.valueKind := by decide
  have typed := exists_typed_iff oneLine words_conventionalTypes fun subject =>
    ¬ endsWith subject "." = true
  have asked : (∀ e ∈ RuleSet.conventional.entries, e.2.severity = .error →
      findingOf e.1 e.2 m = none) ↔
      ∀ e ∈ RuleSet.conventional.entries, e.2.severity = .error →
        (e.1.AppliesTo m → e.2.applicability.Asks (e.1.Holds e.2.value m)) := by
    refine forall₂_congr fun e mem => ?_
    rw [findingOf_eq_none_iff m (fits e mem)]
  have noBound : ¬ 72 = Finding.maxLength := by decide
  rw [asked, entries_conventional]
  simp only [RuleSet.conventional.conventionalEntries, List.forall_mem_cons, List.not_mem_nil,
    false_imp_iff, implies_true, RuleName.AppliesTo, RuleName.Holds,
      Applicability.Asks, true_imp_iff,
    and_true, noBound, or_false, reduceCtorEq]
  show _ ∧ _ ∧ _ ∧ (m.conventional.type ≠ "" → _) ∧ _ ↔ _
  constructor
  · rintro ⟨max, min, signed, listed, hasType, hasSubject, noStop, -, lines⟩
    refine ⟨min, max, signed, typed.1 ⟨listed hasType, hasSubject, noStop hasSubject⟩, ?_⟩
    intro line mem
    exact lines (List.ne_nil_of_mem mem) line mem
  · rintro ⟨min, max, signed, made, lines⟩
    obtain ⟨listed, hasSubject, noStop⟩ := typed.2 made
    exact ⟨max, min, signed, fun _ => listed, (words_conventionalTypes _ listed).1, hasSubject,
      fun _ => noStop,
      trivial, fun _ => lines⟩

/-- The only rule that warns is the one about the first line of the body. -/
theorem warnings_conventional (m : Message) :
    ((validate m RuleSet.conventional).violations.filter fun v => v.severity =
      .warning).map (·.rule) =
      if m.body.head?.any (!isBlank ·) then [.bodyLeadingBlank] else [] := by
  have found : (checkRule .bodyLeadingBlank ⟨.warning, .always, .none⟩ m).isSome
      = m.body.head?.any (!isBlank ·) := by
    rw [Bool.eq_iff_iff, isSome_checkRule_iff m rfl (by decide)]
    cases body : m.body with
    | nil => simp [RuleName.AppliesTo, body]
    | cons first rest => simp [RuleName.AppliesTo, RuleName.Holds, Applicability.Asks, body]
  rw [rules_of_severity, entries_conventional]
  cases warned : m.body.head?.any (!isBlank ·) <;>
    simp [RuleSet.conventional.conventionalEntries, found, warned]

/-- **What the second starter configuration accepts.** Its text is read, and of every text these
rules report nothing that fails the check exactly when the header and the body are as asked. They
warn once, of the first line of the body, when it is not blank, and of nothing else. -/
theorem conventional_verdict :
    ∃ config, Config.parse Preset.conventional.text = .ok config ∧ ∀ text : String,
      let report := validate (Message.parse text) config.rules
      let header := firstWritten (lines text)
      let body := writtenBody (lines text)
      ((∀ v ∈ report.violations, v.severity ≠ .error) ↔ Accepted header body) ∧
      ((∃ v ∈ report.violations, v.severity = .warning) ↔
        ∃ first ∈ body.head?, isBlank first = false) ∧
      (report.violations.filter fun v => v.severity = .warning).map (·.rule) =
        if ∃ first ∈ body.head?, isBlank first = false then [.bodyLeadingBlank] else [] := by
  refine ⟨_, parse_conventional, fun text => ?_⟩
  intro report header body
  have hheader : (Message.parse text).header = header := header_parse text
  have hbody : (Message.parse text).body = body := body_parse text
  have oneLine : '\n' ∉ (Message.parse text).header.toList := by
    rw [hheader]
    exact newline_not_mem_firstWritten text
  have warns : body.head?.any (!isBlank ·) = true ↔
      ∃ first ∈ body.head?, isBlank first = false := by
    simp [Option.any_eq_true]
  have rules := warnings_conventional (Message.parse text)
  rw [hbody] at rules
  refine ⟨?_, ?_, ?_⟩
  · rw [← hheader, ← hbody, ← findings_conventional_iff oneLine]
    exact forall_severity_ne_iff (by decide)
  · rw [← warns]
    constructor
    · rintro ⟨v, mem, warning⟩
      by_contra silent
      rw [if_neg silent, List.map_eq_nil_iff, List.filter_eq_nil_iff] at rules
      exact rules v mem (by simpa using warning)
    · intro loud
      rw [if_pos loud] at rules
      obtain ⟨v, mem, -⟩ :=
        List.mem_map.1 (rules ▸ List.mem_singleton_self RuleName.bodyLeadingBlank)
      obtain ⟨mem, warning⟩ := List.mem_filter.1 mem
      exact ⟨v, mem, by simpa using warning⟩
  · simpa only [warns] using rules

/-! ### Nothing configured -/

theorem entries_standard : RuleSet.standard.entries =
    [(.headerMaxLength, ⟨.error, .always, .length 72⟩),
      (.headerMinLength, ⟨.error, .always, .length 10⟩),
      (.signedOffBy, ⟨.error, .always, .text signOffMark⟩)] := rfl

theorem isBlank_signOffMark : isBlank signOffMark = false := by
  rw [isBlank, signOffMark, String.toList_ofList]
  decide

/-- The rules broken are told by the header and by whether some line of the body is a sign-off. -/
theorem rules_standard (m : Message) :
    (validate m RuleSet.standard).rules =
      (if 72 < m.header.length then [.headerMaxLength] else [])
        ++ (if m.header.length < 10 then [.headerMinLength] else [])
        ++ (if ∃ line ∈ m.body, startsWith line signOffMark =
          true then [] else [.signedOffBy]) := by
  have tooLong : (checkRule .headerMaxLength ⟨.error, .always, .length 72⟩ m).isSome = true ↔
      72 < m.header.length := by
    have noBound : ¬ 72 = Finding.maxLength := by decide
    rw [isSome_checkRule_iff m rfl (by decide)]
    simp [RuleName.AppliesTo, RuleName.Holds, Applicability.Asks, noBound]
  have tooShort : (checkRule .headerMinLength ⟨.error, .always, .length 10⟩ m).isSome = true ↔
      m.header.length < 10 := by
    rw [isSome_checkRule_iff m rfl (by decide)]
    simp [RuleName.AppliesTo, RuleName.Holds, Applicability.Asks]
  have unsigned : (checkRule .signedOffBy ⟨.error, .always, .text signOffMark⟩ m).isSome = true ↔
      ¬ ∃ line ∈ m.body, startsWith line signOffMark = true := by
    rw [isSome_checkRule_iff m rfl (by decide)]
    simp only [RuleName.AppliesTo, RuleName.Holds, Applicability.Asks, true_and]
  rw [rules_validate, entries_standard]
  simp only [List.filter_cons, List.filter_nil, tooLong, tooShort, unsigned]
  by_cases long : 72 < m.header.length <;> by_cases short : m.header.length < 10 <;>
    by_cases signed : ∃ line ∈ m.body, startsWith line signOffMark = true <;>
    simp only [long, short, signed] <;> rfl

/-- **The rules that a text breaks when nothing is configured.** They are told by the length of the
header and the lines after it, and each of them fails the check. -/
theorem standard_verdict (text : String) :
    let report := validate (Message.parse text) RuleSet.standard
    let n := (firstWritten (lines text)).length
    let signed := ∃ line ∈ linesAfterFirst (lines text), startsWith line signOffMark = true
    report.rules =
        (if 72 < n then [.headerMaxLength] else []) ++ (if n < 10 then [.headerMinLength] else [])
          ++ (if signed then [] else [.signedOffBy]) ∧
      (∀ v ∈ report.violations, v.severity = .error) ∧
      (report.violations = [] ↔ 10 ≤ n ∧ n ≤ 72 ∧ signed) ∧
      (.signedOffBy ∈ report.rules ↔ ¬ signed) ∧
      ¬ (.headerMaxLength ∈ report.rules ∧ .headerMinLength ∈ report.rules) := by
  intro report n signed
  have rules : report.rules =
      (if 72 < n then [.headerMaxLength] else []) ++ (if n < 10 then [.headerMinLength] else [])
      ++ (if signed then [] else [.signedOffBy]) := by
    have same := exists_mem_writtenBody_iff isBlank_signOffMark (lines text)
    have rules := rules_standard (Message.parse text)
    rw [header_parse, body_parse] at rules
    simpa only [same] using rules
  refine ⟨rules, ?_, ?_, ?_, ?_⟩
  · intro v mem
    obtain ⟨e, entry, broken⟩ := mem_validate_iff.1 mem
    have errors : ∀ e ∈ RuleSet.standard.entries, e.2.severity = .error := by decide
    exact (severity_of_checkRule broken).1.trans (errors e entry)
  · have empty : report.violations = [] ↔ report.rules = [] := List.map_eq_nil_iff.symm
    rw [empty, rules, List.append_eq_nil_iff, List.append_eq_nil_iff, ite_eq_right_iff,
      ite_eq_right_iff,
      ite_eq_left_iff]
    simp only [List.cons_ne_nil, imp_false, not_not, Nat.not_lt]
    exact ⟨fun ⟨⟨max, min⟩, hs⟩ => ⟨min, max, hs⟩, fun ⟨min, max, hs⟩ => ⟨⟨max, min⟩, hs⟩⟩
  · rw [rules]
    by_cases hs : signed <;> simp [hs]
  · rintro ⟨long, short⟩
    rw [rules] at long short
    have : 72 < n := by
      by_contra small
      simp [small] at long
    have : n < 10 := by
      by_contra large
      simp [large] at short
    omega

end CommitLint
