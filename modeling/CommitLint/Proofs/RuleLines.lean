import CommitLint.Proofs.JsonListings
import CommitLint.Proofs.LineEnds
import CommitLint.Proofs.QuotedTexts
import Mathlib

/-!
# Reading the lines of rules

A reader of the rules as they are listed in text, which knows nothing of the width of the columns: a
line has three words apart by blanks, and what follows them is the value. The listing is read back
line by line, so that no two rule sets are listed alike.

* `ofShown?_shown` — a value is read from how it is shown;
* `toList_ruleLine` — the columns of a line, and what trimming leaves of the last;
* `ofLine?_ruleLine` — a rule with its setting is read from its line;
* `le_of_mem_ruleLine` — no control stands in a line, so that it is one line;
* `lines_rulesText`, `listing_unambiguous` — all rules are read from the lines of their listing.
-/

namespace CommitLint

open Text

/-! ### The reader -/

/-- The word at the front of characters, and what comes after the blanks that follow it. -/
def nextWord (cs : List Char) : String × List Char :=
  (String.ofList (cs.takeWhile (· ≠ ' ')), (cs.dropWhile (· ≠ ' ')).dropWhile (· = ' '))

/-- The value that characters show: none of them, digits, a quoted text, or quoted texts in
brackets. -/
def RuleValue.ofShown? : List Char → Option RuleValue
  | [] => some .none
  | '"' :: cs =>
    match quotedBody cs with
    | some (s, []) => some (.text s)
    | _ => Option.none
  | '[' :: cs =>
    match quotedItems cs with
    | some (items, []) => some (.list items)
    | _ => Option.none
  | cs => if cs.all Char.isDigit then some (.length (Nat.ofDigitChars 10 cs 0)) else Option.none

/-- The rule that a line tells, with its setting. -/
def RuleEntry.ofLine? (line : String) : Option RuleEntry := do
  let (key, left) := nextWord line.toList
  let (severity, left) := nextWord left
  let (applicability, left) := nextWord left
  let rule ← RuleName.ofKey? key
  let severity ← Severity.ofName? severity
  let applicability ← Applicability.ofName? applicability
  let value ← RuleValue.ofShown? left
  return (rule, ⟨severity, applicability, value⟩)

def RuleEntry.allOfListing? (text : String) : Option (List RuleEntry) :=
  if text = "No rules configured\n" then some [] else (lines text).mapM RuleEntry.ofLine?

/-! ### Words and columns -/

/-- A text that is one word: it has characters, and none of them is a blank or a control. -/
structure IsWord (s : String) : Prop where
  /-- There is a character. -/
  nonempty : s.toList ≠ []
  /-- Each of them is seen. -/
  visible : ∀ c ∈ s.toList, ' ' < c

theorem isWord_key (rule : RuleName) : IsWord rule.key := by
  cases rule <;>
  · rw [RuleName.key]
    exact ⟨by simp, by simp⟩

theorem isWord_severity (s : Severity) : IsWord s.name := by
  cases s <;>
  · rw [Severity.name]
    exact ⟨by simp, by simp⟩

theorem isWord_applicability (a : Applicability) : IsWord a.name := by
  cases a <;>
  · rw [Applicability.name]
    exact ⟨by simp, by simp⟩

theorem IsWord.ne_blank {s : String} (word : IsWord s) : ∀ c ∈ s.toList, c ≠ ' ' := fun c mem =>
  ne_of_gt (word.visible c mem)

/-- Characters that start with a word do not start with a blank. -/
theorem IsWord.front {s : String} (word : IsWord s) (rest : List Char) :
    ∀ c ∈ (s.toList ++ rest).head?, c ≠ ' ' := by
  obtain ⟨c, others, eq⟩ := List.exists_cons_of_ne_nil word.nonempty
  intro d mem
  obtain rfl : c = d := by simpa [eq] using mem
  exact word.ne_blank c (eq ▸ List.mem_cons_self)

/-- The blanks between a text in its column and the next column. -/
def columnGap (width : Nat) (s : String) : List Char := List.replicate (width - s.length + 1) ' '

theorem eq_of_mem_columnGap {width : Nat} {s : String} {c : Char} (mem : c ∈ columnGap width s) :
    c = ' ' :=
  List.eq_of_mem_replicate mem

theorem columnGap_append (width : Nat) (s : String) (rest : List Char) :
    ∃ blanks, columnGap width s ++ rest = ' ' :: (blanks ++ rest) :=
  ⟨List.replicate (width - s.length) ' ', by rw [columnGap, List.replicate_succ, List.cons_append]⟩

theorem toList_padded_append (width : Nat) (s rest : String) :
    (Listing.padded width s ++ " " ++ rest).toList =
      s.toList ++ (columnGap width s ++ rest.toList) := by
  have blank : " ".toList = [' '] := by simp
  rw [Listing.padded, String.toList_append, String.toList_append, String.toList_append,
    String.toList_ofList, blank,
    columnGap, List.replicate_succ']
  simp

/-- A word is read, and the blanks after it are passed over, however many there are. -/
theorem nextWord_append {s : String} (word : IsWord s) (width : Nat) (t : String) {rest : List Char}
    (front : ∀ c ∈ rest.head?, c ≠ ' ') :
    nextWord (s.toList ++ (columnGap width t ++ rest)) = (s, rest) := by
  have inside : ∀ c ∈ s.toList, decide (c ≠ ' ') = true :=
    fun c mem => decide_eq_true (word.ne_blank c mem)
  have blanks : ∀ c ∈ columnGap width t, decide (c = ' ') = true := fun c mem =>
    decide_eq_true (eq_of_mem_columnGap mem)
  obtain ⟨others, gap⟩ := columnGap_append width t rest
  have stop : ∀ c ∈ (columnGap width t ++ rest).head?, decide (c ≠ ' ') = false := by
    rw [gap]
    simp
  obtain ⟨taken, left⟩ := Reading.span_append inside stop
  have passed : (columnGap width t ++ rest).dropWhile (· = ' ') = rest :=
    (Reading.span_append blanks fun c mem => decide_eq_false (front c mem)).2
  rw [nextWord, taken, left, passed, String.ofList_toList]

theorem nextWord_last {s : String} (word : IsWord s) : nextWord s.toList = (s, []) := by
  have inside : ∀ c ∈ s.toList, decide (c ≠ ' ') = true :=
    fun c mem => decide_eq_true (word.ne_blank c mem)
  rw [nextWord, List.takeWhile_eq_self_iff.2 inside, List.dropWhile_eq_nil_iff.2 inside,
    String.ofList_toList]
  rfl

/-! ### Values -/

/-- A value is read from how it is shown. -/
theorem ofShown?_shown (v : RuleValue) : RuleValue.ofShown? v.shown.toList = some v := by
  cases v with
  | none => rfl
  | length n =>
    obtain ⟨digits, d, others, eq, -⟩ := Toml.isWhole_toDigits n
    have digit : d.isDigit = true := digits d (eq ▸ List.mem_cons_self)
    have all : (Nat.toDigits 10 n).all Char.isDigit = true := List.all_eq_true.2 digits
    have value : Nat.ofDigitChars 10 (Nat.toDigits 10 n) 0 = n := Nat.ofDigitChars_ten_toDigits
    rw [RuleValue.shown, Nat.toList_repr]
    rw [eq] at all value ⊢
    unfold RuleValue.ofShown?
    -- A digit is neither a quote nor a bracket.
    split
    · next start => cases start
    · next start => exact absurd (List.cons.inj start).1 (Toml.ne_of_isDigit digit rfl)
    · next start => exact absurd (List.cons.inj start).1 (Toml.ne_of_isDigit digit rfl)
    · rw [if_pos all, value]
  | text s =>
    have written : (quoted s).toList = '"' :: (s.toList.flatMap quotedChar ++ ['"']) :=
      toList_quoted s
    have read := quotedBody_flatMap s []
    rw [RuleValue.shown, written, RuleValue.ofShown?, read]
  | list items =>
    obtain ⟨inner, written, read⟩ := exists_quotedItems items []
    rw [List.append_nil] at written
    rw [RuleValue.shown, written, RuleValue.ofShown?, read]

theorem toNat_of_isDigit {c : Char} (digit : c.isDigit = true) : 48 ≤ c.toNat ∧ c.toNat ≤ 57 := by
  simpa [Char.isDigit, UInt32.le_iff_toNat_le] using digit

theorem isSpace_of_isDigit {c : Char} (digit : c.isDigit = true) : isSpace c = false := by
  have bounds := toNat_of_isDigit digit
  rw [isSpace, ← Bool.not_eq_true, CharRanges.covers_iff]
  simp only [CharRanges.Mem, whiteSpaceRanges, List.mem_cons, List.not_mem_nil, or_false,
    exists_eq_or_imp,
    exists_eq_left]
  omega

/-- Neither end of what is shown of a value is white space. -/
theorem isSpace_ends_shown (v : RuleValue) :
    (∀ c ∈ v.shown.toList.head?, isSpace c = false) ∧
    ∀ c ∈ v.shown.toList.getLast?, isSpace c = false := by
  cases v with
  | none => simp [RuleValue.shown]
  | length n =>
    rw [RuleValue.shown, Nat.toList_repr]
    have digits := (Toml.isWhole_toDigits n).1
    exact ⟨fun c mem => isSpace_of_isDigit (digits c (List.mem_of_mem_head? mem)),
      fun c mem => isSpace_of_isDigit (digits c (List.mem_of_mem_getLast? mem))⟩
  | text s =>
    have quote : isSpace '"' = false := by decide
    rw [RuleValue.shown, toList_quoted, quotedChars]
    exact ⟨by simp [quote], by rw [List.getLast?_concat]; simp [quote]⟩
  | list items =>
    have opening : isSpace '[' = false := by decide
    have closing : isSpace ']' = false := by decide
    have brackets : (quotedList items).toList =
        '[' :: (", ".intercalate (items.map quoted)).toList ++ [']'] := by
      simp [quotedList]
    rw [RuleValue.shown, brackets]
    exact ⟨by simp [opening], by rw [List.getLast?_concat]; simp [closing]⟩

theorem le_of_mem_shown {v : RuleValue} {c : Char} (mem : c ∈ v.shown.toList) : ' ' ≤ c := by
  cases v with
  | none => simp [RuleValue.shown] at mem
  | length n =>
    rw [RuleValue.shown, Nat.toList_repr] at mem
    have bounds := toNat_of_isDigit ((Toml.isWhole_toDigits n).1 c mem)
    show 32 ≤ c.toNat
    omega
  | text s =>
    rw [RuleValue.shown, toList_quoted] at mem
    exact le_of_mem_quotedChars mem
  | list items => exact le_of_mem_quotedList mem

/-! ### Lines -/

theorem dropTrailingSpaces_append_columnGap (cs : List Char) (width : Nat) (s : String) :
    dropTrailingSpaces (cs ++ columnGap width s) = dropTrailingSpaces cs := by
  have blank : isSpace ' ' = true := by decide
  rw [columnGap, dropTrailingSpaces, dropSpaces, List.reverse_append, List.reverse_replicate,
    List.dropWhile_append_of_pos]
  · rfl
  · intro c mem
    rw [List.eq_of_mem_replicate mem, blank]

/-- Nothing is trimmed before what does not end in white space. -/
theorem dropTrailingSpaces_append {cs ds : List Char} (nonempty : ds ≠ [])
    (last : ∀ c ∈ ds.getLast?, isSpace c = false) : dropTrailingSpaces (cs ++ ds) = cs ++ ds := by
  rw [← List.head?_reverse] at last
  obtain ⟨c, others, eq⟩ := List.exists_cons_of_ne_nil (List.reverse_ne_nil_iff.2 nonempty)
  have visible : ¬ isSpace c = true := by simp [last c (by rw [eq]; rfl)]
  rw [dropTrailingSpaces, dropSpaces, List.reverse_append, eq, List.cons_append,
    List.dropWhile_cons_of_neg visible,
    ← List.cons_append, ← eq, ← List.reverse_append, List.reverse_reverse]

/-- What stands in the last two columns of a line. -/
def lastColumns (setting : Setting) : List Char :=
  if setting.value.shown = "" then setting.applicability.name.toList
  else setting.applicability.name.toList ++
    (columnGap 7 setting.applicability.name ++ setting.value.shown.toList)

theorem nextWord_lastColumns (setting : Setting) :
    nextWord (lastColumns setting) = (setting.applicability.name, setting.value.shown.toList) := by
  have word := isWord_applicability setting.applicability
  rw [lastColumns]
  split
  · next none => rw [nextWord_last word, none, String.toList_empty]
  · have front : ∀ c ∈ setting.value.shown.toList.head?, c ≠ ' ' := by
      rintro c mem rfl
      have visible : isSpace ' ' = false := (isSpace_ends_shown setting.value).1 ' ' mem
      exact absurd visible (by decide)
    exact nextWord_append word 7 _ front

theorem lastColumns_front (setting : Setting) : ∀ c ∈ (lastColumns setting).head?, c ≠ ' ' := by
  have front := (isWord_applicability setting.applicability).front
  rw [lastColumns]
  split
  · have alone := front []
    rwa [List.append_nil] at alone
  · exact front _

/-- The columns of a line. Nothing is trimmed but the blanks after the applicability if no value is
shown. -/
theorem toList_ruleLine (e : RuleEntry) :
    (Listing.ruleLine e).toList =
      e.1.key.toList ++ (columnGap 22 e.1.key ++
        (e.2.severity.name.toList ++ (columnGap 8 e.2.severity.name ++ lastColumns e.2))) := by
  obtain ⟨rule, severity, applicability, value⟩ := e
  have columns : Listing.padded 22 rule.key ++ " " ++ Listing.padded 8 severity.name ++ " "
        ++ Listing.padded 7 applicability.name ++ " " ++ value.shown
      = Listing.padded 22 rule.key ++ " " ++ (Listing.padded 8 severity.name ++ " "
        ++ (Listing.padded 7 applicability.name ++ " " ++ value.shown)) := by
    simp only [String.append_assoc]
  rw [Listing.ruleLine, toList_trimEnd, columns, toList_padded_append, toList_padded_append,
    toList_padded_append]
  simp only [← List.append_assoc]
  by_cases none : value.shown = ""
  · -- The applicability is the last that is seen.
    have last : ∀ c ∈ applicability.name.toList.getLast?, isSpace c = false := by
      cases applicability <;> simp [Applicability.name] <;> decide
    rw [lastColumns, if_pos none, none, String.toList_empty, List.append_nil,
      dropTrailingSpaces_append_columnGap,
      dropTrailingSpaces_append (isWord_applicability _).nonempty last]
  · have nonempty : value.shown.toList ≠ [] := fun eq => none (String.toList_eq_nil_iff.1 eq)
    rw [lastColumns, if_neg none, dropTrailingSpaces_append nonempty (isSpace_ends_shown value).2]
    simp only [List.append_assoc]

/-- A rule with its setting is read from its line. -/
theorem ofLine?_ruleLine (e : RuleEntry) : RuleEntry.ofLine? (Listing.ruleLine e) = some e := by
  have severity := isWord_severity e.2.severity
  rw [RuleEntry.ofLine?, toList_ruleLine]
  simp only [nextWord_append (isWord_key e.1) 22 _ (severity.front _),
    nextWord_append severity 8 _ (lastColumns_front e.2), nextWord_lastColumns, RuleName.ofKey?_key,
    Severity.ofName?_name, Applicability.ofName?_name, ofShown?_shown, Option.bind_eq_bind,
      Option.bind_some]
  rfl

example : Listing.ruleLine (.signedOffBy, ⟨.off, .never, .text "a\n\"b"⟩)
    = "signed-off-by          off      never   \"a\\n\\\"b\"" := by
  decide +kernel

/-- No control stands in a line, whatever the value holds. -/
theorem le_of_mem_ruleLine {e : RuleEntry} {c : Char} (mem : c ∈ (Listing.ruleLine e).toList) :
    ' ' ≤ c := by
  have word : ∀ {s : String}, IsWord s → c ∈ s.toList → ' ' ≤ c :=
    fun word mem => le_of_lt (word.visible c mem)
  have gap : ∀ {width : Nat} {s : String}, c ∈ columnGap width s → ' ' ≤ c :=
    fun mem => (eq_of_mem_columnGap mem).ge
  have last : c ∈ lastColumns e.2 → ' ' ≤ c := by
    intro mem
    rw [lastColumns] at mem
    split at mem
    · exact word (isWord_applicability _) mem
    · rw [List.mem_append, List.mem_append] at mem
      rcases mem with inside | blank | inside
      · exact word (isWord_applicability _) inside
      · exact gap blank
      · exact le_of_mem_shown inside
  rw [toList_ruleLine] at mem
  simp only [List.mem_append] at mem
  rcases mem with inside | blank | inside | blank | inside
  · exact word (isWord_key _) inside
  · exact gap blank
  · exact word (isWord_severity _) inside
  · exact gap blank
  · exact last inside

theorem newline_not_mem_ruleLine (e : RuleEntry) : '\n' ∉ (Listing.ruleLine e).toList := fun mem =>
  absurd (le_of_mem_ruleLine mem) (by decide)

/-! ### Listings -/

/-- Lines without carriage returns, each with its end, are read back. -/
theorem lines_join {ls : List String} (single : ∀ line ∈ ls, '\n' ∉ line.toList)
    (plain : ∀ line ∈ ls, '\r' ∉ line.toList) : lines (String.join (ls.map (· ++ "\n"))) = ls := by
  induction ls with
  | nil => rfl
  | cons line ls ih =>
    rw [List.map_cons, String.join_cons, lines_append_newline (single line List.mem_cons_self),
      reread_of_plain (plain line List.mem_cons_self),
        ih (fun l mem => single l (List.mem_cons_of_mem _ mem))
        fun l mem => plain l (List.mem_cons_of_mem _ mem)]

theorem rulesText_empty {rules : RuleSet} (none : rules.entries = []) (styled : Bool) :
    Listing.rulesText styled rules = "No rules configured\n" := by
  rw [Listing.rulesText, RuleSet.isEmpty, none]
  rfl

theorem rulesText_plain {rules : RuleSet} (some : rules.entries ≠ []) :
    Listing.rulesText false rules =
      String.join ((rules.entries.map Listing.ruleLine).map (· ++ "\n")) := by
  have notEmpty : ¬ rules.isEmpty = true := by simp [RuleSet.isEmpty, some]
  have bare : ∀ e, Listing.styledRuleLine false e = Listing.ruleLine e := by
    intro e
    rw [Listing.styledRuleLine, Terminal.Piece.render_false]
    exact ite_self _
  rw [Listing.rulesText, if_neg notEmpty, List.map_map]
  simp only [bare]
  rfl

theorem lines_rulesText {rules : RuleSet} (some : rules.entries ≠ []) :
    lines (Listing.rulesText false rules) = rules.entries.map Listing.ruleLine := by
  rw [rulesText_plain some]
  apply lines_join
  · intro line mem
    obtain ⟨e, -, rfl⟩ := List.mem_map.1 mem
    exact newline_not_mem_ruleLine e
  · intro line mem
    obtain ⟨e, -, rfl⟩ := List.mem_map.1 mem
    exact fun back => absurd (le_of_mem_ruleLine back) (by decide)

/-- No line of a rule is the one that says that there are none. -/
theorem rulesText_ne {rules : RuleSet} (some : rules.entries ≠ []) :
    Listing.rulesText false rules ≠ "No rules configured\n" := by
  intro same
  have lines := lines_rulesText some
  obtain ⟨e, others, eq⟩ := List.exists_cons_of_ne_nil some
  have only : Text.lines "No rules configured\n" = ["No rules configured"] := by decide +kernel
  rw [same, only, eq, List.map_cons] at lines
  have read := ofLine?_ruleLine e
  rw [← (List.cons.inj lines).1] at read
  have unread : RuleEntry.ofLine? "No rules configured" = Option.none := by decide +kernel
  rw [unread] at read
  cases read

/-- The rules are read from their listing. -/
theorem allOfListing?_rulesText (rules : RuleSet) :
    RuleEntry.allOfListing? (Listing.rulesText false rules) = some rules.entries := by
  by_cases none : rules.entries = []
  · rw [RuleEntry.allOfListing?, rulesText_empty none, if_pos rfl, none]
  · rw [RuleEntry.allOfListing?, if_neg (rulesText_ne none), lines_rulesText none]
    apply mapM_of_forall₂
    rw [List.forall₂_map_right_iff]
    exact List.forall₂_same.2 fun e _ => ofLine?_ruleLine e

theorem rulesText_injective {rules others : RuleSet}
    (same : Listing.rulesText false rules = Listing.rulesText false others) : rules = others := by
  have read := allOfListing?_rulesText rules
  rw [same, allOfListing?_rulesText] at read
  exact RuleSet.ext_entries (Option.some.inj read).symm

/-- **The listing of rules in text is unambiguous.** Without style, a run that lists rules writes
one line for each of them in order, with a line feed after it and none in it, or one line that says
that there are none. Name, severity, applicability and value are read from each line, whatever the
value holds, and all rules from the listing, so that different rule sets are never listed alike. -/
theorem listing_unambiguous :
    (∀ (w : Workspace) (build : Build) (input : ByteArray) (i : Invocation) (config : Config),
      i.format ≠ some .json → i.command = .rules → w.chosenConfig i.config = .ok config →
      (w.run build false input i).1 = .success (Listing.rulesText false config.rules)) ∧
    (∀ rules : RuleSet, rules.entries = [] →
    Listing.rulesText false rules = "No rules configured\n") ∧
    (∀ rules : RuleSet, rules.entries ≠ [] → ∃ lines : List String,
      Listing.rulesText false rules = String.join (lines.map (· ++ "\n")) ∧
      List.Forall₂ (fun e line => '\n' ∉ line.toList ∧ RuleEntry.ofLine? line = some e)
        rules.entries lines) ∧
    (∀ rules : RuleSet, RuleEntry.allOfListing? (Listing.rulesText false rules) =
      some rules.entries) ∧
    ∀ rules others : RuleSet, Listing.rulesText false rules = Listing.rulesText false others →
    rules = others := by
  refine ⟨?_, fun rules none => rulesText_empty none false, ?_, allOfListing?_rulesText, ?_⟩
  · intro w build input i config text command loaded
    rw [run_rules command loaded, if_neg text]
  · intro rules some
    refine ⟨rules.entries.map Listing.ruleLine, rulesText_plain some, ?_⟩
    rw [List.forall₂_map_right_iff]
    exact List.forall₂_same.2 fun e _ => ⟨newline_not_mem_ruleLine e, ofLine?_ruleLine e⟩
  · intro rules others same
    exact rulesText_injective same

/-- One text that looks like the inside of a list of two is not listed as they are; and a run in an
empty place lists the usual rules. -/
theorem listing_unambiguous_quotes :
    let listed : List String → RuleSet :=
  fun items => .ofList [(.typeEnum, ⟨.off, .never, .list items⟩)]
    Listing.rulesText false (listed ["a\", \"b\\ \n "]) ≠ Listing.rulesText false
    (listed ["a", "b\\ \n "]) ∧
    (∃ line, Listing.rulesText false (listed ["]", " "]) = line ++ "\n" ∧ '\n' ∉ line.toList ∧
      RuleEntry.ofLine? line = some (.typeEnum, ⟨.off, .never, .list ["]", " "]⟩)) ∧
    Listing.rulesText false .empty = "No rules configured\n" ∧
    ((⟨.empty, [], ⟨none, none, none⟩, []⟩ : Workspace).run ⟨"0.1.0", none, none⟩ false .empty
      ⟨.rules, true, false, false, none, none⟩).1 =
        .success (Listing.rulesText false .standard) := by
  intro listed
  obtain ⟨runs, none, each, -, apart⟩ := listing_unambiguous
  refine ⟨fun same => ?_, ?_, none .empty rfl, ?_⟩
  · have entries := congrArg RuleSet.entries (apart _ _ same)
    revert entries
    decide +kernel
  · obtain ⟨lines, whole, told⟩ := each (listed ["]", " "]) (by decide)
    cases told with
    | cons first others =>
      cases others
      exact ⟨_, whole, first⟩
  · exact runs _ _ _ ⟨.rules, true, false, false, Option.none, Option.none⟩ .standard
      (by decide) rfl
      (by decide +kernel)

end CommitLint
