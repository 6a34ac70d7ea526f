import CommitLint.Failure
import CommitLint.Ignore
import CommitLint.Pattern.Reader
import CommitLint.Proofs.CleanedMessages
import CommitLint.Proofs.PatternWords
import Mathlib

/-!
# Openings of the usual messages

The messages of tools are told by patterns that are tried on the header and on the whole message.
What they look for can be said without patterns: the header starts with certain words, and for some
of them other words follow somewhere. The whole message adds nothing. A pattern that may end
anywhere ends within the header, since none of its words goes on to another line; and one that must
end with the message cannot, unless the header is all of it.

* `Headed.starts_line`, `Headed.eq_of_blank` — what a text has in common with its first line;
* `Tells` — a pattern looks for some openings; one lemma for each way of putting patterns together;
* `tells_defaultIgnores` — what each of the patterns looks for;
* `usual_by_header` — which messages are skipped unless asked otherwise.
-/

namespace CommitLint

open Text Pattern

/-! ### Openings -/

/-- Words that a header starts with, and perhaps words that follow somewhere. -/
structure Opening where
  /-- What the header starts with. -/
  start : String
  /-- What follows, if anything must. -/
  mark? : Option String
  deriving DecidableEq, Repr

/-- Whether a line starts with an opening. -/
def Opening.Heads (o : Opening) (line : List Char) : Prop :=
  ∃ rest, line = o.start.toList ++ rest ∧ ∀ mark ∈ o.mark?, mark.toList <:+: rest

/-- What each of the patterns of usual messages looks for. -/
def openingsOfIgnores : List (List Opening) :=
  [[⟨"Merge pull request", none⟩, ⟨"Merge ", some " into "⟩, ⟨"Merge branch ", none⟩],
   [⟨"Merge tag ", none⟩],
   [⟨"Revert ", none⟩, ⟨"revert ", none⟩],
   [⟨"amend!", none⟩, ⟨"fixup!", none⟩, ⟨"squash!", none⟩],
   [⟨"Merged ", some "in "⟩, ⟨"Merged ", some "into "⟩],
   [⟨"Merge remote-tracking branch", none⟩],
   [⟨"Automatic merge", none⟩],
   [⟨"Auto-merged ", some " into "⟩]]

theorem heads_start_iff {start : String} {line : List Char} :
    (Opening.mk start none).Heads line ↔ start.toList <+: line := by
  constructor
  · intro h
    obtain ⟨rest, rfl, -⟩ := h
    exact ⟨rest, rfl⟩
  · intro h
    obtain ⟨rest, rfl⟩ := h
    exact ⟨rest, rfl, by simp⟩

theorem heads_mark_iff {start mark : String} {line : List Char} :
    (Opening.mk start (some mark)).Heads line ↔
    ∃ between, start.toList ++ between ++ mark.toList <+: line := by
  constructor
  · intro h
    obtain ⟨rest, rfl, found⟩ := h
    obtain ⟨between, after, rfl⟩ := found mark rfl
    exact ⟨between, after, by simp⟩
  · intro h
    obtain ⟨between, after, rfl⟩ := h
    refine ⟨between ++ mark.toList ++ after, by simp, ?_⟩
    intro other same
    obtain rfl : mark = other := Option.some.inj same
    exact ⟨between, after, rfl⟩

/-! ### First lines -/

/-- A text starts with a line, and if it goes on there is something to be seen. -/
structure Headed (line text : List Char) : Prop where
  /-- The line is one. -/
  single : '\n' ∉ line
  /-- The line is all of the text, or other lines follow which are not all blank. -/
  rest : text = line ∨ ∃ others, text = line ++ '\n' :: others ∧ ∃ c ∈ others, isSpace c = false

theorem headed_self {line : List Char} (single : '\n' ∉ line) : Headed line line :=
  ⟨single, .inl rfl⟩

namespace Headed

variable {line text : List Char}

theorem prefix_text (h : Headed line text) : line <+: text := by
  rcases h.rest with rfl | ⟨others, rfl, -⟩
  · exact List.prefix_rfl
  · exact List.prefix_append _ _

/-- A word without line feeds at the start of a text is at the start of its first line. -/
theorem starts_line (h : Headed line text) {word : List Char} (clean : '\n' ∉ word)
    (starts : word <+: text) :
    word <+: line := by
  rcases List.prefix_or_prefix_of_prefix starts h.prefix_text with within | beyond
  · exact within
  -- A word that is longer than the line has the line feed in it.
  · obtain ⟨more, rfl⟩ := beyond
    rcases h.rest with rfl | ⟨others, rfl, -⟩
    · exact starts
    · cases more with
      | nil => simp
      | cons c more =>
        obtain ⟨rfl, -⟩ := List.cons_prefix_cons.1 ((List.prefix_append_right_inj line).1 starts)
        simp at clean

/-- When all that follows a word without line feeds is white space, the first line is all of the
text. -/
theorem eq_of_blank (h : Headed line text) {word blank : List Char} (clean : '\n' ∉ word)
    (eq : text = word ++ blank) (spaces : ∀ c ∈ blank, isSpace c = true) : text = line := by
  rcases h.rest with same | ⟨others, more, c, mem, visible⟩
  · exact same
  · obtain ⟨between, rfl⟩ := h.starts_line clean ⟨blank, eq.symm⟩
    -- What is to be seen on the other lines would be white space.
    have rest : blank = between ++ '\n' :: others := by
      rw [eq, List.append_assoc] at more
      exact List.append_cancel_left more
    have inside : c ∈ blank := by
      rw [rest]
      exact List.mem_append_right _ (List.mem_cons_of_mem _ mem)
    rw [spaces c inside] at visible
    cases visible

end Headed

/-! ### Patterns of openings -/

/-- A pattern at the start of a text looks for some openings of its first line. -/
structure Tells (p : Pattern) (openings : List Opening) : Prop where
  /-- What it finds is one of them. -/
  sound : ∀ line text, Headed line text → MatchesStart p [] text → ∃ o ∈ openings, o.Heads line
  /-- It finds each of them. -/
  complete : ∀ line, '\n' ∉ line → ∀ o ∈ openings, o.Heads line → MatchesStart p [] line

theorem tells_alt {p q : Pattern} {openings others : List Opening} (hp : Tells p openings)
    (hq : Tells q others) :
    Tells (alt p q) (openings ++ others) where
  sound := by
    intro line text headed found
    rcases matchesStart_alt_iff.1 found with found | found
    · obtain ⟨o, mem, heads⟩ := hp.sound line text headed found
      exact ⟨o, List.mem_append_left _ mem, heads⟩
    · obtain ⟨o, mem, heads⟩ := hq.sound line text headed found
      exact ⟨o, List.mem_append_right _ mem, heads⟩
  complete := by
    intro line single o mem heads
    rw [matchesStart_alt_iff]
    rcases List.mem_append.1 mem with mem | mem
    · exact .inl (hp.complete line single o mem heads)
    · exact .inr (hq.complete line single o mem heads)

/-- A pattern matches the start of a text exactly when one of some words stands there. -/
def Begins (p : Pattern) (words : List String) : Prop :=
  ∀ before text, MatchesStart p before text ↔ ∃ word ∈ words, word.toList <+: text

theorem begins_literal (s : String) : Begins (literal s) [s] := by
  intro before text
  simp [matchesStart_literal_iff]

theorem begins_alt {p q : Pattern} {words others : List String} (hp : Begins p words)
    (hq : Begins q others) :
    Begins (alt p q) (words ++ others) := by
  intro before text
  rw [matchesStart_alt_iff, hp, hq]
  simp [or_and_right, exists_or]

theorem begins_seq_free {p q : Pattern} {words : List String} (hp : Begins p words)
    (free : ∀ before text, MatchesStart q before text) : Begins (seq p q) words := by
  intro before text
  rw [matchesStart_seq_free_iff free, hp]

theorem begins_literal_seq {p : Pattern} {words : List String} (s : String) (hp : Begins p words) :
    Begins (seq (literal s) p) (words.map (s ++ ·)) := by
  intro before text
  simp only [matchesStart_literal_seq_iff, hp _ _]
  constructor
  · intro h
    obtain ⟨v, rfl, word, mem, rest, rfl⟩ := h
    exact ⟨s ++ word, List.mem_map_of_mem mem, rest, by simp⟩
  · intro h
    obtain ⟨_, mem, rest, rfl⟩ := h
    obtain ⟨word, inside, rfl⟩ := List.mem_map.1 mem
    exact ⟨word.toList ++ rest, by simp, word, inside, rest, rfl⟩

theorem begins_alt_seq {p q r : Pattern} {words others : List String} (hp : Begins (seq p r) words)
    (hq : Begins (seq q r) others) : Begins (seq (alt p q) r) (words ++ others) := by
  intro before text
  rw [matchesStart_alt_seq_iff, ← matchesStart_alt_iff]
  exact begins_alt hp hq before text

/-- A pattern that looks for words at the start, and goes on as it likes. -/
theorem tells_of_begins {p : Pattern} {words : List String} (h : Begins p words)
    (clean : ∀ word ∈ words, '\n' ∉ word.toList) : Tells p (words.map (⟨·, none⟩)) where
  sound := by
    intro line text headed found
    obtain ⟨word, mem, starts⟩ := (h [] text).1 found
    exact ⟨_, List.mem_map_of_mem mem, heads_start_iff.2
      (headed.starts_line (clean word mem) starts)⟩
  complete := by
    intro line _ o mem heads
    obtain ⟨word, inside, rfl⟩ := List.mem_map.1 mem
    exact (h [] line).2 ⟨word, inside, heads_start_iff.1 heads⟩

/-- A pattern that looks for words at the start and then for others on the same line. -/
theorem tells_of_begins_later {p : Pattern} {start : String} {marks : List String}
    (h : Begins p marks)
    (clean : '\n' ∉ start.toList) (cleans : ∀ mark ∈ marks, '\n' ∉ mark.toList) :
    Tells (seq (literal start) (seq restOfLine p)) (marks.map (⟨start, some ·⟩)) where
  sound := by
    intro line text headed found
    obtain ⟨_, rfl, rest⟩ := (matchesStart_literal_seq_iff start).1 found
    obtain ⟨between, left, rfl, within, rest⟩ := matchesStart_seq_iff.1 rest
    obtain ⟨mark, mem, after, rfl⟩ := (h _ _).1 rest
    have single : '\n' ∉ start.toList ++ between ++ mark.toList := by
      simp [clean, matches_restOfLine_iff.1 within, cleans mark mem]
    refine ⟨_, List.mem_map_of_mem mem, heads_mark_iff.2 ⟨between, headed.starts_line single ?_⟩⟩
    exact ⟨after, by simp⟩
  complete := by
    intro line single o mem heads
    obtain ⟨mark, inside, rfl⟩ := List.mem_map.1 mem
    obtain ⟨between, after, rfl⟩ := heads_mark_iff.1 heads
    refine (matchesStart_literal_seq_iff start).2 ⟨between ++ (mark.toList ++ after), by simp, ?_⟩
    refine matchesStart_seq_iff.2 ⟨between, mark.toList ++ after, rfl, ?_, ?_⟩
    · rw [matches_restOfLine_iff]
      intro mem
      exact single (by simp [mem])
    · exact (h _ _).2 ⟨mark, inside, after, rfl⟩

/-! ### Patterns that end with the text -/

theorem matches_lineBreak_iff {before word after : List Char} :
    Matches (seq (optional (literal "\r")) (literal "\n")) before word after ↔
      word = ['\n'] ∨ word = ['\r', '\n'] := by
  simp only [matches_seq_iff, matches_optional_iff, matches_literal_iff]
  constructor
  · intro h
    obtain ⟨u, v, rfl, rfl | rfl, rfl⟩ := h
    · exact .inl rfl
    · exact .inr rfl
  · intro h
    rcases h with rfl | rfl
    · exact ⟨[], ['\n'], rfl, .inl rfl, rfl⟩
    · exact ⟨['\r'], ['\n'], rfl, .inr rfl, rfl⟩

/-- Line breaks are white space, and have line feeds in them. -/
theorem lineBreaks {before word after : List Char}
    (h : Matches (star (seq (optional (literal "\r")) (literal "\n"))) before word after) :
    (word = [] ∨ '\n' ∈ word) ∧ ∀ c ∈ word, isSpace c = true := by
  generalize starred : star (seq (optional (literal "\r")) (literal "\n")) = p at h
  induction h with
  | starNil => exact ⟨.inl rfl, by simp⟩
  | starCons first _ _ ih =>
    obtain rfl := Pattern.star.inj starred
    obtain ⟨-, spaces⟩ := ih rfl
    rcases matches_lineBreak_iff.1 first with rfl | rfl
    · exact ⟨.inr (by simp), List.forall_mem_append.2 ⟨List.all_eq_true.1 (by decide), spaces⟩⟩
    · exact ⟨.inr (by simp), List.forall_mem_append.2 ⟨List.all_eq_true.1 (by decide), spaces⟩⟩
  | _ => cases starred

theorem matchesStart_blankTail_nil (before : List Char) : MatchesStart blankTail before [] := by
  refine matchesStart_seq_iff.2 ⟨[], [], rfl, .starNil, [], [], rfl, ?_⟩
  exact matches_textEnd_iff.2 ⟨rfl, rfl⟩

theorem blank_of_blankTail {before text : List Char} (h : MatchesStart blankTail before text) :
    (text = [] ∨ '\n' ∈ text) ∧ ∀ c ∈ text, isSpace c = true := by
  obtain ⟨breaks, left, rfl, breaking, _, _, rfl, ending⟩ := matchesStart_seq_iff.1 h
  obtain ⟨rfl, rfl⟩ := matches_textEnd_iff.1 ending
  rw [List.append_nil, List.append_nil]
  exact lineBreaks breaking

/-- A pattern of one line that is followed by line breaks up to the end of the text looks for
nothing beyond the first line. -/
theorem tells_of_blankTail {p : Pattern} {openings : List Opening}
    (words : ∀ before word after, Matches p before word after ↔
    '\n' ∉ word ∧ ∃ o ∈ openings, o.Heads word) :
    Tells (seq p blankTail) openings where
  sound := by
    intro line text headed found
    obtain ⟨word, blank, eq, matched, rest⟩ := matchesStart_seq_iff.1 found
    obtain ⟨single, o, mem, heads⟩ := (words _ _ _).1 matched
    obtain ⟨broken, spaces⟩ := blank_of_blankTail rest
    have whole : text = line := headed.eq_of_blank single eq spaces
    -- Within one line there are no line breaks.
    have none : blank = [] := by
      refine broken.resolve_right fun mem => headed.single ?_
      rw [← whole, eq]
      exact List.mem_append_right _ mem
    rw [none, List.append_nil] at eq
    exact ⟨o, mem, by rwa [← whole, eq]⟩
  complete := by
    intro line single o mem heads
    have matched : Matches p [] line [] := (words _ _ _).2 ⟨single, o, mem, heads⟩
    exact matchesStart_seq_iff.2 ⟨line, [], (List.append_nil line).symm, matched,
      matchesStart_blankTail_nil _⟩

/-- Words at the start of a line, and then anything on it. -/
theorem matches_start_iff {start : String} (clean : '\n' ∉ start.toList)
    {before word after : List Char} :
    Matches (inOrder [literal start, restOfLine]) before word after ↔
      '\n' ∉ word ∧ (Opening.mk start none).Heads word := by
  simp only [inOrder, matches_seq_iff, matches_literal_iff, matches_restOfLine_iff, heads_start_iff]
  constructor
  · intro h
    obtain ⟨_, rest, rfl, rfl, single⟩ := h
    exact ⟨by simp [clean, single], rest, rfl⟩
  · intro h
    obtain ⟨single, rest, rfl⟩ := h
    exact ⟨_, rest, rfl, rfl, fun mem => single (List.mem_append_right _ mem)⟩

/-- Words at the start of a line, and others somewhere after them. -/
theorem matches_mark_iff {start mark : String} (clean : '\n' ∉ start.toList)
    (cleanMark : '\n' ∉ mark.toList)
    {before word after : List Char} :
    Matches (inOrder [literal start, restOfLine, literal mark, restOfLine]) before word after ↔
      '\n' ∉ word ∧ (Opening.mk start (some mark)).Heads word := by
  simp only [inOrder, matches_seq_iff, matches_literal_iff, matches_restOfLine_iff, heads_mark_iff]
  constructor
  · intro h
    obtain ⟨_, _, rfl, rfl, between, _, rfl, single, _, rest, rfl, rfl, singleRest⟩ := h
    exact ⟨by simp [clean, cleanMark, single, singleRest], between, rest, by simp⟩
  · intro h
    obtain ⟨single, between, rest, rfl⟩ := h
    have singles : '\n' ∉ between ∧ '\n' ∉ rest :=
      ⟨fun mem => single (by simp [mem]), fun mem => single (by simp [mem])⟩
    exact ⟨_, between ++ (mark.toList ++ rest), by simp, rfl, between, _, rfl, singles.1, _,
      rest, rfl, rfl,
      singles.2⟩

/-! ### The patterns of usual messages -/

theorem matchesStart_restOfLine (before text : List Char) : MatchesStart restOfLine before text :=
  matchesStart_star before text

theorem tells_regrouped {p q r : Pattern} {openings : List Opening}
    (h : Tells (seq (seq p q) r) openings) :
    Tells (seq p (seq q r)) openings := by
  have same (text : List Char) : MatchesStart (seq (seq p q) r) [] text ↔
      MatchesStart (seq p (seq q r)) [] text := by
    simp only [MatchesStart, matches_seq_assoc_iff]
  exact ⟨fun line text headed found => h.sound line text headed ((same text).2 found),
    fun line single o mem heads => (same line).1 (h.complete line single o mem heads)⟩

theorem tells_merge : Tells (alt (literal "Merge pull request")
    (seq (alt (inOrder [literal "Merge ", restOfLine, literal " into ", restOfLine])
      (inOrder [literal "Merge branch ", restOfLine])) blankTail))
    [⟨"Merge pull request", none⟩, ⟨"Merge ", some " into "⟩, ⟨"Merge branch ", none⟩] := by
  refine tells_alt (tells_of_begins (begins_literal "Merge pull request") (by decide))
    (tells_of_blankTail ?_)
  intro before word after
  rw [matches_alt_iff, matches_mark_iff (by decide) (by decide), matches_start_iff (by decide)]
  simp [and_or_left]

theorem tells_tag :
    Tells (inOrder [literal "Merge tag ", restOfLine, blankTail]) [⟨"Merge tag ", none⟩] := by
  refine tells_regrouped (tells_of_blankTail ?_)
  intro before word after
  have row : Matches (inOrder [literal "Merge tag ", restOfLine]) before word after ↔ _ :=
    matches_start_iff (by decide)
  simpa [inOrder] using row

theorem tells_revert :
    Tells (inOrder [alt (literal "R") (literal "r"), literal "evert ", restOfLine])
    [⟨"Revert ", none⟩, ⟨"revert ", none⟩] := by
  have evert : Begins (seq (literal "evert ") restOfLine) ["evert "] :=
    begins_seq_free (begins_literal _) matchesStart_restOfLine
  exact tells_of_begins (begins_alt_seq (begins_literal_seq "R" evert)
    (begins_literal_seq "r" evert)) (by decide)

theorem tells_fold :
    Tells (inOrder [oneOf [literal "amend", literal "fixup", literal "squash"], literal "!"])
    [⟨"amend!", none⟩, ⟨"fixup!", none⟩, ⟨"squash!", none⟩] := by
  have stop := begins_literal "!"
  have others := begins_alt_seq (begins_literal_seq "fixup" stop) (begins_literal_seq "squash" stop)
  exact tells_of_begins (begins_alt_seq (begins_literal_seq "amend" stop) others) (by decide)

theorem tells_merged :
    Tells (inOrder [literal "Merged ", restOfLine, alt (literal "in") (literal "into"),
      literal " ", restOfLine])
      [⟨"Merged ", some "in "⟩, ⟨"Merged ", some "into "⟩] := by
  have blank : Begins (seq (literal " ") restOfLine) [" "] :=
    begins_seq_free (begins_literal _) matchesStart_restOfLine
  exact tells_of_begins_later (begins_alt_seq (begins_literal_seq "in" blank)
    (begins_literal_seq "into" blank))
    (by decide) (by decide)

theorem tells_remote :
    Tells (inOrder [literal "Merge remote-tracking branch", star (char .space), restOfLine])
    [⟨"Merge remote-tracking branch", none⟩] := by
  have free (before text : List Char) :
      MatchesStart (seq (star (char .space)) restOfLine) before text :=
    (matchesStart_seq_free_iff matchesStart_restOfLine).2 (matchesStart_star before text)
  exact tells_of_begins (begins_seq_free (begins_literal _) free) (by decide)

theorem tells_automatic :
    Tells (inOrder [literal "Automatic merge", restOfLine]) [⟨"Automatic merge", none⟩] :=
  tells_of_begins (begins_seq_free (begins_literal _) matchesStart_restOfLine) (by decide)

theorem tells_autoMerged :
    Tells (inOrder [literal "Auto-merged ", restOfLine, literal " into ", restOfLine])
    [⟨"Auto-merged ", some " into "⟩] :=
  tells_of_begins_later (begins_seq_free (begins_literal _) matchesStart_restOfLine)
    (by decide) (by decide)

/-- What each of the patterns looks for. It is looked for at the start of the text only. -/
theorem tells_defaultIgnores :
    List.Forall₂ (fun p openings => ∃ q, p = seq (.assertion .textStart) q ∧ Tells q openings)
      defaultIgnores openingsOfIgnores :=
  .cons ⟨_, rfl, tells_merge⟩ <| .cons ⟨_, rfl, tells_tag⟩ <| .cons ⟨_, rfl, tells_revert⟩ <|
    .cons ⟨_, rfl, tells_fold⟩ <| .cons ⟨_, rfl, tells_merged⟩ <| .cons ⟨_, rfl, tells_remote⟩ <|
    .cons ⟨_, rfl, tells_automatic⟩ <| .cons ⟨_, rfl, tells_autoMerged⟩ .nil

theorem exists_mem_of_forall₂ {α β : Type} {r : α → β → Prop} {as : List α} {bs : List β}
    (h : List.Forall₂ r as bs) {a : α} (mem : a ∈ as) : ∃ b ∈ bs, r a b := by
  induction h with
  | nil => cases mem
  | cons first _ ih =>
    rcases List.mem_cons.1 mem with rfl | mem
    · exact ⟨_, List.mem_cons_self, first⟩
    · obtain ⟨b, inside, related⟩ := ih mem
      exact ⟨b, List.mem_cons_of_mem _ inside, related⟩

section

variable {line text : List Char}

/-- What is found in a text is one of the openings of its first line. -/
theorem exists_opening_of_finds (headed : Headed line text) {p : Pattern}
    (usual : p ∈ defaultIgnores)
    (found : p.Finds text) : ∃ openings ∈ openingsOfIgnores, ∃ o ∈ openings, o.Heads line := by
  obtain ⟨openings, mem, q, rfl, tells⟩ := exists_mem_of_forall₂ tells_defaultIgnores usual
  exact ⟨openings, mem, tells.sound line text headed (finds_textStart_seq_iff.1 found)⟩

/-- What is found in a text is found in its first line alone. -/
theorem finds_line_of_finds (headed : Headed line text) {p : Pattern} (usual : p ∈ defaultIgnores)
    (found : p.Finds text) : p.Finds line := by
  obtain ⟨openings, mem, q, rfl, tells⟩ := exists_mem_of_forall₂ tells_defaultIgnores usual
  obtain ⟨o, inside, heads⟩ := tells.sound line text headed (finds_textStart_seq_iff.1 found)
  exact finds_textStart_seq_iff.2 (tells.complete line headed.single o inside heads)

/-- Some pattern finds something in a line exactly when it starts with one of the openings. -/
theorem exists_finds_line_iff (single : '\n' ∉ line) :
    (∃ p ∈ defaultIgnores, p.Finds line) ↔ ∃ o ∈ openingsOfIgnores.flatten, o.Heads line := by
  simp only [List.mem_flatten]
  constructor
  · intro h
    obtain ⟨p, usual, found⟩ := h
    obtain ⟨openings, mem, o, inside, heads⟩ :=
      exists_opening_of_finds (headed_self single) usual found
    exact ⟨o, ⟨openings, mem, inside⟩, heads⟩
  · intro h
    obtain ⟨o, ⟨openings, mem, inside⟩, heads⟩ := h
    obtain ⟨p, usual, q, rfl, tells⟩ := exists_mem_of_forall₂ tells_defaultIgnores.flip mem
    exact ⟨_, usual, finds_textStart_seq_iff.2 (tells.complete line single o inside heads)⟩

end

/-! ### Messages -/

/-- A message that was read from a text, be it recorded or left behind by an editor. -/
inductive Message.IsRead : Message → Prop
  | parse (text : String) : IsRead (parse text)
  | ofEditFile (text : String) : IsRead (ofEditFile text)

theorem joinLines_single (line : String) : joinLines [line] = line := String.intercalate_singleton

theorem mem_joinLines {ls : List String} {line : String} {c : Char} (mem : line ∈ ls)
    (inside : c ∈ line.toList) :
    c ∈ (joinLines ls).toList := by
  induction ls with
  | nil => cases mem
  | cons first others ih =>
    by_cases none : others = []
    · subst none
      obtain rfl := List.mem_singleton.1 mem
      rwa [joinLines_single]
    · rw [joinLines_cons none, String.toList_append, String.toList_append]
      rcases List.mem_cons.1 mem with rfl | mem
      · exact List.mem_append_left _ (List.mem_append_left _ inside)
      · exact List.mem_append_right _ (ih mem)

/-- Lines make a text that starts with the first of them, and where others follow the last one is
seen. -/
theorem headed_joinLines {first : String} {others : List String} (single : '\n' ∉ first.toList)
    (visible : isBlank ((first :: others).getLast (List.cons_ne_nil _ _)) = false) :
    Headed first.toList (joinLines (first :: others)).toList := by
  refine ⟨single, ?_⟩
  by_cases none : others = []
  · subst none
    rw [joinLines_single]
    exact .inl rfl
  · refine .inr ⟨(joinLines others).toList, ?_, ?_⟩
    · rw [joinLines_cons none, String.toList_append, String.toList_append, List.append_assoc]
      rfl
    · rw [List.getLast_cons none, ← Bool.not_eq_true, isBlank_iff] at visible
      push Not at visible
      obtain ⟨c, inside, seen⟩ := visible
      exact ⟨c, mem_joinLines (List.getLast_mem none) inside, by simpa using seen⟩

/-- The text of a message starts with its header, and the last of the other lines is not blank. -/
theorem headed_ofLines {ls : List String} (single : ∀ line ∈ ls, '\n' ∉ line.toList) :
    Headed (Message.ofLines ls).header.toList (Message.ofLines ls).raw.toList := by
  rw [Message.header_ofLines, Message.raw_ofLines]
  by_cases none : dropBlankEnds ls = []
  · rw [none]
    exact headed_self (by simp)
  · have visible := isBlank_getLast_dropBlankEnds none
    have within : ∀ line ∈ dropBlankEnds ls, line ∈ ls := by
      obtain ⟨before, after, eq, -⟩ := exists_append_dropBlankEnds ls
      intro line mem
      rw [eq]
      exact List.mem_append_left _ (List.mem_append_right _ mem)
    obtain ⟨first, others, eq⟩ := List.exists_cons_of_ne_nil none
    simp only [eq] at visible within ⊢
    exact headed_joinLines (single first (within first List.mem_cons_self)) visible

theorem Message.IsRead.headed {m : Message} (read : m.IsRead) :
    Headed m.header.toList m.raw.toList := by
  cases read with
  | parse text => exact headed_ofLines fun _ => newline_not_mem_of_mem_lines
  | ofEditFile text =>
    apply headed_ofLines
    intro line counted
    have mem : line ∈ lines text := List.takeWhile_subset _ (List.mem_of_mem_filter counted)
    exact newline_not_mem_of_mem_lines mem

theorem isDefaultIgnored_iff (m : Message) :
    m.isDefaultIgnored = true ↔ ∃ p ∈ defaultIgnores, p.Finds m.header.toList ∨
    p.Finds m.raw.toList := by
  simp [Message.isDefaultIgnored, isMatch_iff]

/-- A message is usual when its header starts with one of the openings. -/
theorem Message.IsRead.isDefaultIgnored_iff {m : Message} (read : m.IsRead) :
    m.isDefaultIgnored = true ↔ ∃ o ∈ openingsOfIgnores.flatten, o.Heads m.header.toList := by
  rw [CommitLint.isDefaultIgnored_iff, ← exists_finds_line_iff read.headed.single]
  constructor
  · intro h
    obtain ⟨p, usual, found | found⟩ := h
    · exact ⟨p, usual, found⟩
    · exact ⟨p, usual, finds_line_of_finds read.headed usual found⟩
  · intro h
    obtain ⟨p, usual, found⟩ := h
    exact ⟨p, usual, .inl found⟩

/-! ### The notation of the patterns -/

/-- The patterns of usual messages as they are written. -/
def ignoreTexts : List String :=
  ["^((Merge pull request)|(Merge (.*?) into (.*?)|(Merge branch (.*?)))(?:\\r?\\n)*$)",
   "^(Merge tag (.*?))(?:\\r?\\n)*$",
   "^(R|r)evert (.*)",
   "^(amend|fixup|squash)!",
   "^Merged (.*?)(in|into) (.*)",
   "^Merge remote-tracking branch(\\s*)(.*)",
   "^Automatic merge(.*)",
   "^Auto-merged (.*?) into (.*)"]

theorem normal_ofText_ignoreTexts : ignoreTexts.map (fun text => (Pattern.ofText text).map normal) =
    defaultIgnores.map fun p => .ok (normal p) := by decide +kernel

/-- A pattern as it is written matches what the pattern in its place matches. -/
theorem ofText_ignoreTexts :
    List.Forall₂ (fun text p => ∃ q, Pattern.ofText text = .ok q ∧ ∀ s, q.isMatch s = p.isMatch s)
      ignoreTexts defaultIgnores := by
  have related := List.forall₂_eq_eq_eq ▸ normal_ofText_ignoreTexts
  rw [List.forall₂_map_left_iff, List.forall₂_map_right_iff] at related
  refine related.imp fun text p same => ?_
  obtain ⟨q, read, regrouped⟩ := map_eq_ok_iff.1 same
  refine ⟨q, read, fun s => ?_⟩
  rw [Bool.eq_iff_iff, isMatch_iff, isMatch_iff]
  exact finds_iff_of_normal regrouped s.toList

/-! ### Which messages are skipped -/

/-- Which messages are skipped unless asked otherwise is seen from their headers: those that start
with one of the openings. Whatever else stands in a message, a pattern that finds something in all
of it finds it in the header. -/
theorem usual_by_header :
    (∀ m : Message, m.IsRead →
      (m.isDefaultIgnored = true ↔ ∃ o ∈ openingsOfIgnores.flatten, o.Heads m.header.toList) ∧
      ∀ p ∈ defaultIgnores, p.isMatch m.raw = true → p.isMatch m.header = true) ∧
    (∀ m other : Message, m.IsRead → other.IsRead → m.header = other.header →
      m.isDefaultIgnored = other.isDefaultIgnored) ∧
    List.Forall₂ (fun text p => ∃ q, Pattern.ofText text = .ok q ∧ ∀ s, q.isMatch s = p.isMatch s)
      ignoreTexts defaultIgnores := by
  refine ⟨fun m read => ⟨read.isDefaultIgnored_iff, ?_⟩, ?_, ofText_ignoreTexts⟩
  · intro p usual found
    rw [isMatch_iff] at found ⊢
    exact finds_line_of_finds read.headed usual found
  · intro m other read readOther same
    rw [Bool.eq_iff_iff, read.isDefaultIgnored_iff, readOther.isDefaultIgnored_iff, same]

/-- Words of merges start a message that is skipped, however it goes on, and no message in which
they come later. -/
theorem usual_by_header_merge :
    (Message.parse "Merge a into b\n\nfeat: c").isDefaultIgnored = true ∧
    (Message.ofEditFile "# note\nMerge a into b").isDefaultIgnored = true ∧
    (Message.parse "feat: c\n\nMerge a into b").isDefaultIgnored = false := by
  obtain ⟨openings, same, -⟩ := usual_by_header
  have merged : (Message.parse "Merge a into b\n\nfeat: c").isDefaultIgnored = true := by
    refine (openings _ (.parse _)).1.2 ⟨⟨"Merge ", some " into "⟩, by decide, ?_⟩
    exact heads_mark_iff.2 ⟨['a'], by decide +kernel⟩
  have alike := same _ _ (.ofEditFile "# note\nMerge a into b") (.parse "Merge a into b\n\nfeat: c")
    (by decide +kernel)
  refine ⟨merged, alike.trans merged, ?_⟩
  have elsewhere : ∀ o ∈ openingsOfIgnores.flatten,
      ¬ o.start.toList <+: (Message.parse "feat: c\n\nMerge a into b").header.toList := by
        decide +kernel
  rw [← Bool.not_eq_true, (openings _ (.parse _)).1]
  intro headed
  obtain ⟨o, mem, rest, eq, -⟩ := headed
  exact elsewhere o mem ⟨rest, eq.symm⟩

end CommitLint
