import CommitLint.Proofs.PrintedReports
import CommitLint.Proofs.RuleLines
import Mathlib

/-!
# Style changes nothing that is written

A terminal takes style sequences out of what it is sent, and switches styles on and off with them.
An output with style is one without, stretch by stretch: bare text that is shown without any style,
and pieces between the sequences that switch their style on and the one that switches all off. So no
style runs on into what follows.

* `painted_written` — what a terminal shows of stretches, whatever comes after them;
* `decorates_written` — taking the sequences out leaves what is written without style;
* `colour_decorates` — so it is for violations, reports and listings of rules.
-/

namespace CommitLint

namespace Terminal

/-! ### What a terminal shows -/

/-- The number of a style sequence at the front of characters, and what follows the sequence. -/
def styleSequence? : List Char → Option (String × List Char)
  | '\x1b' :: '[' :: cs =>
    match cs.takeWhile Char.isDigit, cs.dropWhile Char.isDigit with
    | d :: ds, 'm' :: rest => some (String.ofList (d :: ds), rest)
    | _, _ => none
  | _ => none

theorem length_lt_of_styleSequence? {cs rest : List Char} {number : String}
    (h : styleSequence? cs = some (number, rest)) : rest.length < cs.length := by
  unfold styleSequence? at h
  split at h
  · next cs =>
    split at h
    · next left =>
      obtain ⟨-, rfl⟩ := Prod.mk.inj (Option.some.inj h)
      have shorter := (List.dropWhile_sublist (l := cs) Char.isDigit).length_le
      rw [left, List.length_cons] at shorter
      simp only [List.length_cons]
      omega
    · cases h
  · cases h

/-- The styles that are on after a number. Zero switches all off. -/
def switched (on : List String) (number : String) : List String :=
  if number = "0" then [] else on ++ [number]

/-- What is shown of characters: those outside of style sequences, each with the styles that are
on. -/
def painted (on : List String) (cs : List Char) : List (Char × List String) :=
  match sequence : styleSequence? cs with
  | some (number, rest) =>
    have := length_lt_of_styleSequence? sequence
    painted (switched on number) rest
  | none =>
    match cs with
    | [] => []
    | c :: cs => (c, on) :: painted on cs
termination_by cs.length

/-- Characters without their style sequences. -/
def stripped (cs : List Char) : List Char :=
  match sequence : styleSequence? cs with
  | some (_, rest) =>
    have := length_lt_of_styleSequence? sequence
    stripped rest
  | none =>
    match cs with
    | [] => []
    | c :: cs => c :: stripped cs
termination_by cs.length

theorem painted_nil (on : List String) : painted on [] = [] := by
  rw [painted]
  rfl

theorem painted_of_styleSequence? {on : List String} {cs rest : List Char} {number : String}
    (h : styleSequence? cs = some (number, rest)) :
    painted on cs = painted (switched on number) rest := by
  rw [painted]
  split
  · next found =>
    obtain ⟨rfl, rfl⟩ := Prod.mk.inj (Option.some.inj (found.symm.trans h))
    rfl
  · next found =>
    rw [h] at found
    cases found

theorem painted_cons {on : List String} {c : Char} {cs : List Char}
    (h : styleSequence? (c :: cs) = none) :
    painted on (c :: cs) = (c, on) :: painted on cs := by
  rw [painted]
  split
  · next found =>
    rw [h] at found
    cases found
  · rfl

/-- What is shown is what is left without the sequences. -/
theorem map_fst_painted (on : List String) (cs : List Char) :
    (painted on cs).map Prod.fst = stripped cs := by
  fun_induction stripped cs generalizing on with
  | case1 cs number rest sequence _ ih => rw [painted_of_styleSequence? sequence, ih]
  | case2 sequence => rw [painted_nil, List.map_nil]
  | case3 c cs sequence ih => rw [painted_cons sequence, List.map_cons, ih]

/-- A character that starts no sequence is shown with what is on. -/
theorem styleSequence?_of_ne {c : Char} (other : c ≠ '\x1b') (cs : List Char) :
    styleSequence? (c :: cs) = none := by
  unfold styleSequence?
  split
  · next eq => exact absurd (List.cons.inj eq).1 other
  · rfl

theorem painted_append {front : List Char} (plain : '\x1b' ∉ front) (on : List String)
    (rest : List Char) :
    painted on (front ++ rest) = front.map (fun c => (c, on)) ++ painted on rest := by
  induction front with
  | nil => rfl
  | cons c front ih =>
    have other : c ≠ '\x1b' := (List.ne_of_not_mem_cons plain).symm
    rw [List.cons_append, painted_cons (styleSequence?_of_ne other _),
      ih (List.not_mem_of_not_mem_cons plain)]
    rfl

/-- A sequence switches, and shows nothing. -/
theorem painted_sequence {number : String} (nonempty : number.toList ≠ [])
    (digits : ∀ c ∈ number.toList, c.isDigit = true) (on : List String) (rest : List Char) :
    painted on ((sequence number).toList ++ rest) = painted (switched on number) rest := by
  have chars : (sequence number).toList ++ rest =
      '\x1b' :: '[' :: (number.toList ++ 'm' :: rest) := by
    simp [sequence]
  have stop : ∀ c ∈ ('m' :: rest).head?, c.isDigit = false := by simp
  obtain ⟨taken, left⟩ := Text.Reading.span_append digits stop
  obtain ⟨d, ds, eq⟩ := List.exists_cons_of_ne_nil nonempty
  rw [chars]
  apply painted_of_styleSequence?
  rw [styleSequence?, taken, left, eq]
  show some (String.ofList (d :: ds), rest) = _
  rw [← eq, String.ofList_toList]

/-- Whether a text has no character that a style sequence starts with. -/
def IsPlain (s : String) : Prop := '\x1b' ∉ s.toList

/-! ### Pieces -/

/-- A number that switches a style on. -/
structure IsSwitch (number : String) : Prop where
  /-- It has a digit. -/
  nonempty : number.toList ≠ []
  /-- It has nothing else. -/
  digits : ∀ c ∈ number.toList, c.isDigit = true
  /-- It is not the one that switches all off. -/
  ne_zero : number ≠ "0"

theorem isSwitch_colour (colour : Colour) : IsSwitch colour.number := by
  cases colour <;>
  · rw [Colour.number]
    exact ⟨by simp, by simp, by simp⟩

theorem isSwitch_weight (weight : Weight) : IsSwitch weight.number := by
  cases weight <;>
  · rw [Weight.number]
    exact ⟨by simp, by simp, by simp⟩

theorem painted_switch {number : String} (h : IsSwitch number) (on : List String)
    (rest : List Char) :
    painted on ((sequence number).toList ++ rest) = painted (on ++ [number]) rest := by
  rw [painted_sequence h.nonempty h.digits, switched, if_neg h.ne_zero]

theorem painted_reset (on : List String) (rest : List Char) :
    painted on ((sequence "0").toList ++ rest) = painted [] rest :=
  painted_sequence (by simp) (by simp) on rest

/-- The numbers that switch a piece's style on. -/
def Piece.numbers (piece : Piece) : List String :=
  piece.colour.toList.map Colour.number ++ piece.weight.toList.map Weight.number

theorem painted_opening (piece : Piece) (rest : List Char) :
    painted [] (piece.opening.toList ++ rest) = painted piece.numbers rest := by
  obtain ⟨colour, weight, text⟩ := piece
  rw [Piece.opening, String.toList_append, List.append_assoc]
  cases colour with
  | none =>
    cases weight with
    | none => rfl
    | some weight => exact painted_switch (isSwitch_weight weight) [] rest
  | some colour =>
    show painted [] ((sequence colour.number).toList ++ _) = _
    rw [painted_switch (isSwitch_colour colour)]
    cases weight with
    | none => rfl
    | some weight => exact painted_switch (isSwitch_weight weight) _ rest

/-- A piece is shown in its style, and what follows it without any. -/
theorem painted_render {piece : Piece} (plain : IsPlain piece.text) (rest : List Char) :
    painted [] ((piece.render true).toList ++ rest)
      = piece.text.toList.map (fun c => (c, piece.numbers)) ++ painted [] rest := by
  rw [Piece.render, if_pos rfl, String.toList_append, String.toList_append, List.append_assoc,
    List.append_assoc,
    painted_opening, painted_append plain, painted_reset]

/-! ### Stretches -/

/-- A stretch of an output. -/
inductive Stretch
  /-- Text without any style. -/
  | bare (text : String)
  /-- A text with its style. -/
  | ofPiece (piece : Piece)

namespace Stretch

def text : Stretch → String
  | bare text => text
  | ofPiece piece => piece.text

/-- The numbers that are on where a stretch is shown. -/
def numbers : Stretch → List String
  | bare _ => []
  | ofPiece piece => piece.numbers

def render (styled : Bool) : Stretch → String
  | bare text => text
  | ofPiece piece => piece.render styled

/-- The characters of a stretch, each with the styles that it is to be shown with. -/
def cells (stretch : Stretch) : List (Char × List String) :=
  stretch.text.toList.map fun c => (c, stretch.numbers)

/-- Stretches as they are written one after the other. -/
def written (styled : Bool) (stretches : List Stretch) : String :=
  String.join (stretches.map (·.render styled))

theorem render_false (stretch : Stretch) : stretch.render false = stretch.text := by
  cases stretch with
  | bare text => rfl
  | ofPiece piece => exact piece.render_false

theorem painted_render {stretch : Stretch} (plain : IsPlain stretch.text) (rest : List Char) :
    painted [] ((stretch.render true).toList ++ rest) = stretch.cells ++ painted [] rest := by
  cases stretch with
  | bare text => exact painted_append plain [] rest
  | ofPiece piece => exact Terminal.painted_render plain rest

theorem written_nil (styled : Bool) : written styled [] = "" := rfl

theorem written_cons (styled : Bool) (s : Stretch) (stretches : List Stretch) :
    written styled (s :: stretches) = s.render styled ++ written styled stretches := by
  rw [written, List.map_cons, String.join_cons, ← written]

/-- Of stretches each is shown as it is to be, whatever follows them. -/
theorem painted_written {stretches : List Stretch} (plain : ∀ s ∈ stretches, IsPlain s.text)
    (rest : List Char) :
    painted [] ((written true stretches).toList ++ rest) =
      stretches.flatMap cells ++ painted [] rest := by
  induction stretches with
  | nil => rfl
  | cons s stretches ih =>
    have first := painted_render (plain s List.mem_cons_self)
      ((written true stretches).toList ++ rest)
    rw [written_cons, String.toList_append, List.append_assoc, first,
      ih fun t mem => plain t (List.mem_cons_of_mem _ mem), List.flatMap_cons, List.append_assoc]

theorem map_fst_cells (stretches : List Stretch) :
    (stretches.flatMap cells).map Prod.fst = (written false stretches).toList := by
  rw [written, String.toList_join, List.map_flatMap, List.flatMap_map]
  congr 1
  funext s
  rw [render_false, cells, List.map_map]
  exact List.map_id _

theorem written_append (styled : Bool) (front back : List Stretch) :
    written styled (front ++ back) = written styled front ++ written styled back := by
  rw [written, List.map_append, String.join_append, ← written, ← written]

theorem written_flatMap {α : Type} (styled : Bool) (f : α → List Stretch) (xs : List α) :
    written styled (xs.flatMap f) = String.join (xs.map fun x => written styled (f x)) := by
  induction xs with
  | nil => rfl
  | cons x xs ih => rw [List.flatMap_cons, written_append, ih, List.map_cons, String.join_cons]

end Stretch

/-- An output with style is another one decorated: it is written stretch by stretch, nothing is left
of it but the other output once the style sequences are taken out, and a terminal shows every
stretch in its own style, bare text in none, and what follows the output as if it stood alone. -/
structure Decorates (styled bare : String) (stretches : List Stretch) : Prop where
  /-- The stretches one after the other. -/
  written : styled = Stretch.written true stretches
  /-- What is left without the style sequences. -/
  stripped : String.ofList (stripped styled.toList) = bare
  /-- What is shown. -/
  painted : ∀ rest, painted [] (styled.toList ++ rest) =
    stretches.flatMap Stretch.cells ++ painted [] rest

theorem decorates_written {stretches : List Stretch} (plain : ∀ s ∈ stretches, IsPlain s.text) :
    Decorates (Stretch.written true stretches) (Stretch.written false stretches) stretches := by
  refine ⟨rfl, ?_, Stretch.painted_written plain⟩
  have shown := Stretch.painted_written plain []
  rw [List.append_nil, painted_nil, List.append_nil] at shown
  rw [← map_fst_painted [], shown, Stretch.map_fst_cells, String.ofList_toList]

end Terminal

open Terminal

/-! ### Violations -/

namespace Violation

/-- Whether the texts of a violation are plain. -/
structure IsPlain (v : Violation) : Prop where
  /-- The message. -/
  message : Terminal.IsPlain v.message
  /-- The suggestion. -/
  suggestion : ∀ advice ∈ v.suggestion, Terminal.IsPlain advice

/-- The first line of a violation: the mark and the rule in colour, and the message bare. -/
def headStretches (v : Violation) : List Stretch :=
  [.ofPiece (if v.isError then bold .red "✗" else bold .yellow "⚠"), .bare " ",
    .ofPiece (plain (if v.isError then .red else .yellow) v.rule.key), .bare " ", .bare v.message]

def adviceStretches (advice : String) : List Stretch :=
  [.bare "\n  ", .ofPiece (dim "→"), .bare " ", .ofPiece (dim advice)]

def stretches (v : Violation) : List Stretch :=
  v.headStretches ++ v.suggestion.toList.flatMap adviceStretches

theorem format_eq (styled : Bool) (v : Violation) :
    v.format styled = Stretch.written styled v.stretches := by
  rw [format, stretches, Stretch.written_append, Stretch.written_flatMap, headStretches]
  cases v.suggestion with
  | none => simp [Stretch.written_cons, Stretch.written_nil, Stretch.render, String.append_assoc]
  | some advice =>
    simp [adviceStretches, Stretch.written_cons, Stretch.written_nil, Stretch.render,
      String.append_assoc]

theorem isPlain_key (rule : RuleName) : Terminal.IsPlain rule.key := fun mem =>
  absurd ((isWord_key rule).visible _ mem) (by decide)

theorem IsPlain.stretches {v : Violation} (h : v.IsPlain) :
    ∀ s ∈ v.stretches, Terminal.IsPlain s.text := by
  rw [Violation.stretches, List.forall_mem_append]
  constructor
  · have mark : Terminal.IsPlain (if v.isError then bold .red "✗" else bold .yellow "⚠").text := by
      split <;> simp [Terminal.IsPlain, bold]
    have blank : Terminal.IsPlain " " := by simp [Terminal.IsPlain]
    simp only [headStretches, List.forall_mem_cons]
    exact ⟨mark, blank, isPlain_key v.rule, blank, h.message, by simp⟩
  · intro s mem
    obtain ⟨advice, given, inside⟩ := List.mem_flatMap.1 mem
    simp only [adviceStretches, List.mem_cons, List.not_mem_nil, or_false] at inside
    rcases inside with rfl | rfl | rfl | rfl
    · simp [Terminal.IsPlain, Stretch.text]
    · simp [Terminal.IsPlain, Stretch.text, dim]
    · simp [Terminal.IsPlain, Stretch.text]
    · exact h.suggestion advice (Option.mem_toList.1 given)

end Violation

/-! ### Reports -/

namespace Report

/-- Whether the texts of a report are plain. -/
structure IsPlain (r : Report) : Prop where
  /-- The header. -/
  header : Terminal.IsPlain r.header
  /-- The identifier of the commit. -/
  commitSha : ∀ sha ∈ r.commitSha, Terminal.IsPlain sha
  /-- The texts of the violations. -/
  violations : ∀ v ∈ r.violations, v.IsPlain

/-- Whether the bytes by which a commit is cited end where a character of its identifier ends. -/
def Citable (sha : String) : Prop :=
  ∃ short rest, sha = short ++ rest ∧ short.utf8ByteSize = min shortShaSize sha.utf8ByteSize

theorem Citable.exists_shortSha? {sha : String} (h : Citable sha) :
    ∃ short rest, sha = short ++ rest ∧ shortSha? sha = some short := by
  obtain ⟨short, rest, rfl, whole⟩ := h
  refine ⟨short, rest, rfl, ?_⟩
  have size (s : String) : s.utf8ByteSize = String.utf8Len s.toList := by
    rw [← String.utf8ByteSize_ofList, String.ofList_toList]
  rw [size, size, String.toList_append] at whole
  rw [shortSha?, String.toList_append, byteTake?_append whole, Option.map_some,
    String.ofList_toList]

/-- The start of an identifier by which a commit is cited, in colour. -/
def citedStretches (short : String) : List Stretch := [.ofPiece (plain .cyan short), .bare " "]

/-- The first line of a report: the mark, the start of the identifier if there is one, and the
header bare. -/
def headStretches (r : Report) : List Stretch :=
  .ofPiece r.mark :: .bare " " :: (r.commitSha.bind shortSha?).toList.flatMap citedStretches
    ++ [.bare r.header, .bare "\n"]

/-- What is written of one of the violations of a report. -/
def violationStretches (v : Violation) : List Stretch := .bare "  " :: v.stretches ++ [.bare "\n"]

/-- The last line of a report that has violations. -/
def summaryStretches (r : Report) : List Stretch :=
  if r.violations.isEmpty then [] else [.bare "  ", .ofPiece (dim r.summary), .bare "\n"]

def stretches (r : Report) : List Stretch :=
  r.headStretches ++ (r.violations.flatMap violationStretches ++ r.summaryStretches)

theorem headline?_eq {r : Report} (citable : ∀ sha ∈ r.commitSha, Citable sha) (styled : Bool) :
    r.headline? styled = some (Stretch.written styled r.headStretches) := by
  rw [headline?, headStretches]
  cases cited : r.commitSha with
  | none => simp [Stretch.written_cons, Stretch.written_nil, Stretch.render, String.append_assoc]
  | some sha =>
    obtain ⟨short, -, -, found⟩ := (citable sha cited).exists_shortSha?
    simp [found, citedStretches, Stretch.written_cons, Stretch.written_nil, Stretch.render,
      String.append_assoc]

theorem details_eq (styled : Bool) (r : Report) :
    r.details styled = Stretch.written styled
    (r.violations.flatMap violationStretches ++ r.summaryStretches) := by
  have each (v : Violation) : Stretch.written styled (violationStretches v) =
      "  " ++ v.format styled ++ "\n" := by
    rw [v.format_eq, violationStretches, Stretch.written_append, Stretch.written_cons]
    rfl
  rw [details, Stretch.written_append, Stretch.written_flatMap, summaryStretches]
  simp only [each]
  split
  · rfl
  · simp [Stretch.written_cons, Stretch.written_nil, Stretch.render, String.append_assoc]

theorem print?_eq {r : Report} (citable : ∀ sha ∈ r.commitSha, Citable sha) (styled : Bool) :
    r.print? styled = some (Stretch.written styled r.stretches) := by
  rw [print?, headline?_eq citable, Option.map_some, details_eq,
    ← Stretch.written_append, stretches]

theorem escape_not_mem_toDigits (n : Nat) : '\x1b' ∉ Nat.toDigits 10 n := fun mem =>
  absurd (Nat.isDigit_of_mem_toDigits (by decide) (by decide) mem) (by decide)

theorem isPlain_summary (r : Report) : Terminal.IsPlain r.summary := by
  rw [summary]
  split_ifs <;> simp [Terminal.IsPlain, escape_not_mem_toDigits]

theorem isPlain_mark (r : Report) : Terminal.IsPlain r.mark.text := by
  rw [mark]
  split_ifs <;> simp [Terminal.IsPlain, dim, bold]

theorem IsPlain.headStretches {r : Report} (h : r.IsPlain)
    (citable : ∀ sha ∈ r.commitSha, Citable sha) :
    ∀ s ∈ r.headStretches, Terminal.IsPlain s.text := by
  have cited : ∀ short ∈ r.commitSha.bind shortSha?, Terminal.IsPlain short := by
    intro short mem inside
    -- What is cited of an identifier is the start of it.
    obtain ⟨sha, given, found⟩ := Option.bind_eq_some_iff.1 mem
    obtain ⟨start, rest, rfl, same⟩ := (citable sha given).exists_shortSha?
    obtain rfl : start = short := Option.some.inj (same.symm.trans found)
    exact h.commitSha _ given (by rw [String.toList_append]; exact List.mem_append_left _ inside)
  intro s mem
  simp only [Report.headStretches, citedStretches, List.cons_append, List.mem_cons, List.mem_append,
    List.mem_flatMap,
    List.not_mem_nil, or_false] at mem
  rcases mem with rfl | rfl | ⟨short, given, rfl | rfl⟩ | rfl | rfl
  · exact r.isPlain_mark
  · simp [Terminal.IsPlain, Stretch.text]
  · exact cited short (Option.mem_toList.1 given)
  · simp [Terminal.IsPlain, Stretch.text]
  · exact h.header
  · simp [Terminal.IsPlain, Stretch.text]

theorem IsPlain.stretches {r : Report} (h : r.IsPlain)
    (citable : ∀ sha ∈ r.commitSha, Citable sha) :
    ∀ s ∈ r.stretches, Terminal.IsPlain s.text := by
  have indent : Terminal.IsPlain "  " := by simp [Terminal.IsPlain]
  have feed : Terminal.IsPlain "\n" := by simp [Terminal.IsPlain]
  rw [Report.stretches, List.forall_mem_append, List.forall_mem_append]
  refine ⟨h.headStretches citable, ?_, ?_⟩
  · intro s mem
    obtain ⟨v, broken, inside⟩ := List.mem_flatMap.1 mem
    rw [violationStretches, List.mem_append, List.mem_cons, List.mem_singleton] at inside
    rcases inside with (rfl | inside) | rfl
    · exact indent
    · exact (h.violations v broken).stretches s inside
    · exact feed
  · rw [summaryStretches]
    split
    · simp
    · simp only [List.forall_mem_cons]
      exact ⟨indent, r.isPlain_summary, feed, by simp⟩

theorem bare_header_mem (r : Report) : Stretch.bare r.header ∈ r.stretches := by
  simp [stretches, headStretches]

theorem bare_message_mem {r : Report} {v : Violation} (mem : v ∈ r.violations) :
    Stretch.bare v.message ∈ r.stretches := by
  have inside : Stretch.bare v.message ∈ violationStretches v := by
    simp [violationStretches, Violation.stretches, Violation.headStretches]
  exact List.mem_append_right _ (List.mem_append_left _ (List.mem_flatMap.2 ⟨v, mem, inside⟩))

end Report

/-! ### Rules -/

namespace Listing

/-- The line of a rule, dim if the rule is off. -/
def lineStretches (e : RuleEntry) : List Stretch :=
  [if e.2.isEnabled then .bare (ruleLine e) else .ofPiece (dim (ruleLine e)), .bare "\n"]

/-- What is written of rules: a line for each, or that there are none. -/
def stretches (rules : RuleSet) : List Stretch :=
  if rules.isEmpty then [.bare "No rules configured\n"] else rules.entries.flatMap lineStretches

theorem rulesText_eq (styled : Bool) (rules : RuleSet) :
    rulesText styled rules = Stretch.written styled (stretches rules) := by
  have each (e : RuleEntry) : Stretch.written styled (lineStretches e) =
      styledRuleLine styled e ++ "\n" := by
    rw [lineStretches, Stretch.written_cons, styledRuleLine]
    split <;> rfl
  rw [rulesText, stretches]
  split
  · rfl
  · rw [Stretch.written_flatMap]
    simp only [each]

/-- Nothing needs to be known of the rules, as texts among their values are quoted. -/
theorem isPlain_stretches (rules : RuleSet) : ∀ s ∈ stretches rules, Terminal.IsPlain s.text := by
  have line (e : RuleEntry) : Terminal.IsPlain (ruleLine e) := fun mem =>
    absurd (le_of_mem_ruleLine mem) (by decide)
  intro s mem
  rw [stretches] at mem
  split at mem
  · obtain rfl := List.mem_singleton.1 mem
    simp [Terminal.IsPlain, Stretch.text]
  · obtain ⟨e, -, inside⟩ := List.mem_flatMap.1 mem
    rw [lineStretches, List.mem_cons, List.mem_singleton] at inside
    rcases inside with rfl | rfl
    · split
      · exact line e
      · exact line e
    · simp [Terminal.IsPlain, Stretch.text]

end Listing

/-- **Colour only decorates.** Where no text has the character that control sequences start with, a
violation, a report that can be cited, and the rules as they are listed are written with style as
they are without, once the style sequences are taken out. With style, each stretch is shown in its
own style and what follows it is not, and the header of a report and the messages of violations are
shown without any. -/
theorem colour_decorates :
    (∀ v : Violation, v.IsPlain →
      Decorates (v.format true) (v.format false) v.stretches ∧
      Stretch.bare v.message ∈ v.stretches) ∧
    (∀ r : Report, r.IsPlain → (∀ sha ∈ r.commitSha, Report.Citable sha) →
      ∃ styled bare, r.print? true = some styled ∧ r.print? false = some bare ∧
        Decorates styled bare r.stretches ∧ Stretch.bare r.header ∈ r.stretches ∧
        ∀ v ∈ r.violations, Stretch.bare v.message ∈ r.stretches) ∧
    (∀ rules : RuleSet,
      Decorates (Listing.rulesText true rules) (Listing.rulesText false rules)
        (Listing.stretches rules)) ∧
    ∀ (w : Workspace) (build : Build) (input : ByteArray) (i : Invocation) (config : Config),
      i.format ≠ some .json → i.command = .rules → w.chosenConfig i.config = .ok config →
      Decorates (w.run build true input i).1.output (w.run build false input i).1.output
        (Listing.stretches config.rules) := by
  have rules (set : RuleSet) :
      Decorates (Listing.rulesText true set) (Listing.rulesText false set)
        (Listing.stretches set) := by
    rw [Listing.rulesText_eq, Listing.rulesText_eq]
    exact decorates_written (Listing.isPlain_stretches set)
  refine ⟨?_, ?_, rules, ?_⟩
  · intro v plain
    rw [v.format_eq, v.format_eq]
    exact ⟨decorates_written plain.stretches, by
      simp [Violation.stretches, Violation.headStretches]⟩
  · intro r plain citable
    exact ⟨_, _, Report.print?_eq citable true, Report.print?_eq citable false,
      decorates_written (plain.stretches citable), r.bare_header_mem,
        fun v => Report.bare_message_mem⟩
  · intro w build input i config text command loaded
    rw [run_rules command loaded, run_rules command loaded, if_neg text, if_neg text]
    exact rules config.rules

/-- A report of a commit whose identifier has a character of two bytes, the last of those by which
it is cited. -/
def accentedReport : Report :=
  ⟨some "1a2b3é4", "fix [31m", false,
    [⟨.headerMinLength, .error, "too short", some "write more"⟩,
      ⟨.typeEmpty, .warning, "[0m", none⟩]⟩

/-- With its style taken out the report is what is printed without, and the header is shown without
any although it ends like a sequence. -/
theorem colour_decorates_accented :
    let bare :=
  "✗ 1a2b3é fix [31m\n  ✗ header-min-length too short\n  → write more\n  ⚠ type-empty [0m\n"
      ++ "  Invalid (1 errors, 1 warnings)\n"
    (∃ styled, accentedReport.print? true = some styled ∧ styled ≠ bare ∧
      String.ofList (stripped styled.toList) = bare ∧
      Stretch.bare "fix [31m" ∈ accentedReport.stretches) ∧
    (∀ v ∈ accentedReport.violations, String.ofList (stripped (v.format true).toList) =
      v.format false) ∧
    Decorates
      ((⟨.empty, [], ⟨none, none, none⟩, []⟩ : Workspace).run ⟨"0.1.0", none, none⟩ true .empty
        ⟨.rules, true, false, false, none, none⟩).1.output
      ((⟨.empty, [], ⟨none, none, none⟩, []⟩ : Workspace).run ⟨"0.1.0", none, none⟩ false .empty
        ⟨.rules, true, false, false, none, none⟩).1.output
      (Listing.stretches .standard) := by
  intro bare
  obtain ⟨violations, reports, -, runs⟩ := colour_decorates
  have plain : ∀ v ∈ accentedReport.violations, v.IsPlain := by
    intro v mem
    simp only [accentedReport, List.mem_cons, List.not_mem_nil, or_false] at mem
    rcases mem with rfl | rfl
    · exact ⟨by simp [IsPlain], by simp [IsPlain]⟩
    · exact ⟨by simp [IsPlain], by simp [IsPlain]⟩
  have cited : Report.Citable "1a2b3é4" := ⟨"1a2b3é", "4", by decide +kernel, by decide +kernel⟩
  refine ⟨?_, fun v mem => (violations v (plain v mem)).1.stripped, ?_⟩
  · obtain ⟨styled, written, first, second, decorated, header, -⟩ := reports accentedReport
      ⟨by simp [IsPlain, accentedReport], by simp [IsPlain, accentedReport], plain⟩
      fun sha mem => by obtain rfl := Option.some.inj mem; exact cited
    have shown : accentedReport.print? false = some bare := by decide +kernel
    obtain rfl : bare = written := Option.some.inj (shown.symm.trans second)
    refine ⟨styled, first, ?_, decorated.stripped, header⟩
    rintro rfl
    have coloured : accentedReport.print? true ≠ some bare := by decide +kernel
    exact coloured first
  · exact runs _ _ _ ⟨.rules, true, false, false, none, none⟩ .standard (by decide) rfl
      (by decide +kernel)

end CommitLint
