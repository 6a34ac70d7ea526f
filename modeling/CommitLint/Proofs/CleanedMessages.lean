import CommitLint.Proofs.WrittenLines
import Mathlib

/-!
# Cleaned messages

A message that is not blank is a run of the lines of its text: from the first line that is not blank
to the last, nothing between them left out. Its own text is made of these lines, and so it may be
parsed once more. A line loses one carriage return then, if it has one at its end and a line feed is
put after it, which happens to all lines but the last.

* `exists_blank_lines_around` — the lines of a message stand together in its text, among blank ones;
* `Message.Clean.kept_parse_raw` — the lines of a message that is parsed once more;
* `cleaned_parse` — the shape of a message, and when parsing it once more changes nothing.
-/

namespace CommitLint

open Text

/-- The lines of a message, the header first. -/
def Message.kept (p : Message) : List String := p.header :: p.body

/-- The last line of a message, which is the header if there is no other. -/
def Message.final (p : Message) : String := p.kept.getLast (List.cons_ne_nil _ _)

/-- A message is known by its text and its lines. -/
theorem Message.eq_of_kept {p q : Message} (text : p.raw = q.raw) (same : p.kept = q.kept) :
    p = q := by
  obtain ⟨header, body⟩ := List.cons.inj same
  cases p
  cases q
  simp_all

/-- What makes a message clean. -/
structure Message.Clean (p : Message) : Prop where
  /-- The first line is not blank. -/
  first : isBlank p.header = false
  /-- The last line is not blank. -/
  last : isBlank p.final = false
  /-- No line has a line feed in it. -/
  single : ∀ line ∈ p.kept, '\n' ∉ line.toList
  /-- The text are the lines joined. -/
  joined : p.raw = joinLines p.kept

/-! ### Blank texts -/

/-- What is dropped from a chunk is white space. -/
theorem exists_terminator (chunk : List Char) :
    ∃ terminator, chunk = chunkContent chunk ++ terminator ∧
    ∀ c ∈ terminator, isSpace c = true := by
  rw [chunkContent]
  split
  · next before eq =>
    exact ⟨['\r', '\n'], by rw [← List.reverse_reverse chunk, eq]; simp,
      List.all_eq_true.1 (by decide)⟩
  · next before eq =>
    exact ⟨['\n'], by rw [← List.reverse_reverse chunk, eq]; simp, List.all_eq_true.1 (by decide)⟩
  · exact ⟨[], by simp⟩

theorem isBlank_chunkContent (chunk : List Char) :
    isBlank (String.ofList (chunkContent chunk)) = true ↔ ∀ c ∈ chunk, isSpace c = true := by
  obtain ⟨terminator, eq, spaces⟩ := exists_terminator chunk
  rw [isBlank_iff, String.toList_ofList]
  conv_rhs => rw [eq]
  rw [List.forall_mem_append]
  exact ⟨fun h => ⟨h, spaces⟩, And.left⟩

/-- A text is blank exactly when all its lines are. -/
theorem isBlank_iff_lines (text : String) :
    isBlank text = true ↔ ∀ line ∈ lines text, isBlank line = true := by
  have whole : isBlank text = true ↔
      ∀ chunk ∈ lineChunks text.toList, ∀ c ∈ chunk, isSpace c = true := by
    rw [isBlank_iff, ← List.forall_mem_flatten, flatten_lineChunks]
  rw [whole, lines, List.forall_mem_map]
  exact forall₂_congr fun chunk _ => (isBlank_chunkContent chunk).symm

/-! ### The run of lines that is kept -/

/-- What is left of lines stands together in them, among blank ones. -/
theorem exists_append_dropBlankEnds (ls : List String) :
    ∃ before after, ls = before ++ dropBlankEnds ls ++ after ∧
      ∀ line ∈ before ++ after, isBlank line = true := by
  refine ⟨ls.takeWhile isBlank, (ls.dropWhile isBlank).rtakeWhile isBlank, ?_, ?_⟩
  · rw [dropBlankEnds_eq_rdropWhile, List.append_assoc, List.rdropWhile_append_rtakeWhile,
      List.takeWhile_append_dropWhile]
  · rw [List.forall_mem_append]
    exact ⟨fun line => List.mem_takeWhile_imp, fun line => List.mem_rtakeWhile_imp⟩

theorem dropBlankEnds_eq_nil_iff (ls : List String) :
    dropBlankEnds ls = [] ↔ ∀ line ∈ ls, isBlank line = true := by
  rw [dropBlankEnds_eq_rdropWhile, List.rdropWhile_eq_nil_iff]
  constructor
  · intro blank
    rw [← List.takeWhile_append_dropWhile (p := isBlank) (l := ls), List.forall_mem_append]
    exact ⟨fun line => List.mem_takeWhile_imp, blank⟩
  · intro blank line mem
    exact blank line ((List.dropWhile_suffix _).subset mem)

theorem kept_ofLines {ls : List String} (written : dropBlankEnds ls ≠ []) :
    (Message.ofLines ls).kept = dropBlankEnds ls := by
  obtain ⟨first, rest, eq⟩ := List.exists_cons_of_ne_nil written
  rw [Message.kept, Message.header_ofLines, Message.body_ofLines, eq]
  rfl

/-- The text of a message are its lines joined, also when there is none. -/
theorem raw_parse (text : String) :
    (Message.parse text).raw = joinLines (Message.parse text).kept := by
  rw [Message.parse]
  by_cases none : dropBlankEnds (lines text) = []
  · rw [Message.kept, Message.raw_ofLines, Message.header_ofLines, Message.body_ofLines, none]
    rfl
  · rw [kept_ofLines none, Message.raw_ofLines]

theorem parse_of_isBlank {text : String} (blank : isBlank text = true) :
    Message.parse text = ⟨"", "", []⟩ := by
  have none := (dropBlankEnds_eq_nil_iff _).2 ((isBlank_iff_lines text).1 blank)
  simp only [Message.parse, Message.ofLines, none]
  rfl

theorem dropBlankEnds_lines_ne_nil {text : String} (written : isBlank text = false) :
    dropBlankEnds (lines text) ≠ [] := by
  intro none
  rw [dropBlankEnds_eq_nil_iff, ← isBlank_iff_lines, written] at none
  cases none

theorem kept_parse {text : String} (written : isBlank text = false) :
    (Message.parse text).kept = dropBlankEnds (lines text) :=
  kept_ofLines (dropBlankEnds_lines_ne_nil written)

/-- The lines of a message stand together in its text, and all around them are blank. -/
theorem exists_blank_lines_around {text : String} (written : isBlank text = false) :
    ∃ before after, lines text = before ++ (Message.parse text).kept ++ after ∧
      ∀ line ∈ before ++ after, isBlank line = true := by
  rw [kept_parse written]
  exact exists_append_dropBlankEnds (lines text)

theorem isBlank_header_parse {text : String} (written : isBlank text = false) :
    isBlank (Message.parse text).header = false := by
  rw [header_parse]
  rcases dropWhile_isBlank_eq (lines text) with ⟨none, -⟩ | ⟨visible, -⟩
  · refine absurd ?_ (dropBlankEnds_lines_ne_nil written)
    rw [dropBlankEnds_eq_rdropWhile, none, List.rdropWhile_nil]
  · exact visible

theorem isBlank_getLast_dropBlankEnds {ls : List String} (written : dropBlankEnds ls ≠ []) :
    isBlank ((dropBlankEnds ls).getLast written) = false := by
  rw [← Bool.not_eq_true]
  exact List.rdropWhile_last_not isBlank (ls.dropWhile isBlank) written

/-- A message that is not blank is clean. -/
theorem clean_parse {text : String} (written : isBlank text = false) :
    (Message.parse text).Clean where
  first := isBlank_header_parse written
  last := by
    simp only [Message.final, kept_parse written]
    exact isBlank_getLast_dropBlankEnds (dropBlankEnds_lines_ne_nil written)
  single := by
    intro line mem
    obtain ⟨before, after, eq, -⟩ := exists_blank_lines_around written
    have inside : line ∈ lines text := by
      rw [eq]
      exact List.mem_append_left _ (List.mem_append_right _ mem)
    exact newline_not_mem_of_mem_lines inside
  joined := raw_parse text

/-! ### Lines read back -/

/-- A line as it is read back from a text in which a line feed comes after it. -/
def reread (line : String) : String := String.ofList (chunkContent (line.toList ++ ['\n']))

theorem isBlank_reread (line : String) : isBlank (reread line) = isBlank line := by
  rw [Bool.eq_iff_iff, reread, isBlank_chunkContent, List.forall_mem_append, isBlank_iff]
  exact and_iff_left (List.all_eq_true.1 (by decide))

/-- A line is read back as it was unless it ends in a carriage return. -/
theorem reread_eq_self_iff (line : String) : reread line = line ↔ endsWith line "\r" = false := by
  rw [← Bool.not_eq_true, endsWith_iff, reread, ← String.toList_inj,
    String.toList_ofList, chunkContent,
    List.reverse_append, List.reverse_singleton, List.singleton_append]
  -- The line feed that was put at the end is cut off again, and with it a carriage return before
  -- it.
  split
  · next before eq =>
    have ending : line.toList = before.reverse ++ ['\r'] := by
      rw [← List.reverse_reverse line.toList, (List.cons.inj eq).2, List.reverse_cons]
    refine iff_of_false ?_ (not_not_intro ⟨before.reverse, ending⟩)
    simp [ending]
  · next before other eq =>
    obtain ⟨-, rfl⟩ := List.cons.inj eq
    refine iff_of_true (List.reverse_reverse _) ?_
    rintro ⟨rest, ending⟩
    exact other rest.reverse (by rw [ending]; simp)
  · next none => exact absurd rfl (none _)

theorem lineChunks_append_newline {cs : List Char} (single : '\n' ∉ cs) (rest : List Char) :
    lineChunks (cs ++ '\n' :: rest) = (cs ++ ['\n']) :: lineChunks rest := by
  induction cs with
  | nil => exact lineChunks_newline rest
  | cons c cs ih =>
    have other : c ≠ '\n' := (List.ne_of_not_mem_cons single).symm
    rw [List.cons_append, lineChunks, if_neg other, ih (List.not_mem_of_not_mem_cons single)]
    rfl

theorem lineChunks_of_single {cs : List Char} (single : '\n' ∉ cs) (nonempty : cs ≠ []) :
    lineChunks cs = [cs] := by
  induction cs with
  | nil => exact absurd rfl nonempty
  | cons c cs ih =>
    have other : c ≠ '\n' := (List.ne_of_not_mem_cons single).symm
    rw [lineChunks, if_neg other]
    cases cs with
    | nil => rfl
    | cons d ds => rw [ih (List.not_mem_of_not_mem_cons single) (List.cons_ne_nil d ds)]

theorem chunkContent_of_single {cs : List Char} (single : '\n' ∉ cs) : chunkContent cs = cs := by
  have reversed : '\n' ∉ cs.reverse := by simpa using single
  rw [chunkContent]
  split
  · next eq => simp [eq] at reversed
  · next eq => simp [eq] at reversed
  · rfl

theorem lines_of_single {line : String} (single : '\n' ∉ line.toList) (nonempty : line ≠ "") :
    lines line = [line] := by
  have chars : line.toList ≠ [] := fun h => nonempty (String.toList_eq_nil_iff.1 h)
  rw [lines, lineChunks_of_single single chars, List.map_singleton, chunkContent_of_single single,
    String.ofList_toList]

theorem lines_append_newline {line : String} (single : '\n' ∉ line.toList) (text : String) :
    lines (line ++ "\n" ++ text) = reread line :: lines text := by
  have chars : (line ++ "\n" ++ text).toList = line.toList ++ '\n' :: text.toList := by
    rw [String.toList_append, String.toList_append, List.append_assoc]
    rfl
  rw [lines, chars, lineChunks_append_newline single, List.map_cons]
  rfl

theorem joinLines_cons {ls : List String} (others : ls ≠ []) (line : String) :
    joinLines (line :: ls) = line ++ "\n" ++ joinLines ls := by
  obtain ⟨next, ls, rfl⟩ := List.exists_cons_of_ne_nil others
  exact String.intercalate_cons_cons

/-- Joined lines are read back one by one, the last as it was. -/
theorem lines_joinLines {front : List String} {last : String}
    (single : ∀ line ∈ front ++ [last], '\n' ∉ line.toList) (nonempty : last ≠ "") :
    lines (joinLines (front ++ [last])) = front.map reread ++ [last] := by
  induction front with
  | nil =>
    have alone : joinLines ([] ++ [last]) = last := String.intercalate_singleton
    rw [alone]
    exact lines_of_single (single last List.mem_cons_self) nonempty
  | cons line front ih =>
    rw [List.cons_append] at single ⊢
    rw [joinLines_cons (by simp), lines_append_newline (single line List.mem_cons_self),
      ih fun other mem => single other (List.mem_cons_of_mem _ mem), List.map_cons,
        List.cons_append]

/-- Lines are kept as they are when neither the first nor the last is blank. -/
theorem dropBlankEnds_eq_self {ls : List String} (first : ∀ line ∈ ls.head?, isBlank line = false)
    (last : ∀ nonempty : ls ≠ [], isBlank (ls.getLast nonempty) = false) :
    dropBlankEnds ls = ls := by
  have front : ls.dropWhile isBlank = ls := by
    cases ls with
    | nil => rfl
    | cons line ls => exact List.dropWhile_cons_of_neg (by simp [first line rfl])
  rw [dropBlankEnds_eq_rdropWhile, front, List.rdropWhile_eq_self_iff]
  intro nonempty
  rw [last nonempty]
  exact Bool.false_ne_true

/-- Reading lines back makes no line blank, so that none is trimmed afterwards. -/
theorem dropBlankEnds_reread {front : List String} {last : String}
    (first : ∀ line ∈ (front ++ [last]).head?, isBlank line = false)
    (final : isBlank last = false) :
    dropBlankEnds (front.map reread ++ [last]) = front.map reread ++ [last] := by
  apply dropBlankEnds_eq_self
  · -- The first line has been read back, unless it is the last as well.
    intro line head
    cases front with
    | nil =>
      obtain rfl : last = line := by simpa using head
      exact final
    | cons start front =>
      obtain rfl : reread start = line := by simpa using head
      rw [isBlank_reread]
      exact first start rfl
  · intro _
    rw [List.getLast_concat]
    exact final

namespace Message

variable {p : Message}

theorem dropLast_append_final (p : Message) : p.kept.dropLast ++ [p.final] = p.kept :=
  List.dropLast_append_getLast _

theorem Clean.lines_raw (clean : p.Clean) :
    lines p.raw = p.kept.dropLast.map reread ++ [p.final] := by
  have nonempty : p.final ≠ "" := by
    intro empty
    have visible : isBlank p.final = false := clean.last
    rw [empty, isBlank_empty] at visible
    cases visible
  have single : ∀ line ∈ p.kept.dropLast ++ [p.final], '\n' ∉ line.toList := by
    rw [dropLast_append_final]
    exact clean.single
  have joined : p.raw = joinLines (p.kept.dropLast ++ [p.final]) := by
    rw [dropLast_append_final]
    exact clean.joined
  rw [joined]
  exact lines_joinLines single nonempty

/-- The lines of a clean message that is parsed once more: all but the last lose what is lost before
a line feed. -/
theorem Clean.kept_parse_raw (clean : p.Clean) :
    (parse p.raw).kept = p.kept.dropLast.map reread ++ [p.final] := by
  have first : ∀ line ∈ (p.kept.dropLast ++ [p.final]).head?, isBlank line = false := by
    rw [dropLast_append_final]
    intro line head
    exact Option.some.inj head ▸ clean.first
  have kept := dropBlankEnds_reread first clean.last
  rw [parse, clean.lines_raw, kept_ofLines (by rw [kept]; simp), kept]

/-- Parsing a clean message once more changes nothing exactly when no line but the last ends in a
carriage return. -/
theorem Clean.parse_raw_iff (clean : p.Clean) :
    parse p.raw = p ↔ ∀ line ∈ p.kept.dropLast, endsWith line "\r" = false := by
  -- The text of a message is made of its lines, so that these alone have to be compared.
  have same_lines : parse p.raw = p ↔ (parse p.raw).kept = p.kept := by
    refine ⟨congrArg kept, fun same => eq_of_kept ?_ same⟩
    rw [raw_parse, same, ← clean.joined]
  calc parse p.raw = p
      ↔ p.kept.dropLast.map reread ++ [p.final] = p.kept.dropLast ++ [p.final] := by
        rw [same_lines, clean.kept_parse_raw, dropLast_append_final]
    _ ↔ p.kept.dropLast.map reread = p.kept.dropLast.map id := by
        rw [List.append_left_inj, List.map_id]
    _ ↔ ∀ line ∈ p.kept.dropLast, endsWith line "\r" = false := by
        rw [List.map_inj_left]
        exact forall₂_congr fun line _ => reread_eq_self_iff line

/-- Of two carriage returns at the end of a line one is lost each time. -/
example : (parse "a\r\r\nb").header = "a\r" ∧
    parse (parse "a\r\r\nb").raw = ⟨"a\nb", "a", ["b"]⟩ := by
  decide +kernel

end Message

/-- **The shape of cleaned messages.** A blank text has the empty message. Every other text has a
message whose lines stand together in the text among blank ones; the first and the last of them are
not blank, none has a line feed in it, and the text of the message are these lines joined. Parsing
the text of a message once more gives the same message exactly when no line but the last ends in a
carriage return. -/
theorem cleaned_parse (text : String) :
    let p := Message.parse text
    ((isBlank text = true ∧ p.raw = "" ∧ p.header = "" ∧ p.body = []) ∨
      (isBlank text = false ∧ p.Clean ∧ ∃ before after, lines text =
        before ++ (p.header :: p.body) ++ after ∧
        ∀ line ∈ before ++ after, isBlank line = true)) ∧
    (Message.parse p.raw = p ↔ ∀ line ∈ (p.header :: p.body).dropLast,
      endsWith line "\r" = false) := by
  intro p
  cases blank : isBlank text with
  | true =>
    have empty : p = ⟨"", "", []⟩ := parse_of_isBlank blank
    rw [empty]
    exact ⟨.inl ⟨rfl, rfl, rfl, rfl⟩, iff_of_true (parse_of_isBlank isBlank_empty) (by simp)⟩
  | false =>
    have clean : p.Clean := clean_parse blank
    exact ⟨.inr ⟨rfl, clean, exists_blank_lines_around blank⟩, clean.parse_raw_iff⟩

end CommitLint
