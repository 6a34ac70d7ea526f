import CommitLint.Toml.Document
import Mathlib

/-!
# Plain values

A value that is written plainly is read back: digits of a whole number, a text between quotes
without escapes, and an array with a comma and a blank between its items.

* `Reads depth v cs` — the characters are read as the value wherever a comma, a bracket or a line
  end follows them;
* `reads_boolean`, `reads_integer`, `reads_string`, `reads_array_nil`, `reads_array` — what is read.

A number is tried as a moment and as a floating-point number first, so that neither may be found in
it (`moment_eq_none`, `float_eq_none`).
-/

namespace CommitLint

/-! ### Repeated steps -/

/-- A step that takes one item after the other from what is written for it collects them. -/
theorem Text.Reading.repeated_flatMap {α β : Type} {step : List α → Reader (Step (List α) β)}
    {written : α → List Char} {xs : List α}
    (more : ∀ found, ∀ x ∈ xs, ∀ rest, step found (written x ++ rest) =
      some (.more (x :: found), rest))
    (taken : ∀ x ∈ xs, written x ≠ []) (found : List α) (rest : List Char) :
    repeated step found (xs.flatMap written ++ rest) = repeated step
    (xs.reverse ++ found) rest := by
  induction xs generalizing found with
  | nil => rfl
  | cons x xs ih =>
    have shorter : 0 < (written x).length := List.length_pos_of_ne_nil (taken x List.mem_cons_self)
    rw [List.flatMap_cons, List.append_assoc, repeated_of_more (more found x List.mem_cons_self _),
      ih (fun found y mem => more found y (List.mem_cons_of_mem _ mem))
        fun y mem => taken y (List.mem_cons_of_mem _ mem)]
    · simp
    · simp only [List.length_append]
      omega

/-- A step that takes one character after the other collects them. -/
theorem Text.Reading.repeated_collect {α : Type} {step : List Char → Reader (Step (List Char) α)}
    {p : Char → Bool}
    (more : ∀ found c rest, p c = true → step found (c :: rest) = some (.more (c :: found), rest))
    {cs : List Char} (all : ∀ c ∈ cs, p c = true) (found rest : List Char) :
    repeated step found (cs ++ rest) = repeated step (cs.reverse ++ found) rest := by
  have each : ∀ found, ∀ c ∈ cs, ∀ rest, step found ([c] ++ rest) =
      some (.more (c :: found), rest) :=
    fun found c mem rest => more found c rest (all c mem)
  have collected := repeated_flatMap each (fun c _ => List.cons_ne_nil c []) found rest
  rwa [List.flatMap_singleton'] at collected

namespace Toml

open Text

/-- What follows a value on its line: a comma, a bracket or the line end. -/
def Stops (rest : List Char) : Prop := ∃ c ∈ [',', ']', '\n'], ∃ tail, rest = c :: tail

/-! ### Numbers -/

theorem digitRun_append {ds rest : List Char} (digits : ∀ c ∈ ds, c.isDigit = true)
    (h : Stops rest) :
    digitRun Char.isDigit (ds ++ rest) = (ds, rest) := by
  induction ds with
  | nil =>
    obtain ⟨c, mem, tail, rfl⟩ := h
    simp only [List.mem_cons, List.not_mem_nil, or_false] at mem
    rcases mem with rfl | rfl | rfl <;> rfl
  | cons d ds ih =>
    have hd := digits d List.mem_cons_self
    have notLow : d ≠ '_' := by
      rintro rfl
      cases hd
    rw [List.cons_append, digitRun]
    · rw [if_pos hd, ih fun c mem => digits c (List.mem_cons_of_mem _ mem)]
    · rintro c cs rfl
      exact absurd rfl notLow

/-- After digits and a stop there is no other mark, however many digits are taken first. -/
theorem fixedDigits_afterChar? {ds rest : List Char} (digits : ∀ c ∈ ds, c.isDigit = true)
    (h : Stops rest)
    (count : Nat) (mark : Char) (other : mark.isDigit = false) (apart : mark ∉ [',', ']', '\n'])
    {n : Nat} {left : List Char} (read : fixedDigits count (ds ++ rest) = some (n, left)) :
    afterChar? mark left = none := by
  obtain ⟨c, mem, tail, rfl⟩ := h
  have stop : c.isDigit = false ∧ c ≠ mark := by
    refine ⟨?_, fun eq => apart (eq ▸ mem)⟩
    simp only [List.mem_cons, List.not_mem_nil, or_false] at mem
    rcases mem with rfl | rfl | rfl <;> rfl
  simp only [fixedDigits] at read
  split at read
  · next all =>
    obtain ⟨-, rfl⟩ := Prod.mk.inj (Option.some.inj read)
    rcases Nat.lt_or_ge ds.length count with long | short
    · have mem : c ∈ (ds ++ c :: tail).take count := by
        rw [List.take_append]
        apply List.mem_append_right
        obtain ⟨k, hk⟩ : ∃ k, count - ds.length = k + 1 := ⟨count - ds.length - 1, by omega⟩
        simp [hk]
      have := List.all_eq_true.1 all.2 c mem
      rw [stop.1] at this
      cases this
    · rw [List.drop_append_of_le_length short]
      cases left : ds.drop count with
      | nil => simp [afterChar?, stop.2]
      | cons d rest =>
        have hd := digits d (List.mem_of_mem_drop (by rw [left]; exact List.mem_cons_self))
        have : d ≠ mark := fun eq => by rw [eq, other] at hd; cases hd
        simp [afterChar?, this]
  · cases read

/-- Two digits of a time are not followed by a colon either. -/
theorem twoDigits_afterChar? {ds rest : List Char} (digits : ∀ c ∈ ds, c.isDigit = true)
    (h : Stops rest)
    {low high n : Nat} {left : List Char}
    (read : twoDigits low high (ds ++ rest) = some (n, left)) :
    afterChar? ':' left = none := by
  rw [twoDigits] at read
  cases first : fixedDigits 2 (ds ++ rest) with
  | none =>
    rw [first] at read
    cases read
  | some found =>
    simp only [first, Option.bind_eq_bind, Option.bind_some] at read
    split at read
    · obtain ⟨-, rfl⟩ := Prod.mk.inj (Option.some.inj read)
      exact fixedDigits_afterChar? digits h 2 ':' (by decide) (by decide) first
    · cases read

theorem moment_eq_none {ds rest : List Char} (digits : ∀ c ∈ ds, c.isDigit = true)
    (h : Stops rest) :
    moment (ds ++ rest) = none := by
  have noDate : date (ds ++ rest) = none := by
    unfold date
    cases read : fixedDigits 4 (ds ++ rest) with
    | none => rfl
    | some found =>
      have := fixedDigits_afterChar? digits h 4 '-' (by decide) (by decide) read
      simp [this]
  have noTime : time (ds ++ rest) = none := by
    unfold time
    cases read : twoDigits 0 23 (ds ++ rest) with
    | none => rfl
    | some found =>
      simp only [Option.bind_eq_bind, Option.bind_some, twoDigits_afterChar? digits h read,
        Option.bind_none]
  rw [moment, noDate, noTime]
  rfl

/-- Digits of a whole number in base ten: not none, and no zero in front of others. -/
def IsWhole (ds : List Char) : Prop :=
  (∀ c ∈ ds, c.isDigit = true) ∧ ∃ d others, ds = d :: others ∧ (d = '0' → others = [])

theorem wholeDigits_append {ds rest : List Char} (whole : IsWhole ds) (h : Stops rest) :
    wholeDigits (ds ++ rest) = some (ds, rest) := by
  obtain ⟨all, d, others, rfl, zero⟩ := whole
  by_cases hd : d = '0'
  · obtain rfl := zero hd
    subst hd
    rfl
  · rw [List.cons_append, wholeDigits]
    · rw [digits, if_pos (all d List.mem_cons_self),
        digitRun_append (fun c mem => all c (List.mem_cons_of_mem _ mem)) h]
    · rintro others eq
      exact hd (List.cons.inj eq).1

/-- A digit is none of the marks that a number may start with, nor any other character that is no
digit. -/
theorem ne_of_isDigit {c mark : Char} (h : c.isDigit = true) (other : mark.isDigit = false) :
    c ≠ mark := by
  rintro rfl
  rw [other] at h
  cases h

theorem sign_append {ds : List Char} (whole : IsWhole ds) (rest : List Char) :
    sign (ds ++ rest) = (false, ds ++ rest) := by
  obtain ⟨all, d, others, rfl, -⟩ := whole
  have hd := all d List.mem_cons_self
  unfold sign
  split
  · next eq => exact absurd (List.cons.inj eq).1 (ne_of_isDigit hd rfl)
  · next eq => exact absurd (List.cons.inj eq).1 (ne_of_isDigit hd rfl)
  · rfl

theorem float_eq_none {ds rest : List Char} (whole : IsWhole ds) (h : Stops rest) :
    float (ds ++ rest) = none := by
  have noFraction : fractionAndExponent rest = none := by
    obtain ⟨c, mem, tail, rfl⟩ := h
    simp only [List.mem_cons, List.not_mem_nil, or_false] at mem
    rcases mem with rfl | rfl | rfl <;> rfl
  have read := wholeDigits_append whole h
  obtain ⟨all, d, others, rfl, -⟩ := id whole
  have hd := all d List.mem_cons_self
  rw [float, sign_append whole]
  simp only
  split
  · next eq => exact absurd (List.cons.inj eq).1 (ne_of_isDigit hd rfl)
  · next eq => exact absurd (List.cons.inj eq).1 (ne_of_isDigit hd rfl)
  · rw [read]
    simp [noFraction]

theorem integer_of_unsigned {cs found left : List Char}
    (noBase : ∀ mark ∈ ['x', 'o', 'b'], ∀ rest, cs ≠ '0' :: mark :: rest)
    (unsigned : sign cs = (false, cs))
    (read : wholeDigits cs = some (found, left)) :
    integer cs = (integerOf? false 10 found).map fun v => (v, left) := by
  unfold integer
  split
  · exact absurd rfl (noBase 'x' (by decide) _)
  · exact absurd rfl (noBase 'o' (by decide) _)
  · exact absurd rfl (noBase 'b' (by decide) _)
  · rw [unsigned]
    show ((wholeDigits cs).bind fun p => (integerOf? false 10 p.1).bind fun v => some (v, p.2)) = _
    rw [read, Option.bind_some]
    generalize integerOf? false 10 (found, left).1 = result
    cases result <;> rfl

theorem integer_append {ds rest : List Char} (whole : IsWhole ds) (h : Stops rest) :
    integer (ds ++ rest) = (integerOf? false 10 ds).map fun v => (v, rest) := by
  refine integer_of_unsigned ?_ (sign_append whole rest) (wholeDigits_append whole h)
  intro mark base more eq
  obtain ⟨all, d, others, rfl, zero⟩ := whole
  obtain ⟨isZero, eq⟩ := List.cons.inj eq
  rw [zero isZero] at eq
  obtain ⟨c, mem, tail, rfl⟩ := h
  obtain ⟨rfl, -⟩ := List.cons.inj eq
  have apart : ∀ c ∈ [',', ']', '\n'], c ∉ ['x', 'o', 'b'] := by simp
  exact apart c mem base

theorem number_append {ds rest : List Char} (whole : IsWhole ds) (h : Stops rest) :
    number (ds ++ rest) = (integerOf? false 10 ds).map fun v => (v, rest) := by
  rw [number, moment_eq_none whole.1 h, float_eq_none whole h, integer_append whole h,
    Option.none_or]

theorem isWhole_toDigits (n : Nat) : IsWhole (Nat.toDigits 10 n) := by
  refine ⟨fun c mem => Nat.isDigit_of_mem_toDigits (by decide) (by decide) mem, ?_⟩
  induction n using Nat.strongRecOn with
  | ind n ih =>
    rcases Nat.lt_or_ge n 10 with small | large
    · rw [Nat.toDigits_of_lt_base small]
      exact ⟨_, [], rfl, fun _ => rfl⟩
    · obtain ⟨d, others, eq, zero⟩ := ih (n / 10) (by omega)
      rw [Nat.toDigits_of_base_le (by decide) large, eq]
      refine ⟨d, others ++ [(n % 10).digitChar], rfl, fun isZero => ?_⟩
      -- The number of all digits but the last is not zero, so its first digit is none.
      rw [isZero, zero isZero] at eq
      have := @Nat.ofDigitChars_ten_toDigits (n / 10)
      rw [eq] at this
      simp [Nat.ofDigitChars] at this
      omega

theorem ofDigits_digitValues {ds : List Char} (digits : ∀ c ∈ ds, c.isDigit = true) :
    ofDigits 10 (digitValues ds) = Nat.ofDigitChars 10 ds 0 := by
  rw [ofDigits, Nat.ofDigitChars_eq_foldl]
  generalize 0 = start
  induction ds generalizing start with
  | nil => rfl
  | cons d ds ih =>
    have hd := digits d List.mem_cons_self
    have : digitValues (d :: ds) = (d.toNat - '0'.toNat) :: digitValues ds := by
      simp [digitValues, hexDigit?, hd]
    rw [this, List.foldl_cons, List.foldl_cons,
      ih (fun c mem => digits c (List.mem_cons_of_mem _ mem)),
      Nat.mul_comm start 10]

/-! ### Texts -/

/-- Whether a character stands for itself between quotes. -/
def isQuotable (c : Char) : Bool := isPlain c && c ≠ '"' && c ≠ '\\'

theorem basicText_append {cs : List Char} (quotable : ∀ c ∈ cs, isQuotable c = true)
    (rest : List Char) :
    basicText (cs ++ '"' :: rest) = some (String.ofList cs, rest) := by
  rw [basicText, Reading.repeated_collect (fun found c rest h => ?_) quotable]
  · apply Reading.repeated_of_done
    simp
  · simp only [isQuotable, Bool.and_eq_true, decide_eq_true_eq] at h
    simp [h]

theorem text_append {cs : List Char} (quotable : ∀ c ∈ cs, isQuotable c = true) {rest : List Char}
    (h : Stops rest) :
    text ('"' :: cs ++ '"' :: rest) = some (String.ofList cs, rest) := by
  have notThree : ∀ more, '"' :: cs ++ '"' :: rest ≠ '"' :: '"' :: '"' :: more := by
    intro more eq
    cases cs with
    | nil =>
      obtain ⟨c, mem, tail, rfl⟩ := h
      obtain ⟨rfl, -⟩ := List.cons.inj (List.cons.inj (List.cons.inj eq).2).2
      simp at mem
    | cons c cs =>
      obtain ⟨rfl, -⟩ := List.cons.inj (List.cons.inj eq).2
      cases quotable '"' List.mem_cons_self
  unfold text
  split
  · next eq => exact absurd eq (notThree _)
  · next eq =>
    obtain rfl := (List.cons.inj eq).2
    exact basicText_append quotable rest
  · next eq => cases (List.cons.inj eq).1
  · next eq => cases (List.cons.inj eq).1
  · next other _ _ => exact absurd rfl (other _)

/-! ### Values -/

/-- Whether a character is passed over between the parts of an array, or closes it. -/
def isGap (c : Char) : Bool := c ∈ [' ', '\t', '\n', '\r', '#', ']']

/-- Characters that are read as a value wherever a stop follows them. -/
structure Reads (depth : Nat) (v : Value) (cs : List Char) : Prop where
  /-- The first of them belongs to the value. -/
  front : ∃ c others, cs = c :: others ∧ isGap c = false
  /-- They are read, and nothing after them. -/
  read : ∀ rest, Stops rest → value depth (cs ++ rest) = some (v, rest)

/-- Outside of arrays and tables a value is one that holds no others, at any depth. -/
theorem value_eq_scalar (depth : Nat) {c : Char} (array : c ≠ '[') (table : c ≠ '\x7b')
    (cs : List Char) :
    value depth (c :: cs) = value.scalar (c :: cs) := by
  cases depth with
  | zero => rw [value]
  | succ depth =>
    unfold value
    split
    · next eq => exact absurd (List.cons.inj eq).1 array
    · next eq => exact absurd (List.cons.inj eq).1 table
    · rfl

theorem reads_boolean (depth : Nat) (b : Bool) :
    Reads depth (.boolean b) (if b then ['t', 'r', 'u', 'e'] else ['f', 'a', 'l', 's', 'e']) := by
  cases b with
  | true =>
    refine ⟨⟨'t', ['r', 'u', 'e'], rfl, rfl⟩, fun rest _ => ?_⟩
    exact value_eq_scalar depth (by decide) (by decide) _
  | false =>
    refine ⟨⟨'f', ['a', 'l', 's', 'e'], rfl, rfl⟩, fun rest _ => ?_⟩
    exact value_eq_scalar depth (by decide) (by decide) _

theorem reads_string (depth : Nat) {cs : List Char} (quotable : ∀ c ∈ cs, isQuotable c = true) :
    Reads depth (.string (String.ofList cs)) ('"' :: cs ++ ['"']) := by
  refine ⟨⟨'"', cs ++ ['"'], rfl, rfl⟩, fun rest h => ?_⟩
  have same : '"' :: cs ++ ['"'] ++ rest = '"' :: (cs ++ '"' :: rest) := by simp
  rw [same, value_eq_scalar depth (by decide) (by decide), value.scalar]
  rw [← List.cons_append, text_append quotable h]
  rfl

theorem reads_integer (depth : Nat) {n : Nat} (small : n < 2 ^ 63) :
    Reads depth (.integer n) (Nat.toDigits 10 n) := by
  have whole := isWhole_toDigits n
  have fit : integerOf? false 10 (Nat.toDigits 10 n) = some (.integer n) := by
    have : fits (n : Int) = true := by
      simp only [fits, Bool.and_eq_true, decide_eq_true_eq]
      omega
    simp [integerOf?, ofDigits_digitValues whole.1, this]
  generalize Nat.toDigits 10 n = ds at whole fit
  obtain ⟨all, d, others, rfl, -⟩ := id whole
  have hd := all d List.mem_cons_self
  have gap : isGap d = false := by
    rw [isGap, decide_eq_false_iff_not]
    intro mem
    have none : [' ', '\t', '\n', '\r', '#', ']'].any Char.isDigit = false := rfl
    exact List.any_eq_false.1 none d mem hd
  refine ⟨⟨d, others, rfl, gap⟩, fun rest h => ?_⟩
  have scalar : value.scalar (d :: others ++ rest) = number (d :: others ++ rest) := by
    unfold value.scalar
    split
    case h_7 => rfl
    all_goals
      next eq => exact absurd (List.cons.inj eq).1 (ne_of_isDigit hd rfl)
  rw [List.cons_append, value_eq_scalar depth (ne_of_isDigit hd rfl) (ne_of_isDigit hd rfl),
    ← List.cons_append, scalar, number_append whole h, fit]
  rfl

/-! ### Arrays -/

theorem dropGaps?_front {c : Char} (h : isGap c = false) (cs : List Char) :
    dropGaps? false (c :: cs) = some (c :: cs) := by
  rw [isGap, decide_eq_false_iff_not] at h
  simp only [List.mem_cons, List.not_mem_nil, or_false, not_or] at h
  obtain ⟨noBlank, noTab, noFeed, noReturn, noComment, -⟩ := h
  unfold dropGaps?
  split
  · next eq => cases eq
  · next eq => exact absurd (List.cons.inj eq).1 noFeed
  · next eq => exact absurd (List.cons.inj eq).1 noReturn
  · next eq =>
    obtain ⟨rfl, rfl⟩ := List.cons.inj eq
    simp [isBlankChar, noBlank, noTab, noComment]

/-- A step on an array reads its item with what stands after it. -/
theorem arrayStep_item {depth : Nat} {v : Value} {cs : List Char} (reads : Reads depth v cs)
    (found : List Value) {rest : List Char} (h : Stops rest) :
    arrayStep (value depth) found (cs ++ rest) =
      (dropGaps? false rest).bind fun left => match left with
      | ',' :: rest => some (.more (v :: found), rest)
      | ']' :: rest => some (.done (v :: found).reverse, rest)
      | _ => none := by
  obtain ⟨c, others, rfl, gap⟩ := reads.front
  have read := reads.read rest h
  rw [arrayStep, List.cons_append, dropGaps?_front gap, ← List.cons_append]
  simp only [Option.bind_eq_bind, Option.bind_some]
  split
  · next eq =>
    obtain ⟨rfl, -⟩ := List.cons.inj eq
    cases gap
  · rw [read]
    rfl

/-- The items of an array after the first, each after a comma and a blank. -/
def afterCommas (items : List (List Char)) : List Char := items.flatMap fun cs => ',' :: ' ' :: cs

theorem repeated_arrayStep {depth : Nat} {vs : List Value} {items : List (List Char)}
    (all : List.Forall₂ (Reads depth) vs items) {v : Value} {cs : List Char}
    (reads : Reads depth v cs)
    (found : List Value) (lead rest : List Char) (blank : lead = [] ∨ lead = [' ']) :
    Reading.repeated (arrayStep (value depth)) found
      (lead ++ cs ++ afterCommas items ++ ']' :: rest)
      = some (found.reverse ++ v :: vs, rest) := by
  have skip : ∀ found cs, arrayStep (value depth) found (lead ++ cs) =
      arrayStep (value depth) found cs := by
    intro found cs
    rcases blank with rfl | rfl <;> rfl
  induction all generalizing v cs found lead with
  | nil =>
    have step : arrayStep (value depth) found (lead ++ cs ++ afterCommas [] ++ ']' :: rest)
        = some (.done (v :: found).reverse, rest) := by
      rw [List.append_assoc, List.append_assoc, skip]
      exact arrayStep_item reads found ⟨']', by decide, _, rfl⟩
    rw [Reading.repeated_of_done step]
    simp
  | @cons w item vs items first _ ih =>
    have step : arrayStep (value depth) found
        (lead ++ cs ++ afterCommas (item :: items) ++ ']' :: rest)
        = some (.more (v :: found), [' '] ++ item ++ afterCommas items ++ ']' :: rest) := by
      rw [List.append_assoc, List.append_assoc, skip]
      exact arrayStep_item reads found ⟨',', by decide, _, rfl⟩
    have taken : 0 < cs.length := by
      obtain ⟨c, others, rfl, -⟩ := reads.front
      exact Nat.succ_pos _
    rw [Reading.repeated_of_more step, ih first (v :: found) [' '] (.inr rfl) fun _ _ => rfl]
    · simp
    · simp only [afterCommas, List.flatMap_cons, List.length_append, List.length_cons,
        List.length_nil]
      omega

theorem reads_array_nil (depth : Nat) : Reads (depth + 1) (.array []) ['[', ']'] := by
  refine ⟨⟨'[', [']'], rfl, rfl⟩, fun rest _ => ?_⟩
  have step : arrayStep (value depth) [] (']' :: rest) = some (.done [], rest) := rfl
  show (arrayItems (value depth) (']' :: rest)).map _ = _
  rw [arrayItems, Reading.repeated_of_done step]
  rfl

theorem reads_array {depth : Nat} {v : Value} {cs : List Char} {vs : List Value}
    {items : List (List Char)}
    (first : Reads depth v cs) (others : List.Forall₂ (Reads depth) vs items) :
    Reads (depth + 1) (.array (v :: vs)) ('[' :: (cs ++ afterCommas items ++ [']'])) := by
  refine ⟨⟨'[', _, rfl, rfl⟩, fun rest _ => ?_⟩
  have all := repeated_arrayStep others first [] [] rest (.inl rfl)
  have same : '[' :: (cs ++ afterCommas items ++ [']']) ++ rest
      = '[' :: ([] ++ cs ++ afterCommas items ++ ']' :: rest) := by
    simp
  rw [same]
  show (arrayItems (value depth) _).map _ = _
  rw [arrayItems, all]
  rfl

end Toml

end CommitLint
