import CommitLint.JsonValue
import CommitLint.Proofs.PlainValues
import Mathlib

/-!
# Reading JSON

A reader of JSON texts that knows nothing of how values are laid out here: blanks and line ends may
stand between any two parts, and a character between quotes may be escaped by a letter or by its
code units. Numbers are counts, so signs, fractions and exponents are refused. What is laid out is
read back.

* `textBody_escaped` — a text is read from its escaped characters;
* `reads_layout` — a value is read from its layout, whatever follows it but a digit;
* `read_append` — so every value is read from its text, also when a line end comes after it.
-/

namespace CommitLint.JsonValue

open Text
open Toml (hexDigit? ofDigits)

/-! ### The reader -/

/-- Whether a character says nothing between two parts. -/
def isGap (c : Char) : Bool := c ∈ [' ', '\t', '\n', '\r']

def dropGaps (cs : List Char) : List Char := cs.dropWhile isGap

/-- A code unit, in four hexadecimal digits. -/
def codeUnit : Reader Nat
  | a :: b :: c :: d :: rest => ([a, b, c, d].mapM hexDigit?).map fun digits =>
    (ofDigits 16 digits, rest)
  | _ => none

/-- A character by its code unit. One beyond the first plane has two, each of them escaped. -/
def character : Reader Char := fun cs => do
  let (unit, left) ← codeUnit cs
  if 0xD800 ≤ unit ∧ unit < 0xDC00 then
    match left with
    | '\\' :: 'u' :: rest =>
      let (low, left) ← codeUnit rest
      if 0xDC00 ≤ low ∧ low < 0xE000 then
        return (Char.ofNat (0x10000 + (unit - 0xD800) * 0x400 + (low - 0xDC00)), left)
      else none
    | _ => none
  else if 0xDC00 ≤ unit ∧ unit < 0xE000 then none
  else return (Char.ofNat unit, left)

/-- An escaped character, after the backslash. -/
def escape : Reader Char
  | '"' :: rest => some ('"', rest)
  | '\\' :: rest => some ('\\', rest)
  | '/' :: rest => some ('/', rest)
  | 'b' :: rest => some ('\x08', rest)
  | 'f' :: rest => some ('\x0c', rest)
  | 'n' :: rest => some ('\n', rest)
  | 'r' :: rest => some ('\r', rest)
  | 't' :: rest => some ('\t', rest)
  | 'u' :: rest => character rest
  | _ => none

/-- One character of a text, or its closing quote. Controls must be escaped. -/
def textStep (found : List Char) : Reader (Step (List Char) String)
  | '"' :: rest => some (.done (String.ofList found.reverse), rest)
  | '\\' :: rest => (escape rest).map fun (c, left) => (.more (c :: found), left)
  | c :: rest => if c < ' ' then none else some (.more (c :: found), rest)
  | [] => none

def textBody : Reader String := Reading.repeated textStep []

/-- A count. Only zero itself starts with the digit zero. -/
def count (cs : List Char) : Option (Nat × List Char) :=
  match cs.takeWhile Char.isDigit with
  | [] => none
  | d :: ds =>
    if d = '0' ∧ ds ≠ [] then none
    else some (Nat.ofDigitChars 10 (d :: ds) 0, cs.dropWhile Char.isDigit)

/-- One part of several with the comma after it, or with the closing bracket. -/
def partStep {α : Type} (close : Char) (part : Reader α) (found : List α) :
    Reader (Step (List α) (List α)) :=
  fun cs => do
    let (x, left) ← part (dropGaps cs)
    match dropGaps left with
    | [] => none
    | c :: rest =>
      if c = ',' then return (.more (x :: found), rest)
      else if c = close then return (.done (x :: found).reverse, rest)
      else none

/-- Parts with commas between them, after the opening bracket. -/
def parts {α : Type} (close : Char) (part : Reader α) : Reader (List α) := fun cs =>
  if (dropGaps cs).head? = some close then some ([], (dropGaps cs).tail)
  else Reading.repeated (partStep close part) [] cs

/-- A key with the value after its colon. -/
def keyed (value : Reader JsonValue) : Reader (String × JsonValue)
  | '"' :: rest => do
    let (key, left) ← textBody rest
    match dropGaps left with
    | ':' :: rest => (value (dropGaps rest)).map fun (x, left) => ((key, x), left)
    | _ => none
  | _ => none

/-- A value with fewer than `nesting` brackets around each of its parts. -/
def value : (nesting : Nat) → Reader JsonValue
  | 0, _ => none
  | nesting + 1, cs =>
    match cs with
    | 'n' :: 'u' :: 'l' :: 'l' :: rest => some (null, rest)
    | 't' :: 'r' :: 'u' :: 'e' :: rest => some (bool true, rest)
    | 'f' :: 'a' :: 'l' :: 's' :: 'e' :: rest => some (bool false, rest)
    | '"' :: rest => (textBody rest).map fun (s, left) => (text s, left)
    | '[' :: rest => (parts ']' (value nesting) rest).map fun (items, left) => (list items, left)
    | '\x7b' :: rest => (parts '\x7d' (keyed (value nesting)) rest).map fun (fields, left) =>
      (object fields, left)
    | cs => (count cs).map fun (n, left) => (number n, left)

/-- The value that a text stands for. No text has more brackets than characters. -/
def read (s : String) : Option JsonValue := do
  let (x, left) ← value s.length (dropGaps s.toList)
  if dropGaps left = [] then return x else none

/-! ### Induction on values -/

/-- What holds of a list or an object when it holds of all that is in it holds of every value. -/
theorem induction {motive : JsonValue → Prop} (null : motive null) (bool : ∀ b, motive (bool b))
    (number : ∀ n, motive (number n)) (text : ∀ s, motive (text s))
    (list : ∀ items, (∀ x ∈ items, motive x) → motive (list items))
    (object : ∀ fields, (∀ field ∈ fields, motive field.2) → motive (object fields))
    (x : JsonValue) :
    motive x :=
  @JsonValue.rec motive (fun items => ∀ x ∈ items, motive x)
    (fun fields => ∀ field ∈ fields, motive field.2)
    (fun field => motive field.2) null bool number text list object (by simp)
    (fun _ _ first others => List.forall_mem_cons.2 ⟨first, others⟩) (by simp)
    (fun _ _ first others => List.forall_mem_cons.2 ⟨first, others⟩) (fun _ _ h => h) x

/-! ### Gaps -/

theorem dropGaps_newLine (depth : Nat) (cs : List Char) :
    dropGaps (newLine depth ++ cs) = dropGaps cs := by
  have gaps : ∀ c ∈ newLine depth, isGap c = true := by
    intro c mem
    rcases List.mem_cons.1 mem with rfl | mem
    · rfl
    · rw [List.eq_of_mem_replicate mem]
      rfl
  exact List.dropWhile_append_of_pos gaps

theorem dropGaps_cons {c : Char} (h : isGap c = false) (cs : List Char) :
    dropGaps (c :: cs) = c :: cs := by
  rw [dropGaps, List.dropWhile_cons_of_neg (by simp [h])]

/-! ### Texts -/

theorem hexDigit?_hexDigit : ∀ n < 16, hexDigit? (hexDigit n) = some n := by decide

/-- A control is read from its code unit. -/
theorem character_control {c : Char} (control : c < ' ') (rest : List Char) :
    character ('0' :: '0' :: hexDigit (c.toNat / 16) :: hexDigit (c.toNat % 16) :: rest) =
      some (c, rest) := by
  have small : c.toNat < 32 := UInt32.lt_iff_toNat_lt.1 control
  have high := hexDigit?_hexDigit (c.toNat / 16) (by omega)
  have low := hexDigit?_hexDigit (c.toNat % 16) (by omega)
  have zero : hexDigit? '0' = some 0 := rfl
  have unit : codeUnit ('0' :: '0' :: hexDigit (c.toNat / 16) :: hexDigit (c.toNat % 16) :: rest)
      = some (c.toNat, rest) := by
    have value : ofDigits 16 [0, 0, c.toNat / 16, c.toNat % 16] = c.toNat := by
      show (((0 * 16 + 0) * 16 + 0) * 16 + c.toNat / 16) * 16 + c.toNat % 16 = c.toNat
      omega
    simp [codeUnit, zero, high, low, value]
  have single : ¬ (0xD800 ≤ c.toNat ∧ c.toNat < 0xDC00) := by omega
  have notLow : ¬ (0xDC00 ≤ c.toNat ∧ c.toNat < 0xE000) := by omega
  rw [character, unit]
  simp only [Option.bind_eq_bind, Option.bind_some, if_neg single, if_neg notLow, Char.ofNat_toNat]
  rfl

/-- A step on a text reads one character from what it is escaped as. -/
theorem textStep_escaped (found : List Char) (c : Char) (rest : List Char) :
    textStep found (escaped c ++ rest) = some (.more (c :: found), rest) := by
  by_cases quote : c = '"'
  · subst quote
    rfl
  by_cases backslash : c = '\\'
  · subst backslash
    rfl
  simp only [escaped, if_neg quote, if_neg backslash]
  split_ifs with back tab feed page ret control
  · subst back
    rfl
  · subst tab
    rfl
  · subst feed
    rfl
  · subst page
    rfl
  · subst ret
    rfl
  · show (character ('0' :: '0' :: hexDigit (c.toNat / 16) :: hexDigit (c.toNat % 16) :: rest)).map
        _ = _
    rw [character_control control]
    rfl
  · show textStep found (c :: rest) = _
    unfold textStep
    split
    · next eq => exact absurd (List.cons.inj eq).1 quote
    · next eq => exact absurd (List.cons.inj eq).1 backslash
    · next eq =>
      obtain ⟨rfl, rfl⟩ := List.cons.inj eq
      rw [if_neg control]
    · next eq => cases eq

theorem escaped_ne_nil (c : Char) : escaped c ≠ [] := by
  unfold escaped
  split_ifs <;> simp

/-- A text is read from its escaped characters and the closing quote. -/
theorem textBody_escaped (s : String) (rest : List Char) :
    textBody (s.toList.flatMap escaped ++ '"' :: rest) = some (s, rest) := by
  have done : textStep s.toList.reverse ('"' :: rest) = some (.done s, rest) := by
    show some (Step.done (String.ofList s.toList.reverse.reverse), rest) = _
    rw [List.reverse_reverse, String.ofList_toList]
  rw [textBody, Reading.repeated_flatMap (fun found c _ => textStep_escaped found c)
    (fun c _ => escaped_ne_nil c),
    List.append_nil, Reading.repeated_of_done done]

/-! ### Values -/

/-- Whether a number would not go on in what follows. -/
def Stops (rest : List Char) : Prop := ∀ c ∈ rest.head?, c.isDigit = false

/-- Characters of which a reader makes something wherever no digit follows them. -/
structure ReadBy {α : Type} (part : Reader α) (x : α) (cs : List Char) : Prop where
  /-- The first of them is neither passed over nor a closing bracket. -/
  front : ∃ c others, cs = c :: others ∧ isGap c = false ∧ c ≠ ']' ∧ c ≠ '\x7d'
  /-- They are read, and nothing after them. -/
  read : ∀ rest, Stops rest → part (cs ++ rest) = some (x, rest)

theorem stops_newLine (depth : Nat) (rest : List Char) : Stops (newLine depth ++ rest) := by
  intro c mem
  obtain rfl : '\n' = c := by simpa [newLine] using mem
  rfl

theorem stops_cons {c : Char} (other : c.isDigit = false) (rest : List Char) :
    Stops (c :: rest) := by
  intro d mem
  obtain rfl : c = d := by simpa using mem
  exact other

theorem ReadBy.dropGaps_append {α : Type} {part : Reader α} {x : α} {cs : List Char}
    (reads : ReadBy part x cs)
    (rest : List Char) : dropGaps (cs ++ rest) = cs ++ rest := by
  obtain ⟨c, others, rfl, gap, -⟩ := reads.front
  exact dropGaps_cons gap (others ++ rest)

theorem count_toDigits (n : Nat) {rest : List Char} (h : Stops rest) :
    count (Nat.toDigits 10 n ++ rest) = some (n, rest) := by
  obtain ⟨digits, d, ds, eq, zero⟩ := Toml.isWhole_toDigits n
  obtain ⟨taken, left⟩ := Reading.span_append digits h
  have single : ¬ (d = '0' ∧ ds ≠ []) := fun ⟨isZero, more⟩ => more (zero isZero)
  rw [count, taken, left, eq]
  simp only [if_neg single]
  rw [← eq, Nat.ofDigitChars_ten_toDigits]

theorem reads_null (nesting : Nat) : ReadBy (value (nesting + 1)) null "null".toList := by
  rw [String.toList_ofList]
  exact ⟨⟨'n', _, rfl, rfl, by decide, by decide⟩, fun _ _ => rfl⟩

theorem reads_bool (nesting : Nat) (b : Bool) :
    ReadBy (value (nesting + 1)) (bool b) (if b then "true" else "false").toList := by
  cases b
  · show ReadBy _ _ "false".toList
    rw [String.toList_ofList]
    exact ⟨⟨'f', _, rfl, rfl, by decide, by decide⟩, fun _ _ => rfl⟩
  · show ReadBy _ _ "true".toList
    rw [String.toList_ofList]
    exact ⟨⟨'t', _, rfl, rfl, by decide, by decide⟩, fun _ _ => rfl⟩

theorem reads_number (nesting n : Nat) :
    ReadBy (value (nesting + 1)) (number n) (Nat.toDigits 10 n) := by
  obtain ⟨digits, d, ds, eq, -⟩ := Toml.isWhole_toDigits n
  have digit : d.isDigit = true := digits d (eq ▸ List.mem_cons_self)
  have other : ∀ mark : Char, mark.isDigit = false → d ≠ mark := fun _ => Toml.ne_of_isDigit digit
  constructor
  · refine ⟨d, ds, eq, ?_, other _ rfl, other _ rfl⟩
    rw [isGap, decide_eq_false_iff_not]
    intro mem
    have none : [' ', '\t', '\n', '\r'].any Char.isDigit = false := rfl
    exact List.any_eq_false.1 none d mem digit
  · intro rest h
    have read := count_toDigits n h
    rw [eq, List.cons_append] at read ⊢
    unfold value
    -- A digit is none of the characters that the other values start with.
    split
    case h_7 => rw [read]; rfl
    all_goals
      next start => exact absurd (List.cons.inj start).1 (other _ rfl)

theorem quotedText_append (s : String) (rest : List Char) :
    quotedText s ++ rest = '"' :: (s.toList.flatMap escaped ++ '"' :: rest) := by
  simp [quotedText]

theorem reads_text (nesting : Nat) (s : String) :
    ReadBy (value (nesting + 1)) (text s) (quotedText s) := by
  refine ⟨⟨'"', _, rfl, rfl, by decide, by decide⟩, fun rest _ => ?_⟩
  rw [quotedText_append]
  show (textBody _).map _ = _
  rw [textBody_escaped]
  rfl

/-! ### Parts in brackets -/

section

variable {α : Type} {part : Reader α} {close : Char} {written : α → List Char} {inner outer : Nat}

/-- The parts after the first, each after a comma and on a line of its own. -/
def afterCommas (written : α → List Char) (depth : Nat) (xs : List α) : List Char :=
  xs.flatMap fun x => ',' :: newLine depth ++ written x

theorem partStep_more {x : α} (reads : ReadBy part x (written x)) (found : List α)
    (rest : List Char) :
    partStep close part found (newLine inner ++ (written x ++ ',' :: rest)) =
      some (.more (x :: found), rest) := by
  have comma : dropGaps (',' :: rest) = ',' :: rest := dropGaps_cons rfl rest
  rw [partStep, dropGaps_newLine, reads.dropGaps_append, reads.read _ (stops_cons rfl rest)]
  simp only [Option.bind_eq_bind, Option.bind_some, comma, if_true]
  rfl

theorem partStep_done (gap : isGap close = false) (other : close ≠ ',') {x : α}
    (reads : ReadBy part x (written x))
    (found : List α) (rest : List Char) :
    partStep close part found (newLine inner ++ (written x ++ (newLine outer ++ close :: rest)))
      = some (.done (found.reverse ++ [x]), rest) := by
  have closing : dropGaps (newLine outer ++ close :: rest) = close :: rest := by
    rw [dropGaps_newLine, dropGaps_cons gap]
  rw [partStep, dropGaps_newLine, reads.dropGaps_append, reads.read _ (stops_newLine outer _)]
  simp only [Option.bind_eq_bind, Option.bind_some, closing, if_neg other, if_true,
    List.reverse_cons]
  rfl

theorem repeated_partStep (gap : isGap close = false) (other : close ≠ ',') {x : α} {xs : List α}
    (reads : ∀ y ∈ x :: xs, ReadBy part y (written y)) (found : List α) (rest : List Char) :
    Reading.repeated (partStep close part) found
        (newLine inner ++ (written x ++ (afterCommas written inner xs
          ++ (newLine outer ++ close :: rest))))
      = some (found.reverse ++ x :: xs, rest) := by
  induction xs generalizing x found with
  | nil => exact Reading.repeated_of_done (partStep_done gap other
    (reads x List.mem_cons_self) found rest)
  | cons y ys ih =>
    have same : afterCommas written inner (y :: ys) ++ (newLine outer ++ close :: rest) =
        ',' :: (newLine inner ++
          (written y ++ (afterCommas written inner ys ++ (newLine outer ++ close :: rest)))) := by
      simp [afterCommas]
    have step := @partStep_more α part close written inner x (reads x List.mem_cons_self) found
      (newLine inner ++
        (written y ++ (afterCommas written inner ys ++ (newLine outer ++ close :: rest))))
    rw [same, Reading.repeated_of_more step, ih fun z mem => reads z (List.mem_cons_of_mem _ mem)]
    · simp
    · simp only [List.length_append, List.length_cons]
      omega

/-- Parts that are read one by one are read together, up to the closing bracket. -/
theorem parts_append (closing : close = ']' ∨ close = '\x7d') {x : α} {xs : List α}
    (reads : ∀ y ∈ x :: xs, ReadBy part y (written y)) (rest : List Char) :
    parts close part
        (newLine inner ++ (written x ++ (afterCommas written inner xs
          ++ (newLine outer ++ close :: rest))))
      = some (x :: xs, rest) := by
  have gap : isGap close = false := by rcases closing with rfl | rfl <;> rfl
  have other : close ≠ ',' := by rcases closing with rfl | rfl <;> decide
  have first := reads x List.mem_cons_self
  have front : (written x ++ (afterCommas written inner xs
      ++ (newLine outer ++ close :: rest))).head?
      ≠ some close := by
    obtain ⟨c, others, eq, -, notList, notObject⟩ := first.front
    rw [eq]
    rintro same
    obtain rfl : c = close := Option.some.inj same
    exact closing.elim notList notObject
  have all := @repeated_partStep α part close written inner outer gap other x xs reads [] rest
  rw [parts, dropGaps_newLine, first.dropGaps_append, if_neg front, all]
  rfl

end

/-! ### Layouts -/

def layoutField (depth : Nat) (field : String × JsonValue) : List Char :=
  quotedText field.1 ++ ':' :: ' ' :: layout depth field.2

theorem layoutItems_eq (depth : Nat) (xs : List JsonValue) :
    layoutItems depth xs = afterCommas (layout depth) depth xs := by
  induction xs with
  | nil => rw [layoutItems]; rfl
  | cons x xs ih => rw [layoutItems_cons, ih]; rfl

theorem layoutFields_eq (depth : Nat) (fields : List (String × JsonValue)) :
    layoutFields depth fields = afterCommas (layoutField depth) depth fields := by
  induction fields with
  | nil => rw [layoutFields]; rfl
  | cons field fields ih =>
    rw [layoutFields, ih]
    simp [afterCommas, layoutField]

theorem layout_list_cons (depth : Nat) (x : JsonValue) (xs : List JsonValue) :
    layout depth (list (x :: xs)) = '[' :: (newLine (depth + 1) ++ (layout (depth + 1) x ++
      (afterCommas (layout (depth + 1)) (depth + 1) xs ++ (newLine depth ++ [']'])))) := by
  rw [layout, layoutItems_eq]
  simp

theorem layout_object_cons (depth : Nat) (field : String × JsonValue)
    (fields : List (String × JsonValue)) :
    layout depth (object (field :: fields)) =
      '\x7b' :: (newLine (depth + 1) ++ (layoutField (depth + 1) field ++
      (afterCommas (layoutField (depth + 1)) (depth + 1) fields
        ++ (newLine depth ++ ['\x7d'])))) := by
  rw [layout, layoutFields_eq]
  simp [layoutField]

theorem reads_layoutField {nesting depth : Nat} {field : String × JsonValue}
    (reads : ReadBy (value nesting) field.2 (layout depth field.2)) :
    ReadBy (keyed (value nesting)) field (layoutField depth field) := by
  refine ⟨⟨'"', _, rfl, rfl, by decide, by decide⟩, fun rest h => ?_⟩
  have same : layoutField depth field ++ rest = '"' :: (field.1.toList.flatMap escaped ++
      '"' :: ':' :: ' ' :: (layout depth field.2 ++ rest)) := by
    rw [layoutField, List.append_assoc, quotedText_append]
    rfl
  have blank : dropGaps (' ' :: (layout depth field.2 ++ rest)) = layout depth field.2 ++ rest :=
    reads.dropGaps_append rest
  have colon : dropGaps (':' :: ' ' :: (layout depth field.2 ++ rest)) =
      ':' :: ' ' :: (layout depth field.2 ++ rest) :=
    rfl
  rw [same]
  simp only [keyed, textBody_escaped, Option.bind_eq_bind, Option.bind_some, colon, blank,
    reads.read rest h]
  rfl

theorem length_le_afterCommas {α : Type} (written : α → List Char) (depth : Nat) {x : α}
    {xs : List α} (mem : x ∈ xs) :
    (written x).length ≤ (afterCommas written depth xs).length := by
  obtain ⟨before, after, rfl⟩ := List.append_of_mem mem
  simp only [afterCommas, List.flatMap_append, List.flatMap_cons, List.length_append]
  omega

/-- Whatever is in brackets has fewer characters than are within and around them. -/
theorem length_lt_layout_list (depth : Nat) {x : JsonValue} {xs : List JsonValue} (mem : x ∈ xs) :
    (layout (depth + 1) x).length < (layout depth (list xs)).length := by
  cases xs with
  | nil => cases mem
  | cons first others =>
    rw [layout_list_cons]
    simp only [List.length_cons, List.length_append]
    rcases List.mem_cons.1 mem with rfl | mem
    · omega
    · have := length_le_afterCommas (layout (depth + 1)) (depth + 1) mem
      omega

theorem length_lt_layout_object (depth : Nat) {field : String × JsonValue}
    {fields : List (String × JsonValue)}
    (mem : field ∈ fields) :
    (layout (depth + 1) field.2).length < (layout depth (object fields)).length := by
  have inside : (layout (depth + 1) field.2).length < (layoutField (depth + 1) field).length := by
    simp only [layoutField, List.length_append, List.length_cons]
    omega
  cases fields with
  | nil => cases mem
  | cons first others =>
    rw [layout_object_cons]
    simp only [List.length_cons, List.length_append]
    rcases List.mem_cons.1 mem with rfl | mem
    · omega
    · have := length_le_afterCommas (layoutField (depth + 1)) (depth + 1) mem
      omega

theorem layout_ne_nil (depth : Nat) (x : JsonValue) : layout depth x ≠ [] := by
  cases x with
  | null => simp [layout]
  | bool b => cases b <;> simp [layout]
  | number n =>
    obtain ⟨-, d, ds, eq, -⟩ := Toml.isWhole_toDigits n
    simp [layout, eq]
  | text s => simp [layout, quotedText]
  | list items => cases items <;> simp [layout]
  | object fields => cases fields <;> simp [layout]

/-- A layout is not empty, so that a reader that allows for as many brackets allows for one. -/
theorem exists_nesting {x : JsonValue} {depth nesting : Nat}
    (enough : (layout depth x).length ≤ nesting) :
    ∃ n, nesting = n + 1 := by
  have := List.length_pos_of_ne_nil (layout_ne_nil depth x)
  exact Nat.exists_eq_add_one.2 (by omega)

/-- A value is read from its layout, if the reader allows for as many brackets as there are
characters. -/
theorem reads_layout (x : JsonValue) {depth nesting : Nat}
    (enough : (layout depth x).length ≤ nesting) :
    ReadBy (value nesting) x (layout depth x) := by
  induction x using JsonValue.induction generalizing depth nesting with
  | null =>
    obtain ⟨n, rfl⟩ := exists_nesting enough
    rw [layout]
    exact reads_null n
  | bool b =>
    obtain ⟨n, rfl⟩ := exists_nesting enough
    cases b <;>
    · rw [layout]
      exact reads_bool n _
  | number k =>
    obtain ⟨n, rfl⟩ := exists_nesting enough
    rw [layout]
    exact reads_number n k
  | text s =>
    obtain ⟨n, rfl⟩ := exists_nesting enough
    rw [layout]
    exact reads_text n s
  | list items ih =>
    obtain ⟨n, rfl⟩ := exists_nesting enough
    have inside : ∀ y ∈ items, ReadBy (value n) y (layout (depth + 1) y) := by
      intro y mem
      have := length_lt_layout_list depth mem
      exact ih y mem (by omega)
    cases items with
    | nil =>
      rw [layout]
      exact ⟨⟨'[', _, rfl, rfl, by decide, by decide⟩, fun _ _ => rfl⟩
    | cons first others =>
      rw [layout_list_cons]
      refine ⟨⟨'[', _, rfl, rfl, by decide, by decide⟩, fun rest _ => ?_⟩
      have all := @parts_append JsonValue (value n) ']' (layout (depth + 1)) (depth + 1) depth
        (.inl rfl) first others
        inside rest
      simp only [List.cons_append, List.append_assoc, List.nil_append]
      show (parts ']' (value n) _).map _ = _
      rw [all]
      rfl
  | object fields ih =>
    obtain ⟨n, rfl⟩ := exists_nesting enough
    have inside : ∀ y ∈ fields, ReadBy (keyed (value n)) y (layoutField (depth + 1) y) := by
      intro y mem
      have := length_lt_layout_object depth mem
      exact reads_layoutField (ih y mem (by omega))
    cases fields with
    | nil =>
      rw [layout]
      exact ⟨⟨'\x7b', _, rfl, rfl, by decide, by decide⟩, fun _ _ => rfl⟩
    | cons first others =>
      rw [layout_object_cons]
      refine ⟨⟨'\x7b', _, rfl, rfl, by decide, by decide⟩, fun rest _ => ?_⟩
      have all := @parts_append (String × JsonValue) (keyed (value n)) '\x7d'
        (layoutField (depth + 1)) (depth + 1)
        depth (.inr rfl) first others inside rest
      simp only [List.cons_append, List.append_assoc, List.nil_append]
      show (parts '\x7d' (keyed (value n)) _).map _ = _
      rw [all]
      rfl

/-! ### Texts of values -/

/-- A value is read from its text, also when blanks come after it. -/
theorem read_append (x : JsonValue) {gap : String} (blank : dropGaps gap.toList = [])
    (stops : Stops gap.toList) :
    read (x.render ++ gap) = some x := by
  have chars : (x.render ++ gap).toList = layout 0 x ++ gap.toList := by simp [render]
  have enough : (layout 0 x).length ≤ (x.render ++ gap).length := by
    rw [← String.length_toList, chars, List.length_append]
    omega
  have reads := reads_layout x enough
  rw [read, chars, reads.dropGaps_append, reads.read _ stops]
  simp only [Option.bind_eq_bind, Option.bind_some, blank, if_true]
  rfl

/-- Other layouts and other escapes are read as well. -/
example : read "\x7b\"a\":[1 ,\"\\uD83D\\ude00\\/\"]\x7d" =
    some (object [("a", list [number 1, text "😀/"])]) := by
  cbv

end CommitLint.JsonValue
