import CommitLint.Proofs.PlainValues
import CommitLint.Text.Quoted
import Mathlib

/-!
# Reading quoted texts

A reader of quoted texts that knows only what an escape stands for, and not which characters are
escaped. What is quoted is read back, so that no two texts and no two lists of texts are quoted
alike. Between the quotes there is no control character, whatever the text holds.

* `quotedStep_quotedChar` — one character is read from what stands for it between the quotes;
* `quotedBody_flatMap`, `quotedItems_quotedList` — so is a text, and a list of texts;
* `le_of_mem_quotedChar` — no control stands between the quotes.
-/

namespace CommitLint.Text

open Toml (hexDigit? ofDigits)

/-! ### The reader -/

/-- A character by its code point, in hexadecimal digits up to a closing brace. -/
def braced : Reader Char := fun cs =>
  match cs.dropWhile (· ≠ '\x7d') with
  | [] => none
  | _ :: rest =>
    ((cs.takeWhile (· ≠ '\x7d')).mapM hexDigit?).map fun digits =>
      (Char.ofNat (ofDigits 16 digits), rest)

/-- A character by its escape, after the backslash. -/
def afterBackslash : Reader Char
  | '0' :: rest => some ('\x00', rest)
  | 't' :: rest => some ('\t', rest)
  | 'r' :: rest => some ('\r', rest)
  | 'n' :: rest => some ('\n', rest)
  | '\\' :: rest => some ('\\', rest)
  | '"' :: rest => some ('"', rest)
  | 'u' :: '\x7b' :: rest => braced rest
  | _ => none

/-- One character of a text, or its closing quote. -/
def quotedStep (found : List Char) : Reader (Step (List Char) String)
  | '"' :: rest => some (.done (String.ofList found.reverse), rest)
  | '\\' :: rest => (afterBackslash rest).map fun (c, left) => (.more (c :: found), left)
  | c :: rest => some (.more (c :: found), rest)
  | [] => none

def quotedBody : Reader String := Reading.repeated quotedStep []

/-- One text of a list with the comma and the blank after it, or with the closing bracket. -/
def itemStep (found : List String) : Reader (Step (List String) (List String))
  | '"' :: rest =>
    match quotedBody rest with
    | some (s, ',' :: ' ' :: left) => some (.more (s :: found), left)
    | some (s, ']' :: left) => some (.done (s :: found).reverse, left)
    | _ => none
  | _ => none

/-- The texts of a list, after its opening bracket. -/
def quotedItems : Reader (List String)
  | ']' :: rest => some ([], rest)
  | cs => Reading.repeated itemStep [] cs

/-! ### Code points -/

theorem hexDigit?_digitChar : ∀ n < 16, hexDigit? n.digitChar = some n := by decide

/-- No digit is the brace that ends them. -/
theorem digitChar_ne_brace : ∀ n < 16, n.digitChar ≠ '\x7d' := by decide

/-- A number is read back from its digits in base sixteen, the last of them after all others. -/
theorem exists_mapM_hexDigits (n : Nat) :
    ∃ digits, (hexDigits n).mapM hexDigit? = some digits ∧ ofDigits 16 digits = n := by
  induction n using Nat.strongRecOn with
  | ind n ih =>
    rcases Nat.lt_or_ge n 16 with small | large
    · refine ⟨[n], ?_, by simp [ofDigits]⟩
      rw [hexDigits, Nat.toDigits_of_lt_base small, List.mapM_cons, hexDigit?_digitChar n small]
      rfl
    · obtain ⟨digits, read, value⟩ := ih (n / 16) (by omega)
      have last := hexDigit?_digitChar (n % 16) (by omega)
      refine ⟨digits ++ [n % 16], ?_, ?_⟩
      · rw [hexDigits, Nat.toDigits_of_base_le (by decide) large, List.mapM_append,
          ← hexDigits, read,
          List.mapM_cons, last]
        rfl
      · rw [ofDigits, List.foldl_append, ← ofDigits, value]
        show n / 16 * 16 + n % 16 = n
        omega

theorem brace_not_mem_hexDigits (n : Nat) : '\x7d' ∉ hexDigits n := by
  induction n using Nat.strongRecOn with
  | ind n ih =>
    rcases Nat.lt_or_ge n 16 with small | large
    · rw [hexDigits, Nat.toDigits_of_lt_base small, List.mem_singleton]
      exact (digitChar_ne_brace n small).symm
    · rw [hexDigits, Nat.toDigits_of_base_le (by decide) large, List.mem_append, List.mem_singleton]
      rintro (front | last)
      · exact ih (n / 16) (by omega) front
      · exact digitChar_ne_brace (n % 16) (by omega) last.symm

theorem braced_hexDigits (c : Char) (rest : List Char) :
    braced (hexDigits c.toNat ++ '\x7d' :: rest) = some (c, rest) := by
  obtain ⟨digits, read, value⟩ := exists_mapM_hexDigits c.toNat
  have inside : ∀ d ∈ hexDigits c.toNat, decide (d ≠ '\x7d') = true := fun d mem =>
    decide_eq_true fun eq => brace_not_mem_hexDigits c.toNat (eq ▸ mem)
  have stop : ∀ d ∈ ('\x7d' :: rest).head?, decide (d ≠ '\x7d') = false := by simp
  obtain ⟨taken, left⟩ := Reading.span_append inside stop
  rw [braced, taken, left, read]
  show some (Char.ofNat (ofDigits 16 digits), rest) = _
  rw [value, Char.ofNat_toNat]

/-! ### Texts -/

/-- A step reads one character from what stands for it between the quotes. -/
theorem quotedStep_quotedChar (found : List Char) (c : Char) (rest : List Char) :
    quotedStep found (quotedChar c ++ rest) = some (.more (c :: found), rest) := by
  unfold quotedChar
  split_ifs with null tab ret feed backslash quote plain
  · rw [null]
    rfl
  · rw [tab]
    rfl
  · rw [ret]
    rfl
  · rw [feed]
    rfl
  · rw [backslash]
    rfl
  · rw [quote]
    rfl
  · show quotedStep found (c :: rest) = _
    unfold quotedStep
    split
    · next eq => exact absurd (List.cons.inj eq).1 quote
    · next eq => exact absurd (List.cons.inj eq).1 backslash
    · next eq =>
      obtain ⟨rfl, rfl⟩ := List.cons.inj eq
      rfl
    · next eq => cases eq
  · have digits := braced_hexDigits c rest
    show (braced (hexDigits c.toNat ++ ['\x7d'] ++ rest)).map _ = _
    rw [List.append_assoc, List.singleton_append, digits]
    rfl

theorem quotedChar_ne_nil (c : Char) : quotedChar c ≠ [] := by
  unfold quotedChar
  split_ifs <;> simp

/-- A text is read from what stands between its quotes. -/
theorem quotedBody_flatMap (s : String) (rest : List Char) :
    quotedBody (s.toList.flatMap quotedChar ++ '"' :: rest) = some (s, rest) := by
  have done : quotedStep s.toList.reverse ('"' :: rest) = some (.done s, rest) := by
    show some (Step.done (String.ofList s.toList.reverse.reverse), rest) = _
    rw [List.reverse_reverse, String.ofList_toList]
  rw [quotedBody, Reading.repeated_flatMap (fun found c _ => quotedStep_quotedChar found c)
    (fun c _ => quotedChar_ne_nil c), List.append_nil, Reading.repeated_of_done done]

theorem quotedChars_append (cs rest : List Char) :
    quotedChars cs ++ rest = '"' :: (cs.flatMap quotedChar ++ '"' :: rest) := by
  simp [quotedChars]

/-! ### Lists -/

/-- A text of a list with the comma and the blank that come before the next one. -/
def withComma (s : String) : List Char := quotedChars s.toList ++ [',', ' ']

theorem itemStep_withComma (found : List String) (s : String) (rest : List Char) :
    itemStep found (withComma s ++ rest) = some (.more (s :: found), rest) := by
  rw [withComma, List.append_assoc, quotedChars_append, itemStep, quotedBody_flatMap]
  rfl

theorem itemStep_last (found : List String) (s : String) (rest : List Char) :
    itemStep found (quotedChars s.toList ++ ']' :: rest) =
      some (.done (s :: found).reverse, rest) := by
  rw [quotedChars_append, itemStep, quotedBody_flatMap]
  rfl

/-- A list is written with a comma and a blank after every text but the last. -/
theorem toList_quotedList_concat (front : List String) (last : String) :
    (quotedList (front ++ [last])).toList =
      '[' :: (front.flatMap withComma ++ (quotedChars last.toList ++ [']'])) := by
  have inner : [',', ' '].intercalate (((front ++ [last]).map quoted).map String.toList)
      = front.flatMap withComma ++ quotedChars last.toList := by
    induction front with
    | nil => simp [toList_quoted]
    | cons s front ih =>
      have more : front ++ [last] ≠ [] :=
        List.append_ne_nil_of_right_ne_nil front (List.cons_ne_nil last [])
      obtain ⟨next, others, eq⟩ := List.exists_cons_of_ne_nil more
      rw [List.cons_append, List.flatMap_cons, List.append_assoc, ← ih, eq]
      simp only [List.map_cons, List.intercalate_cons_cons, toList_quoted, withComma,
        List.append_assoc]
  rw [quotedList, String.toList_append, String.toList_append, String.toList_intercalate,
    show ", ".toList = [',', ' '] from String.toList_ofList, inner,
    show "[".toList = ['['] from String.toList_ofList, show "]".toList = [']']
        from String.toList_ofList]
  simp

/-- A list is read from what stands between its brackets. -/
theorem exists_quotedItems (items : List String) (rest : List Char) :
    ∃ inner, (quotedList items).toList ++ rest = '[' :: inner ∧
    quotedItems inner = some (items, rest) := by
  rcases List.eq_nil_or_concat items with rfl | ⟨front, last, rfl⟩
  · exact ⟨']' :: rest, by simp [quotedList], rfl⟩
  · have done := itemStep_last front.reverse last rest
    rw [List.reverse_cons, List.reverse_reverse] at done
    refine ⟨front.flatMap withComma ++ (quotedChars last.toList ++ ']' :: rest), ?_, ?_⟩
    · rw [List.concat_eq_append, toList_quotedList_concat]
      simp
    · have quote : ∃ cs, front.flatMap withComma ++ (quotedChars last.toList ++ ']' :: rest) =
          '"' :: cs := by
        cases front with
        | nil => exact ⟨_, rfl⟩
        | cons s front => exact ⟨_, rfl⟩
      have read : Reading.repeated itemStep []
          (front.flatMap withComma ++ (quotedChars last.toList ++ ']' :: rest))
          = some (front ++ [last], rest) := by
        rw [Reading.repeated_flatMap (fun found s _ => itemStep_withComma found s)
          (fun s _ => by simp [withComma]),
          List.append_nil, Reading.repeated_of_done done]
      obtain ⟨cs, eq⟩ := quote
      rw [eq] at read ⊢
      rw [List.concat_eq_append]
      exact read

/-! ### No controls -/

theorem le_digitChar : ∀ n < 16, ' ' ≤ n.digitChar := by decide

theorem le_of_mem_hexDigits {n : Nat} {d : Char} (mem : d ∈ hexDigits n) : ' ' ≤ d := by
  induction n using Nat.strongRecOn with
  | ind n ih =>
    rcases Nat.lt_or_ge n 16 with small | large
    · rw [hexDigits, Nat.toDigits_of_lt_base small, List.mem_singleton] at mem
      exact mem ▸ le_digitChar n small
    · rw [hexDigits, Nat.toDigits_of_base_le (by decide) large, List.mem_append, List.mem_singleton]
        at mem
      rcases mem with front | last
      · exact ih (n / 16) (by omega) front
      · exact last ▸ le_digitChar (n % 16) (by omega)

/-- The controls are the first of the characters that have no visible form. -/
theorem le_of_isShownPlain {c : Char} (plain : isShownPlain c = true) : ' ' ≤ c := by
  rw [isShownPlain, Bool.and_eq_true, Bool.not_eq_true', Bool.not_eq_true'] at plain
  rcases Nat.lt_or_ge c.toNat 32 with control | visible
  · have hidden : unprintableRanges.covers c = true := by
      rw [CharRanges.covers_iff]
      exact ⟨(0x0000, 0x001F), List.mem_cons_self, Nat.zero_le _, Nat.le_of_lt_succ control⟩
    rw [plain.2] at hidden
    cases hidden
  · exact visible

theorem le_of_mem_quotedChar {c d : Char} (mem : d ∈ quotedChar c) : ' ' ≤ d := by
  have escape : ∀ mark : Char, ' ' ≤ mark → d ∈ ['\\', mark] → ' ' ≤ d := by
    intro mark visible mem
    rcases List.mem_cons.1 mem with rfl | mem
    · decide
    · exact List.mem_singleton.1 mem ▸ visible
  unfold quotedChar at mem
  split_ifs at mem with null tab ret feed backslash quote plain
  · exact escape '0' (by decide) mem
  · exact escape 't' (by decide) mem
  · exact escape 'r' (by decide) mem
  · exact escape 'n' (by decide) mem
  · exact escape '\\' (by decide) mem
  · exact escape '"' (by decide) mem
  · exact List.mem_singleton.1 mem ▸ le_of_isShownPlain plain
  · have marks : ∀ mark ∈ ['\\', 'u', '\x7b', '\x7d'], ' ' ≤ mark := by simp
    simp only [List.cons_append, List.mem_cons, List.mem_append, List.not_mem_nil, or_false] at mem
    rcases mem with first | letter | opening | digit | closing
    · exact marks d (by simp [first])
    · exact marks d (by simp [letter])
    · exact marks d (by simp [opening])
    · exact le_of_mem_hexDigits digit
    · exact marks d (by simp [closing])

theorem le_of_mem_quotedChars {cs : List Char} {d : Char} (mem : d ∈ quotedChars cs) : ' ' ≤ d := by
  rw [quotedChars, List.mem_append, List.mem_cons, List.mem_flatMap, List.mem_singleton] at mem
  rcases mem with (rfl | ⟨c, -, inside⟩) | rfl
  · decide
  · exact le_of_mem_quotedChar inside
  · decide

/-- In a list there is none either. -/
theorem le_of_mem_quotedList {items : List String} {d : Char}
    (mem : d ∈ (quotedList items).toList) : ' ' ≤ d := by
  have marks : ∀ mark ∈ ['[', ']', ',', ' '], ' ' ≤ mark := by simp
  rcases List.eq_nil_or_concat items with rfl | ⟨front, last, rfl⟩
  · have empty : (quotedList []).toList = ['[', ']'] := by simp [quotedList]
    rw [empty, List.mem_cons, List.mem_singleton] at mem
    rcases mem with rfl | rfl
    · decide
    · decide
  · rw [List.concat_eq_append, toList_quotedList_concat] at mem
    simp only [List.mem_cons, List.mem_append, List.mem_flatMap, List.not_mem_nil, or_false,
      withComma] at mem
    rcases mem with first | ⟨s, -, inside | comma | blank⟩ | inside | closing
    · exact marks d (by simp [first])
    · exact le_of_mem_quotedChars inside
    · exact marks d (by simp [comma])
    · exact marks d (by simp [blank])
    · exact le_of_mem_quotedChars inside
    · exact marks d (by simp [closing])

end CommitLint.Text
