import CommitLint.Proofs.CheckContract
import Mathlib

/-!
# Recorded messages

What comes back of a message that was recorded with a commit, and how the commit is found again.
Bytes are cut where characters are: the byte of a line feed or of a zero stands for nothing else.

* `text_of_message` — the text of a commit's message, told by the characters that were recorded;
* `findCommit_digits` — a commit is found by its identifier.
-/

namespace CommitLint

open Text

/-! ### Messages as bytes -/

/-- A character is one byte of its own number, or some bytes none of which is the number of a
character of one byte. -/
theorem utf8EncodeChar_cases (c : Char) :
    (c.toNat < 128 ∧ String.utf8EncodeChar c = [UInt8.ofNat c.toNat]) ∨
      (128 ≤ c.toNat ∧ String.utf8EncodeChar c ≠ [] ∧
        ∀ b ∈ String.utf8EncodeChar c, 128 ≤ b.toNat) := by
  have value : c.val.toNat = c.toNat := rfl
  rw [String.utf8EncodeChar, value]
  by_cases one : c.toNat ≤ 127
  · exact .inl ⟨Nat.lt_succ_of_le one, by simp only [if_pos one]⟩
  · -- Each byte of a longer character is a sum with at least 128.
    refine .inr ⟨by omega, ?_⟩
    simp only [if_neg one]
    split_ifs <;> simp <;> omega

/-- A character of one byte is told from all others by this byte. -/
theorem mem_utf8EncodeChar_iff {a : Char} (single : a.toNat < 128) (c : Char) :
    UInt8.ofNat a.toNat ∈ String.utf8EncodeChar c ↔ c = a := by
  have size : (UInt8.ofNat a.toNat).toNat = a.toNat := by simp; omega
  rcases utf8EncodeChar_cases c with ⟨small, eq⟩ | ⟨large, -, high⟩
  · rw [eq, List.mem_singleton, ← UInt8.toNat_inj, size, UInt8.toNat_ofNat',
      Nat.mod_eq_of_lt (by omega),
      eq_comm, Char.toNat_inj]
  · refine iff_of_false (fun mem => ?_) (by rintro rfl; omega)
    have := high _ mem
    omega

theorem utf8EncodeChar_of_single {a : Char} (single : a.toNat < 128) :
    String.utf8EncodeChar a = [UInt8.ofNat a.toNat] := by
  rcases utf8EncodeChar_cases a with ⟨-, eq⟩ | ⟨large, -⟩
  · exact eq
  · omega

/-- Bytes are dropped as the characters are. -/
theorem dropWhile_flatMap_utf8EncodeChar {a : Char} (single : a.toNat < 128) (cs : List Char) :
    (cs.flatMap String.utf8EncodeChar).dropWhile (· = UInt8.ofNat a.toNat) =
      (cs.dropWhile (· = a)).flatMap String.utf8EncodeChar := by
  induction cs with
  | nil => rfl
  | cons c cs ih =>
    by_cases eq : c = a
    · subst eq
      simp [utf8EncodeChar_of_single single, ih]
    · obtain ⟨b, bytes, encoded⟩ : ∃ b bytes, String.utf8EncodeChar c = b :: bytes := by
        rcases utf8EncodeChar_cases c with ⟨-, one⟩ | ⟨-, some, -⟩
        · exact ⟨_, _, one⟩
        · exact List.exists_cons_of_ne_nil some
      have other : b ≠ UInt8.ofNat a.toNat := by
        rintro rfl
        exact eq ((mem_utf8EncodeChar_iff single c).1 (encoded ▸ List.mem_cons_self))
      simp [encoded, eq, other]

/-- Bytes are taken as the characters are. -/
theorem takeWhile_flatMap_utf8EncodeChar {a : Char} (single : a.toNat < 128) (cs : List Char) :
    (cs.flatMap String.utf8EncodeChar).takeWhile (· ≠ UInt8.ofNat a.toNat) =
      (cs.takeWhile (· ≠ a)).flatMap String.utf8EncodeChar := by
  induction cs with
  | nil => rfl
  | cons c cs ih =>
    by_cases eq : c = a
    · subst eq
      simp [utf8EncodeChar_of_single single]
    · have others : ∀ b ∈ String.utf8EncodeChar c, decide (b ≠ UInt8.ofNat a.toNat) = true := by
        intro b mem
        rw [decide_eq_true_iff]
        rintro rfl
        exact eq ((mem_utf8EncodeChar_iff single c).1 mem)
      rw [List.flatMap_cons, List.takeWhile_append_of_pos others, ih,
        List.takeWhile_cons_of_pos (by simpa using eq),
        List.flatMap_cons]

theorem toList_toUTF8 (text : String) :
    text.toUTF8.data.toList = text.toList.flatMap String.utf8EncodeChar := by
  conv_lhs => rw [← String.ofList_toList (s := text)]
  rw [String.toUTF8_eq_toByteArray, String.toByteArray_ofList, List.utf8Encode,
    List.data_toByteArray,
    List.toList_toArray]

theorem messageBytes_toUTF8 (text : String) :
    messageBytes text.toUTF8.data.toList =
      (String.ofList ((text.toList.dropWhile (· = '\n')).takeWhile
        (· ≠ '\x00'))).toUTF8.data.toList := by
  rw [toList_toUTF8, toList_toUTF8, String.toList_ofList, messageBytes]
  have starts := dropWhile_flatMap_utf8EncodeChar (a := '\n') (by decide) text.toList
  have ends := takeWhile_flatMap_utf8EncodeChar (a := '\x00') (by decide)
    (text.toList.dropWhile (· = '\n'))
  rw [← ends, ← starts]
  rfl

/-- The text of a commit's message is what was recorded, without the line feeds at the start and
without what follows a zero byte. -/
theorem text_of_message {c : Commit} {text : String} (recorded : c.message = text.toUTF8) :
    c.text = String.ofList ((text.toList.dropWhile (· = '\n')).takeWhile (· ≠ '\x00')) := by
  rw [Commit.text, recorded, messageBytes_toUTF8, Array.toArray_toList]
  exact decodeLossy_of_fromUTF8? (fromUTF8?_toUTF8 _)

/-! ### Commits by identifier -/

theorem isIdDigit_cases {c : Char} (h : isIdDigit c = true) :
    (48 ≤ c.toNat ∧ c.toNat ≤ 57) ∨ (97 ≤ c.toNat ∧ c.toNat ≤ 102) := by
  rw [isIdDigit, Bool.or_eq_true, Bool.and_eq_true, decide_eq_true_iff, decide_eq_true_iff,
    Char.isDigit_iff_toNat] at h
  exact h

/-- The digits of an identifier are not changed by writing them small. -/
theorem toLower_of_isIdDigit {c : Char} (digit : isIdDigit c = true) : c.toLower = c := by
  have range := isIdDigit_cases digit
  have value : c.val.toNat = c.toNat := rfl
  have capitals : ¬ (c.val ≥ 'A'.val ∧ c.val ≤ 'Z'.val) := by
    rw [ge_iff_le, UInt32.le_iff_toNat_le, UInt32.le_iff_toNat_le, value]
    simp only [Char.reduceVal, UInt32.reduceToNat]
    omega
  rw [Char.toLower, dif_neg capitals]

/-- No digit of an identifier starts a step. -/
theorem startsStep_of_isIdDigit {c : Char} (digit : isIdDigit c = true) :
    Revision.startsStep c = false := by
  have range := isIdDigit_cases digit
  have other : c ≠ '^' ∧ c ≠ '~' := ⟨by rintro rfl; simp at range, by rintro rfl; simp at range⟩
  simp [Revision.startsStep, other]

namespace ObjectId

variable (id : ObjectId)

theorem isIdDigit_of_mem {c : Char} (mem : c ∈ id.digits.toList) : isIdDigit c = true :=
  List.all_eq_true.1 id.hex c mem

theorem digits_ne {other : String} (size : other.length ≠ idSize) : id.digits ≠ other :=
  fun eq => size (eq ▸ id.size)

theorem map_toLower_digits : id.digits.map Char.toLower = id.digits := by
  have same : ∀ c ∈ id.digits.toList, c.toLower = (fun d => d) c :=
    fun c mem => toLower_of_isIdDigit (id.isIdDigit_of_mem mem)
  rw [← String.toList_inj, String.toList_map, List.map_congr_left same, List.map_id']

/-- An identifier is the whole name in a revision, and no step is made from there. -/
theorem revision_digits :
    Revision.base id.digits = id.digits ∧ Revision.stepsOf id.digits = [] := by
  have name : ∀ c ∈ id.digits.toList, (!Revision.startsStep c) = true := by
    intro c mem
    rw [startsStep_of_isIdDigit (id.isIdDigit_of_mem mem)]
    rfl
  constructor
  · rw [Revision.base, if_neg (@digits_ne id "@" (by decide)), List.takeWhile_eq_self_iff.2 name,
      String.ofList_toList]
  · rw [Revision.stepsOf, List.dropWhile_eq_nil_iff.2 name, Revision.steps]

end ObjectId

/-- A commit is found by its identifier. -/
theorem History.findCommit_digits {h : History} {id : ObjectId} {c : Commit}
    (recorded : h.object? id = some (.commit c)) : h.findCommit id.digits = .ok (id, c) := by
  obtain ⟨base, steps⟩ := id.revision_digits
  have clean : id.digits.toList.contains '\x00' = false := by
    rw [← Bool.not_eq_true, List.contains_iff_mem]
    exact fun mem => absurd (id.isIdDigit_of_mem mem) (by decide)
  have byId : h.byId? id.digits = some (id, .commit c) := by
    rw [byId?, id.map_toLower_digits, ObjectId.ofDigits?_digits, Option.bind_some, entry?, recorded]
    rfl
  have found : h.find id.digits id.digits = .ok (id, .commit c) := by
    rw [find, if_neg (@ObjectId.digits_ne id "" (by decide)), byId]
    rfl
  have resolved : h.resolve id.digits = .ok (id, .commit c) := by
    rw [resolve, clean, steps, base, found]
    rfl
  rw [findCommit, resolveCommit, resolved]
  rfl

end CommitLint
