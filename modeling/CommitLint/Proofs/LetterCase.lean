import CommitLint.Text.LowerCase
import Mathlib

/-!
# Words in any mix of cases

A word of the letters a to z is a text in lower case exactly when the text spells the word in some
mix of the cases of A to Z. No other character has such a letter for its lower case, the sign of the
kelvin apart, which has the letter k, and the dotted capital I, which has a mark besides.

* `lowerOf_ascii`, `exists_mem_lowerOf` — the lower cases of the first 128 characters and of all
  others;
* `lowerCase_eq_iff` — the texts whose lower case is a word.
-/

namespace CommitLint.Text

/-- Whether a character is one of the first 128, among which are the letters A to Z. -/
def IsAscii (c : Char) : Prop := c.toNat < 128

instance decidableIsAscii (c : Char) : Decidable (IsAscii c) :=
  inferInstanceAs (Decidable (c.toNat < 128))

/-- Whether two texts are the same but for the cases of A to Z. -/
def SameButCase (s t : String) : Prop := s.toList.map Char.toLower = t.toList.map Char.toLower

/-- Whether a word is its own lower case by the cases of A to Z, has no other letters, and no k. -/
def isLowerWord (s : String) : Bool :=
  s.toList.all fun c => decide (IsAscii c) && decide (c.toLower = c) && decide (c ≠ 'k')

theorem of_isLowerWord {s : String} (h : isLowerWord s = true) :
    (∀ c ∈ s.toList, IsAscii c ∧ c ≠ 'k') ∧ s.toList.map Char.toLower = s.toList := by
  simp only [isLowerWord, List.all_eq_true, Bool.and_eq_true, decide_eq_true_eq] at h
  refine ⟨fun c mem => ⟨(h c mem).1.1, (h c mem).2⟩, ?_⟩
  have same : s.toList.map Char.toLower = s.toList.map id :=
    List.map_congr_left fun c mem => (h c mem).1.2
  rw [same, List.map_id]

/-! ### Characters -/

/-- What holds of the first 128 code points holds of every such character. -/
theorem forall_isAscii {P : Char → Prop} (h : ∀ n < 128, P (Char.ofNat n)) {c : Char}
    (ascii : IsAscii c) : P c := by
  have checked := h c.toNat ascii
  rwa [Char.ofNat_toNat] at checked

theorem lowerOf_ascii {c : Char} (ascii : IsAscii c) : lowerOf c = [c.toLower] := by
  have table : ∀ n < 128, lowerOf (Char.ofNat n) = [(Char.ofNat n).toLower] := by decide +kernel
  exact forall_isAscii (P := fun c => lowerOf c = [c.toLower]) table ascii

theorem toLower_of_not_isAscii {c : Char} (h : ¬ IsAscii c) : c.toLower = c := by
  apply Char.toLower_eq_of_not_isUpper
  rw [Bool.not_eq_true, ← Bool.not_eq_true]
  intro upper
  have last : c.val ≤ 'Z'.val := (of_decide_eq_true upper).2
  have small : c.toNat ≤ 90 := last
  exact h (by unfold IsAscii; omega)

/-- The runs of the table end among the first 128 characters, lead to the letter k, or lead to
characters beyond these. -/
theorem lower_of_mem_lowerRuns {run : LowerRun} (h : run ∈ lowerRuns) :
    run.last < 128 ∨ (run.first = run.last ∧ run.lower = 'k'.toNat) ∨
      (128 ≤ run.lower ∧ (run.lower + (run.last - run.first) < 0xD800 ∨
        (0xDFFF < run.lower ∧ run.lower + (run.last - run.first) < 0x110000))) := by
  have table : ∀ run ∈ lowerRuns, run.last < 128 ∨ (run.first = run.last ∧ run.lower = 'k'.toNat) ∨
      (128 ≤ run.lower ∧ (run.lower + (run.last - run.first) < 0xD800 ∨
        (0xDFFF < run.lower ∧ run.lower + (run.last - run.first) < 0x110000))) := by decide +kernel
  exact table run h

/-- The lower case of a character beyond the first 128 has one beyond them, or is the letter k. -/
theorem exists_mem_lowerOf {c : Char} (h : ¬ IsAscii c) :
    ∃ d ∈ lowerOf c, ¬ IsAscii d ∨ d = 'k' := by
  have large : 128 ≤ c.toNat := Nat.not_lt.1 h
  unfold lowerOf
  split
  · exact ⟨'\u0307', by simp, Or.inl (by decide)⟩
  · split
    · next run found =>
      have covered : run.covers c.toNat = true := by simpa using List.find?_some found
      simp only [LowerRun.covers, Bool.and_eq_true, decide_eq_true_eq] at covered
      obtain ⟨⟨first, last⟩, -⟩ := covered
      refine ⟨_, List.mem_singleton_self _, ?_⟩
      rcases lower_of_mem_lowerRuns (List.mem_of_find?_eq_some found)
        with small | ⟨single, k⟩ | ⟨beyond, valid⟩
      · omega
      · right
        rw [k, show c.toNat - run.first = 0 by omega]
        rfl
      · left
        have code : (run.lower + (c.toNat - run.first)).isValidChar := by
          unfold Nat.isValidChar
          omega
        rw [IsAscii, Char.toNat_ofNat, if_pos code]
        omega
    · exact ⟨c, List.mem_singleton_self c, Or.inl h⟩

theorem not_isAscii_lowerSigma (before after : List Char) :
    ¬ IsAscii (lowerSigma before after) := by
  unfold lowerSigma
  split <;> decide

/-! ### Texts -/

/-- The lower case of characters spells a word of the first 128, k not among them, exactly when the
characters themselves do in any mix of cases. -/
theorem lowerChars_eq_iff {word : List Char} (ascii : ∀ c ∈ word, IsAscii c ∧ c ≠ 'k')
    (before cs : List Char) :
    lowerChars before cs = word ↔ cs.map Char.toLower = word := by
  induction cs generalizing before word with
  | nil => rfl
  | cons c cs ih =>
    rw [lowerChars, List.map_cons]
    by_cases hc : IsAscii c
    · have noSigma : c ≠ 'Σ' := by
        rintro rfl
        exact absurd hc (by decide)
      rw [if_neg noSigma, lowerOf_ascii hc, List.singleton_append]
      cases word with
      | nil => simp
      | cons d word =>
        rw [List.cons.injEq, List.cons.injEq, ih fun e mem => ascii e (List.mem_cons_of_mem _ mem)]
    · -- The character has no place in the word, and what its lower case holds has none either.
      have foreign : ∃ d ∈ (if c = 'Σ' then [lowerSigma before cs] else lowerOf c),
          ¬ IsAscii d ∨ d = 'k' := by
        split
        · exact ⟨_, List.mem_singleton_self _, Or.inl (not_isAscii_lowerSigma before cs)⟩
        · exact exists_mem_lowerOf hc
      obtain ⟨d, mem, out⟩ := foreign
      constructor
      · rintro rfl
        obtain ⟨inside, other⟩ := ascii d (List.mem_append_left _ mem)
        exact absurd (out.resolve_right other) (not_not.2 inside)
      · rintro rfl
        have inside := (ascii c.toLower List.mem_cons_self).1
        rw [toLower_of_not_isAscii hc] at inside
        exact absurd inside hc

/-- **The texts whose lower case is a word** without the letter k are those that spell it in any mix
of the cases of A to Z. -/
theorem lowerCase_eq_iff {word : String} (h : isLowerWord word = true) (s : String) :
    lowerCase s = word ↔ SameButCase s word := by
  obtain ⟨ascii, same⟩ := of_isLowerWord h
  rw [lowerCase, SameButCase, same, ← lowerChars_eq_iff ascii [] s.toList]
  constructor
  · rintro rfl
    rw [String.toList_ofList]
  · intro spelled
    rw [spelled, String.ofList_toList]

end CommitLint.Text
