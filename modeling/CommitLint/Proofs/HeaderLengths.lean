import CommitLint.Proofs.EffectiveRules
import Mathlib

/-!
# Told lengths of headers

One check holds the length of a header against two bounds, and two rules share it: each of them has
one bound, and fills in the other by a length that bounds nothing. What the check finds is told in
words. Here the words are tied to the bound that they state (`LengthBound`), and the bound to the
lengths that it admits.

* `numerals_words` — the numbers that are written in the words;
* `told_always`, `told_never` — the bound that is told, for each way to ask;
* `told_upper`, `told_lower` — a rule with one bound tells this bound;
* `length_told` — what is told is true, and the bound that was filled in is never shown.
-/

namespace CommitLint

/-! ### Numbers in a text -/

namespace Text

/-- The numbers that are written in characters in decimal digits, in order. -/
def numeralsOf (cs : List Char) : List Nat :=
  ((cs.splitOnP fun c => !c.isDigit).filter (· ≠ [])).map fun digits => Nat.ofDigitChars 10 digits 0

def numerals (s : String) : List Nat := numeralsOf s.toList

/-- Words in front of a text add no number to it. -/
theorem numeralsOf_words {words : List Char} (plain : ∀ c ∈ words, c.isDigit = false)
    (rest : List Char) :
    numeralsOf (words ++ rest) = numeralsOf rest := by
  induction words with
  | nil => rfl
  | cons c words ih =>
    have first : (!c.isDigit) = true := by rw [plain c List.mem_cons_self]; rfl
    have others := ih fun d mem => plain d (List.mem_cons_of_mem _ mem)
    rw [numeralsOf] at others ⊢
    rw [List.cons_append, List.splitOnP_cons_eq_if_modifyHead, if_pos first]
    exact others

/-- A number in front of a text that does not go on with a digit is the first number of the
whole. -/
theorem numeralsOf_repr (n : Nat) {rest : List Char} (ends : ∀ c ∈ rest.head?, c.isDigit = false) :
    numeralsOf ((Nat.repr n).toList ++ rest) = n :: numeralsOf rest := by
  have digits : ∀ c ∈ Nat.toDigits 10 n, (!c.isDigit) = false := by
    intro c mem
    rw [Nat.isDigit_of_mem_toDigits (by decide) (by decide) mem]
    rfl
  rw [Nat.toList_repr]
  cases rest with
  | nil =>
    rw [List.append_nil, numeralsOf, List.splitOnP_eq_singleton digits]
    simp [numeralsOf, Nat.toDigits_ne_nil, Nat.ofDigitChars_ten_toDigits]
  | cons c rest =>
    have stop : (!c.isDigit) = true := by rw [ends c rfl]; rfl
    rw [numeralsOf, List.splitOnP_append_cons_of_forall_mem digits c stop, numeralsOf,
      List.splitOnP_cons_eq_if_modifyHead, if_pos stop]
    simp [Nat.toDigits_ne_nil, Nat.ofDigitChars_ten_toDigits]

def counted (words : String) (n : Nat) (rest : String) : String := words ++ Nat.repr n ++ rest

theorem counted_counted (first : String) (m : Nat) (second : String) (n : Nat) (rest : String) :
    first ++ Nat.repr m ++ second ++ Nat.repr n ++ rest =
      counted first m (counted second n rest) := by
  simp only [counted, String.append_assoc]

theorem numerals_counted {words rest : String} (plain : ∀ c ∈ words.toList, c.isDigit = false)
    (n : Nat)
    (ends : ∀ c ∈ rest.toList.head?, c.isDigit = false) :
    numerals (counted words n rest) = n :: numerals rest := by
  rw [numerals, counted, String.toList_append, String.toList_append, List.append_assoc,
    numeralsOf_words plain,
    numeralsOf_repr n ends, numerals]

theorem numerals_plain {words : String} (plain : ∀ c ∈ words.toList, c.isDigit = false) :
    numerals words = [] := by
  rw [numerals, ← List.append_nil words.toList, numeralsOf_words plain]
  simp [numeralsOf]

end Text

/-! ### Bounds and their words -/

/-- What may be asked of the length of a header. -/
inductive LengthBound
  | atLeast (min : Nat)
  | atMost (max : Nat)
  | shorterThan (min : Nat)
  | longerThan (max : Nat)
  | notBetween (min max : Nat)
  deriving DecidableEq, Repr

namespace LengthBound

open Text

/-- Whether a length is as asked. -/
def Admits : LengthBound → Nat → Prop
  | atLeast min, length => min ≤ length
  | atMost max, length => length ≤ max
  | shorterThan min, length => length < min
  | longerThan max, length => max < length
  | notBetween min max, length => ¬ (min ≤ length ∧ length ≤ max)

/-- What is asked, in the words that are told about a header of some length. -/
def words (length : Nat) : LengthBound → String
  | atLeast min => counted "Header is too short: " length (counted " characters (min: " min ")")
  | atMost max => counted "Header is too long: " length (counted " characters (max: " max ")")
  | shorterThan min =>
    counted "Header must be shorter than " min (counted " characters: " length " characters")
  | longerThan max =>
    counted "Header must be longer than " max (counted " characters: " length " characters")
  | notBetween min max =>
    counted "Header length must not be between " min
      (counted " and " max (counted ": " length " characters"))

def advice : LengthBound → Option String
  | atLeast _ => some "Add more detail to the header"
  | atMost max => some (counted "Shorten the header to " max " characters or less")
  | _ => none

/-- The numbers that the words about a header of some length should show. -/
def shown (length : Nat) : LengthBound → List Nat
  | atLeast min => [length, min]
  | atMost max => [length, max]
  | shorterThan min => [min, length]
  | longerThan max => [max, length]
  | notBetween min max => [min, max, length]

/-- The numbers that are written in the words. -/
theorem numerals_words (bound : LengthBound) (length : Nat) :
    numerals (bound.words length) = bound.shown length := by
  cases bound <;> rw [words, shown]
  case notBetween => rw [numerals_counted, numerals_counted, numerals_counted, numerals_plain] <;>
    simp [counted]
  all_goals rw [numerals_counted, numerals_counted, numerals_plain] <;> simp [counted]

/-- The advice shows no number but one that the words show. -/
theorem numerals_advice {bound : LengthBound} {text : String} (given : bound.advice = some text)
    (length : Nat) :
    numerals text ⊆ bound.shown length := by
  cases bound
  case atLeast =>
    obtain rfl := Option.some.inj given
    rw [numerals_plain] <;> simp
  case atMost =>
    obtain rfl := Option.some.inj given
    rw [numerals_counted, numerals_plain] <;> simp [shown]
  all_goals cases given

/-- What is told about a header of some length: a bound in its words, with the advice that goes with
them. What is told is true, and no number is shown but the length and those of the bound. -/
structure Told (bound : LengthBound) (length : Nat) (message : String)
    (suggestion : Option String) : Prop where
  worded : message = bound.words length
  advised : suggestion = bound.advice
  /-- The header is not as asked. -/
  broken : ¬ bound.Admits length
  numbers : numerals message = bound.shown length
  /-- The advice shows no other number. -/
  others : ∀ text ∈ suggestion, numerals text ⊆ bound.shown length

variable {length : Nat} {f : Finding}

theorem Told.of_finding {bound : LengthBound} (worded : f.message = bound.words length)
    (advised : f.suggestion = bound.advice) (broken : ¬ bound.Admits length) :
    bound.Told length f.message f.suggestion where
  worded := worded
  advised := advised
  broken := broken
  numbers := by rw [worded, numerals_words]
  others := by
    intro text mem
    rw [advised] at mem
    exact numerals_advice mem length

/-! ### What the findings tell -/

theorem told_headerTooShort {min : Nat} (short : length < min)
    (found : f = .headerTooShort length min) :
    (atLeast min).Told length f.message f.suggestion := by
  subst found
  exact .of_finding (counted_counted _ _ _ _ _) rfl (Nat.not_le.2 short)

theorem told_headerTooLong {max : Nat} (long : max < length)
    (found : f = .headerTooLong length max) :
    (atMost max).Told length f.message f.suggestion := by
  subst found
  exact .of_finding (counted_counted _ _ _ _ _) rfl (Nat.not_le.2 long)

theorem told_headerNotShorter {min : Nat} (enough : min ≤ length)
    (found : f = .headerNotShorter length min) :
    (shorterThan min).Told length f.message f.suggestion := by
  subst found
  exact .of_finding (counted_counted _ _ _ _ _) rfl (Nat.not_lt.2 enough)

theorem told_headerNotLonger {max : Nat} (few : length ≤ max)
    (found : f = .headerNotLonger length max) :
    (longerThan max).Told length f.message f.suggestion := by
  subst found
  exact .of_finding (counted_counted _ _ _ _ _) rfl (Nat.not_lt.2 few)

theorem told_headerBetween {min max : Nat} (within : min ≤ length ∧ length ≤ max)
    (found : f = .headerBetween length min max) :
    (notBetween min max).Told length f.message f.suggestion := by
  subst found
  refine .of_finding ?_ rfl (not_not_intro within)
  rw [words, ← counted_counted]
  show _ ++ _ ++ _ ++ _ ++ _ ++ _ ++ _ = _
  simp only [counted, String.append_assoc]

end LengthBound

/-! ### One check with two bounds -/

open LengthBound

section

variable {header : String} {min max : Nat} {f : Finding}

/-- What is told about a header that must be within the bounds. -/
theorem told_always (found : Finding.ofHeaderLength header min max .always = some f) :
    ∃ bound : LengthBound, bound.Told header.length f.message f.suggestion ∧
      (bound = .atLeast min ↔ header.length < min) ∧ (bound = .atMost max ↔ min ≤ header.length) ∧
      (bound = .atMost max → max < header.length) := by
  rcases Finding.ofHeaderLength_always found with ⟨short, same⟩ | ⟨enough, long, -, same⟩
  · refine ⟨_, told_headerTooShort short same, iff_of_true rfl short, iff_of_false nofun ?_, nofun⟩
    exact Nat.not_le.2 short
  · refine ⟨_, told_headerTooLong long same, iff_of_false nofun ?_,
      iff_of_true rfl enough, fun _ => long⟩
    exact Nat.not_lt.2 enough

/-- What is told about a header that must not be within the bounds: of all lengths there are, those
that the told bound admits are those outside. -/
theorem told_never (found : Finding.ofHeaderLength header min max .never = some f) :
    ∃ bound : LengthBound, bound.Told header.length f.message f.suggestion ∧
      bound ∈ [.shorterThan min, .longerThan max, .notBetween min max] ∧
      ∀ length ≤ Finding.maxLength, bound.Admits length ↔ ¬ (min ≤ length ∧ length ≤ max) := by
  obtain ⟨enough, ⟨unbounded, same⟩ | ⟨-, few, zero, same⟩ | ⟨-, few, -, same⟩⟩ :=
    Finding.ofHeaderLength_never found
  · refine ⟨_, told_headerNotShorter enough same, by simp, fun length least => ?_⟩
    show length < min ↔ _
    omega
  · refine ⟨_, told_headerNotLonger few same, by simp, fun length least => ?_⟩
    show max < length ↔ _
    omega
  · exact ⟨_, told_headerBetween ⟨enough, few⟩ same, by simp, fun length least => Iff.rfl⟩

end

/-! ### Two rules with one bound each -/

/-- The bound that a rule on the greatest length asks for. -/
def LengthBound.upper (n : Nat) : Applicability → LengthBound
  | .always => .atMost n
  | .never => .longerThan n

/-- The bound that a rule on the least length asks for. -/
def LengthBound.lower (n : Nat) : Applicability → LengthBound
  | .always => .atLeast n
  | .never => .shorterThan n

section

variable {severity : Severity} {asked : Applicability} {n : Nat} {m : Message} {v : Violation}

/-- A violation tells what was found. -/
theorem exists_finding_of_checkRule {rule : RuleName} {setting : Setting}
    (found : checkRule rule setting m = some v) :
    ∃ f, findingOf rule setting m = some f ∧ v.message = f.message ∧
    v.suggestion = f.suggestion := by
  rw [checkRule] at found
  split at found
  · obtain ⟨f, finding, rfl⟩ := Option.map_eq_some_iff.1 found
    exact ⟨f, finding, rfl, rfl⟩
  · cases found

theorem told_upper (bounded : n ≠ Finding.maxLength)
    (found : checkRule .headerMaxLength ⟨severity, asked, .length n⟩ m = some v) :
    (LengthBound.upper n asked).Told m.header.length v.message v.suggestion := by
  obtain ⟨f, finding, message, suggestion⟩ := exists_finding_of_checkRule found
  have finding : Finding.ofHeaderLength m.header 0 n asked = some f := finding
  rw [message, suggestion]
  cases asked with
  | always =>
    rcases Finding.ofHeaderLength_always finding with ⟨short, -⟩ | ⟨-, long, -, same⟩
    · exact absurd short (Nat.not_lt_zero _)
    · exact told_headerTooLong long same
  | never =>
    obtain ⟨-, ⟨unbounded, -⟩ | ⟨-, few, -, same⟩ | ⟨-, -, notZero, -⟩⟩ :=
      Finding.ofHeaderLength_never finding
    · exact absurd unbounded bounded
    · exact told_headerNotLonger few same
    · exact absurd rfl notZero

theorem told_lower (found : checkRule .headerMinLength ⟨severity, asked, .length n⟩ m = some v) :
    (LengthBound.lower n asked).Told m.header.length v.message v.suggestion := by
  obtain ⟨f, finding, message, suggestion⟩ := exists_finding_of_checkRule found
  have finding : Finding.ofHeaderLength m.header n Finding.maxLength asked = some f := finding
  rw [message, suggestion]
  cases asked with
  | always =>
    rcases Finding.ofHeaderLength_always finding with ⟨short, same⟩ | ⟨-, -, bounded, -⟩
    · exact told_headerTooShort short same
    · exact absurd rfl bounded
  | never =>
    obtain ⟨enough, ⟨-, same⟩ | ⟨bounded, -⟩ | ⟨bounded, -⟩⟩ := Finding.ofHeaderLength_never finding
    · exact told_headerNotShorter enough same
    · exact absurd rfl bounded
    · exact absurd rfl bounded

end

/-- **What is told about the length of a header is true.** A header, no longer than the largest
length, is held against two bounds, the lower of which may be the greater; nothing is found exactly
when its length passes. Otherwise a bound is told that the header does not keep, in words that show
this bound and the length of the header and no other number. Where the length must be within the
bounds, it is told to be too short exactly when it is, and too long only when it is. Where it must
not, the bound that is told admits exactly the lengths that pass. The rules on the greatest and the
least length of a header each tell the bound that they are set to, so that the one that is filled in
is never shown. -/
theorem length_told :
    (∀ (header : String) (min max : Nat) (asked : Applicability), header.length ≤
      Finding.maxLength →
      let passes := fun length => asked.passes (decide (min ≤ length ∧ length ≤ max)) = true
      (Finding.ofHeaderLength header min max asked = none ↔ passes header.length) ∧
      ∀ f, Finding.ofHeaderLength header min max asked = some f →
        ∃ bound : LengthBound, bound.Told header.length f.message f.suggestion ∧
          match asked with
          | .always => (bound = .atLeast min ↔ header.length < min) ∧
            (bound = .atMost max ↔ min ≤ header.length) ∧
              (bound = .atMost max → max < header.length)
          | .never => bound ∈ [.shorterThan min, .longerThan max, .notBetween min max] ∧
              ∀ length ≤ Finding.maxLength, bound.Admits length ↔ passes length) ∧
    ∀ (severity : Severity) (asked : Applicability) (n : Nat) (m : Message) (v : Violation),
      (n < Finding.maxLength → checkRule .headerMaxLength ⟨severity, asked, .length n⟩ m = some v →
        (LengthBound.upper n asked).Told m.header.length v.message v.suggestion) ∧
      (checkRule .headerMinLength ⟨severity, asked, .length n⟩ m = some v →
        (LengthBound.lower n asked).Told m.header.length v.message v.suggestion) := by
  constructor
  · intro header min max asked short passes
    have largest : (header.length ≤ max ∨ max = Finding.maxLength) ↔ header.length ≤ max := by omega
    refine ⟨?_, fun f found => ?_⟩
    · rw [Finding.ofHeaderLength_eq_none_iff, largest]
      show _ ↔ asked.passes _ = true
      rw [Applicability.passes_iff, decide_eq_true_iff]
    · cases asked with
      | always => exact told_always found
      | never =>
        obtain ⟨bound, told, one, admits⟩ := told_never found
        refine ⟨bound, told, one, fun length least => ?_⟩
        rw [admits length least]
        show _ ↔ Applicability.never.passes _ = true
        rw [Applicability.passes_iff, decide_eq_true_iff]
        rfl
  · intro severity asked n m v
    exact ⟨fun bounded => told_upper (Nat.ne_of_lt bounded), told_lower⟩

/-- A header of six characters. No length lies between eight and four, so that it must be longer
where its length must lie there, and nothing is wrong where it must not. Where no length at all may
pass, it is asked to be shorter than zero, and the largest length, which bounds nothing, is not
told. -/
theorem length_told_crossed :
    let m : Message := Message.parse "fix: x"
    Finding.ofHeaderLength m.header 8 4 .never = none ∧
    (∃ f, Finding.ofHeaderLength m.header 8 4 .always = some f ∧
    (LengthBound.atLeast 8).Told 6 f.message f.suggestion) ∧
    ∃ v, checkRule .headerMinLength ⟨.error, .never, .length 0⟩ m = some v ∧
      (LengthBound.shorterThan 0).Told 6 v.message v.suggestion := by
  intro m
  have size : m.header.length = 6 := by decide +kernel
  have short : m.header.length ≤ Finding.maxLength := by rw [size]; decide
  obtain ⟨checked, ruled⟩ := length_told
  refine ⟨(checked m.header 8 4 .never short).1.2 (by rw [size]; rfl), ?_, ?_⟩
  · have fails := (checked m.header 8 4 .always short).1.not.2 (by rw [size]; decide)
    obtain ⟨f, found⟩ := Option.ne_none_iff_exists'.1 fails
    obtain ⟨bound, told, least, -⟩ := (checked m.header 8 4 .always short).2 f found
    obtain rfl := least.2 (by rw [size]; decide)
    exact ⟨f, found, size ▸ told⟩
  · have broken : (checkRule .headerMinLength ⟨.error, .never, .length 0⟩ m).isSome = true := by
      decide +kernel
    obtain ⟨v, found⟩ := Option.isSome_iff_exists.1 broken
    exact ⟨v, found, size ▸ (ruled .error .never 0 m v).2 found⟩

end CommitLint
