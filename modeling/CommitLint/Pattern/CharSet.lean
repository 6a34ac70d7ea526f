import CommitLint.Text.Blank
import CommitLint.Text.CaseFold
import CommitLint.Text.Category
import CommitLint.Text.WordChar

/-!
# Sets of characters in patterns

A set of characters is built from ranges and general categories by the operations on sets and by
closing it under case. `CharSet.mem` decides whether a character belongs to it, and one lemma for
each operation says which do.
-/

namespace CommitLint

open Text

/-- A set of characters. -/
inductive CharSet
  /-- The characters of some ranges of code points. -/
  | ranges (rs : CharRanges)
  /-- The characters of a general category. -/
  | category (g : Category)
  /-- The characters of either set. -/
  | union (a b : CharSet)
  /-- The characters of both sets. -/
  | inter (a b : CharSet)
  /-- The characters of the first set only. -/
  | diff (a b : CharSet)
  /-- The characters of one set and not of the other. -/
  | symmDiff (a b : CharSet)
  /-- The characters that are not in the set. -/
  | compl (a : CharSet)
  /-- The characters that differ from one of the set in case at most; with `ascii`, only letters a
  to z have a case. -/
  | anyCase (ascii : Bool) (a : CharSet)
  deriving DecidableEq, Repr

namespace CharSet

/-- A character with those that count as the same when case does not matter. -/
def variants (ascii : Bool) (c : Char) : List Char :=
  if ascii then asciiVariants c else caseVariants c

/-- Whether a character belongs to the set. -/
def mem : CharSet → Char → Bool
  | ranges rs, c => rs.covers c
  | category g, c => g.holds c
  | union a b, c => a.mem c || b.mem c
  | inter a b, c => a.mem c && b.mem c
  | diff a b, c => a.mem c && !b.mem c
  | symmDiff a b, c => a.mem c != b.mem c
  | compl a, c => !a.mem c
  | anyCase ascii a, c => (variants ascii c).any a.mem

def none : CharSet := ranges []

def all : CharSet := compl none

def single (c : Char) : CharSet := ranges [(c.toNat, c.toNat)]

/-- The characters from one to another, both included. -/
def range (first last : Char) : CharSet := ranges [(first.toNat, last.toNat)]

def anyOf : List CharSet → CharSet
  | [] => none
  | a :: rest => union a (anyOf rest)

def digit : CharSet := category .decimalNumber

def space : CharSet := ranges whiteSpaceRanges

def word : CharSet := ranges wordRanges

def asciiDigit : CharSet := range '0' '9'

/-- The blank and the controls from the tab to the carriage return. -/
def asciiSpace : CharSet := ranges [(0x09, 0x0D), (0x20, 0x20)]

/-- The letters a to z in either case, the digits 0 to 9 and the low line. -/
def asciiWord : CharSet := ranges [(0x30, 0x39), (0x41, 0x5A), (0x5F, 0x5F), (0x61, 0x7A)]

theorem mem_all (c : Char) : all.mem c = true := rfl

theorem mem_single {a c : Char} : (single a).mem c = true ↔ c = a := by
  simp only [single, mem, CharRanges.covers, List.any_cons, List.any_nil, Bool.or_false,
    Bool.and_eq_true,
    decide_eq_true_eq]
  constructor
  · intro h
    exact Char.toNat_inj.1 (by omega)
  · rintro rfl
    omega

theorem mem_compl (a : CharSet) (c : Char) : (compl a).mem c = !a.mem c := rfl

/-- Closing a set under case adds characters and drops none. -/
theorem mem_anyCase_of_mem {a : CharSet} {c : Char} (ascii : Bool) (h : a.mem c = true) :
    (anyCase ascii a).mem c = true := by
  simp only [mem, List.any_eq_true]
  refine ⟨c, ?_, h⟩
  cases ascii
  · exact mem_caseVariants_self c
  · exact mem_asciiVariants_self c

end CharSet

end CommitLint
