import CommitLint.Text.CharRanges

/-!
# White space

The characters that count as white space (the Unicode property `White_Space`), texts made of nothing
else, and texts stripped of them at either end.
-/

namespace CommitLint.Text

/-- The ranges of the property `White_Space`. -/
def whiteSpaceRanges : CharRanges :=
  [(0x0009, 0x000D), (0x0020, 0x0020), (0x0085, 0x0085), (0x00A0, 0x00A0), (0x1680, 0x1680),
   (0x2000, 0x200A), (0x2028, 0x2029), (0x202F, 0x202F), (0x205F, 0x205F), (0x3000, 0x3000)]

def isSpace (c : Char) : Bool := whiteSpaceRanges.covers c

/-- A text is blank when it has no character other than white space. -/
def isBlank (s : String) : Bool := s.toList.all isSpace

/-- Characters without the white space at their start. -/
def dropSpaces (cs : List Char) : List Char := cs.dropWhile isSpace

/-- Characters without the white space at their end. -/
def dropTrailingSpaces (cs : List Char) : List Char := (dropSpaces cs.reverse).reverse

/-- A text without the white space at its end. -/
def trimEnd (s : String) : String := String.ofList (dropTrailingSpaces s.toList)

/-- A text without the white space at either end. -/
def trim (s : String) : String := String.ofList (dropTrailingSpaces (dropSpaces s.toList))

theorem isBlank_empty : isBlank "" = true := by simp [isBlank]

theorem isBlank_iff (s : String) : isBlank s = true ↔ ∀ c ∈ s.toList, isSpace c = true := by
  simp [isBlank]

theorem toList_trimEnd (s : String) : (trimEnd s).toList = dropTrailingSpaces s.toList := by
  simp [trimEnd]

end CommitLint.Text
