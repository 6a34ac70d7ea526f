import CommitLint.ConventionalHeader
import CommitLint.Rule
import CommitLint.Text.Affix

/-!
# Findings

A finding is the reason why a message does not pass a rule. `Finding.message` and
`Finding.suggestion` word it; the functions of this file look for one, a condition and an
applicability at a time. Each returns nothing when the message passes or the rule does not apply to
it.
-/

namespace CommitLint

/-- Why a message does not pass a rule. -/
inductive Finding
  /-- The header has fewer characters than asked. -/
  | headerTooShort (length min : Nat)
  /-- The header has more characters than allowed. -/
  | headerTooLong (length max : Nat)
  /-- The header has at least `min` characters and must not. -/
  | headerNotShorter (length min : Nat)
  /-- The header has at most `max` characters and must not. -/
  | headerNotLonger (length max : Nat)
  /-- The header's length lies between the bounds and must not. -/
  | headerBetween (length min max : Nat)
  /-- No body line starts with the marker. -/
  | signOffMissing (marker : String)
  /-- A body line starts with the marker and must not. -/
  | signOffPresent (marker : String)
  /-- The type is not one of those listed. -/
  | typeNotListed (type : String) (allowed : List String)
  /-- The type is one of those listed and must not be. -/
  | typeListed (type : String)
  /-- There is a type and must not be. -/
  | typePresent
  /-- There is no type. -/
  | typeMissing
  /-- There is a subject and must not be. -/
  | subjectPresent
  /-- There is no subject. -/
  | subjectMissing
  /-- The subject does not end with the text. -/
  | stopMissing (stop : String)
  /-- The subject ends with the text and must not. -/
  | stopPresent (stop : String)
  /-- The first body line is not blank. -/
  | leadingBlankMissing
  /-- The first body line is blank and must not be. -/
  | leadingBlankPresent
  /-- Some body line has more characters than allowed. -/
  | bodyLineTooLong (longest max : Nat)
  /-- No body line has more than `max` characters, and one must. -/
  | bodyLinesTooShort (longest max : Nat)
  deriving DecidableEq, Repr

namespace Finding

/-! ### Wording -/

/-- The finding in words. -/
def message : Finding → String
  | headerTooShort length min =>
    "Header is too short: " ++ Nat.repr length ++ " characters (min: " ++ Nat.repr min ++ ")"
  | headerTooLong length max =>
    "Header is too long: " ++ Nat.repr length ++ " characters (max: " ++ Nat.repr max ++ ")"
  | headerNotShorter length min =>
    "Header must be shorter than " ++ Nat.repr min ++ " characters: " ++ Nat.repr length
      ++ " characters"
  | headerNotLonger length max =>
    "Header must be longer than " ++ Nat.repr max ++ " characters: " ++ Nat.repr length
      ++ " characters"
  | headerBetween length min max =>
    "Header length must not be between " ++ Nat.repr min ++ " and " ++ Nat.repr max ++ ": "
      ++ Nat.repr length
      ++ " characters"
  | signOffMissing marker => "Message must contain a '" ++ marker ++ "' line"
  | signOffPresent marker => "Message must not contain a '" ++ marker ++ "' line"
  | typeNotListed type _ => "Type '" ++ type ++ "' is not allowed"
  | typeListed type => "Type '" ++ type ++ "' is forbidden"
  | typePresent => "Type must be empty"
  | typeMissing => "Type may not be empty"
  | subjectPresent => "Subject must be empty"
  | subjectMissing => "Subject may not be empty"
  | stopMissing stop => "Subject must end with '" ++ stop ++ "'"
  | stopPresent stop => "Subject may not end with '" ++ stop ++ "'"
  | leadingBlankMissing => "Body must have a leading blank line"
  | leadingBlankPresent => "Body may not have a leading blank line"
  | bodyLineTooLong longest max =>
    "Body line is too long: " ++ Nat.repr longest ++ " characters (max: " ++ Nat.repr max ++ ")"
  | bodyLinesTooShort longest max =>
    "Body lines must exceed " ++ Nat.repr max ++ " characters: longest is " ++ Nat.repr longest

/-- What the author may do about it, where there is advice to give. -/
def suggestion : Finding → Option String
  | headerTooShort _ _ => some "Add more detail to the header"
  | headerTooLong _ max => some ("Shorten the header to " ++ Nat.repr max ++ " characters or less")
  | signOffMissing _ => some "Sign off the commit with `git commit -s`"
  | typeNotListed _ allowed => some ("Use one of: " ++ ", ".intercalate allowed)
  | typeMissing => some "Use the form type(scope): subject"
  | stopPresent stop => some ("Remove the trailing '" ++ stop ++ "'")
  | leadingBlankMissing => some "Separate the header from the body with an empty line"
  | bodyLineTooLong _ max => some ("Wrap body lines at " ++ Nat.repr max ++ " characters")
  | _ => none

/-! ### Length of the header -/

/-- The largest length there is. It stands for the upper bound that a lower bound alone does not
have. -/
def maxLength : Nat := 0xFFFFFFFFFFFFFFFF

/-- Whether a length lies between two bounds, both included. The largest length there is bounds
nothing. -/
def isWithin (length min max : Nat) : Bool :=
  decide (min ≤ length) && decide (length ≤ max ∨ max = maxLength)

/-- Checks the header against the lengths from `min` to `max`, both included. -/
def ofHeaderLength (header : String) (min max : Nat) (applicability : Applicability) :
    Option Finding :=
  let length := header.length
  if applicability.passes (isWithin length min max) then none
  else some (match applicability with
    | .always => if length < min then headerTooShort length min else headerTooLong length max
    | .never =>
      if max = maxLength then headerNotShorter length min
      else if min = 0 then headerNotLonger length max
      else headerBetween length min max)

/-! ### Sign-off -/

/-- Checks whether some body line starts with the marker. -/
def ofSignOff (body : List String) (marker : String) (applicability : Applicability) :
    Option Finding :=
  if applicability.passes (body.any (Text.startsWith · marker)) then none
  else some (match applicability with
    | .always => signOffMissing marker
    | .never => signOffPresent marker)

/-! ### Type and subject -/

/-- Checks whether the type is one of those listed; a header without a type is left alone. -/
def ofTypeList (header : ConventionalHeader) (listed : List String)
    (applicability : Applicability) :
    Option Finding :=
  if header.type = "" then none
  else if applicability.passes (decide (header.type ∈ listed)) then none
  else some (match applicability with
    | .always => typeNotListed header.type listed
    | .never => typeListed header.type)

/-- Checks whether the type is empty. -/
def ofTypeEmpty (header : ConventionalHeader) (applicability : Applicability) : Option Finding :=
  if applicability.passes (decide (header.type = "")) then none
  else some (match applicability with
    | .always => typePresent
    | .never => typeMissing)

/-- Checks whether the subject is empty. -/
def ofSubjectEmpty (header : ConventionalHeader) (applicability : Applicability) : Option Finding :=
  if applicability.passes (decide (header.subject = "")) then none
  else some (match applicability with
    | .always => subjectPresent
    | .never => subjectMissing)

/-- Checks whether the subject ends with the text; a header without a subject is left alone. -/
def ofFullStop (header : ConventionalHeader) (stop : String) (applicability : Applicability) :
    Option Finding :=
  if header.subject = "" then none
  else if applicability.passes (Text.endsWith header.subject stop) then none
  else some (match applicability with
    | .always => stopMissing stop
    | .never => stopPresent stop)

/-! ### Body -/

/-- Checks whether the first body line is blank; a message without a body is left alone. -/
def ofLeadingBlank (body : List String) (applicability : Applicability) : Option Finding :=
  match body with
  | [] => none
  | first :: _ =>
    if applicability.passes (Text.isBlank first) then none
    else some (match applicability with
      | .always => leadingBlankMissing
      | .never => leadingBlankPresent)

/-- The number of characters of the longest line. -/
def longestLine (body : List String) : Nat := body.foldr (fun line most => max line.length most) 0

/-- Checks the body lines against a greatest length; a message without a body is left alone. -/
def ofBodyLines (body : List String) (max : Nat) (applicability : Applicability) : Option Finding :=
  if body = [] then none
  else if applicability.passes (decide (longestLine body ≤ max)) then none
  else some (match applicability with
    | .always => bodyLineTooLong (longestLine body) max
    | .never => bodyLinesTooShort (longestLine body) max)

/-- No line is longer than `max` exactly when the longest is not. -/
theorem longestLine_le_iff (body : List String) (max : Nat) :
    longestLine body ≤ max ↔ ∀ line ∈ body, line.length ≤ max := by
  induction body with
  | nil => simp [longestLine]
  | cons line rest ih =>
    have first : longestLine (line :: rest) = Max.max line.length (longestLine rest) := rfl
    rw [first, Nat.max_le, ih, List.forall_mem_cons]

end Finding

end CommitLint
