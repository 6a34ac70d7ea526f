import CommitLint.Message
import CommitLint.Text.WordChar

/-!
# Conventional headers

A conventional header reads `type(scope)!: subject`, scope and exclamation mark optional.
`ConventionalHeader.Form` is the grammar and `ConventionalHeader.parse` the reader; a header outside
the grammar has an empty type and is all subject.
-/

namespace CommitLint

open Text

/-- Type and subject of a header. -/
structure ConventionalHeader where
  /-- The type, empty when the header is not of the conventional form. -/
  type : String
  /-- The subject, without white space at its ends. -/
  subject : String
  deriving DecidableEq, Repr

namespace ConventionalHeader

/-- The characters after an optional scope in parentheses: a scope that is not closed is none. -/
def afterScope (cs : List Char) : List Char :=
  match cs with
  | '(' :: inner =>
    match inner.dropWhile (· ≠ ')') with
    | ')' :: rest => rest
    | _ => cs
  | _ => cs

/-- The characters after an optional exclamation mark. -/
def afterMark (cs : List Char) : List Char :=
  match cs with
  | '!' :: rest => rest
  | _ => cs

/-- The characters of the subject, when `cs` is a colon and then either nothing or a blank and one
line. -/
def subjectPart? (cs : List Char) : Option (List Char) :=
  match cs with
  | [':'] => some []
  | ':' :: ' ' :: subject => if '\n' ∈ subject then none else some subject
  | _ => none

/-- Type and subject of a header of the conventional form, as they stand there. -/
def parts? (cs : List Char) : Option (List Char × List Char) :=
  match cs.takeWhile isWordChar with
  | [] => none
  | type =>
    (subjectPart? (afterMark (afterScope (cs.dropWhile isWordChar)))).map fun subject =>
      (type, subject)

/-- Reads a header line. -/
def parse (header : String) : ConventionalHeader :=
  match parts? header.toList with
  | some (type, subject) => ⟨String.ofList type, trim (String.ofList subject)⟩
  | none => ⟨"", trim header⟩

/-- The grammar: a word, an optional scope, an optional mark, a colon and an optional subject. -/
inductive Form : List Char → List Char → List Char → Prop
  /-- The four parts, of which `type` and `subject` are told apart from the rest. -/
  | mk {type scope mark tail subject : List Char} :
    type ≠ [] → (∀ c ∈ type, isWordChar c = true) →
    (scope = [] ∨ ∃ x, scope = '(' :: x ++ [')'] ∧ ')' ∉ x) →
    (mark = [] ∨ mark = ['!']) →
    (tail = [] ∧ subject = [] ∨ tail = ' ' :: subject ∧ '\n' ∉ subject) →
    Form (type ++ scope ++ mark ++ ':' :: tail) type subject

end ConventionalHeader

/-- The header of the message, read as a conventional one. -/
def Message.conventional (m : Message) : ConventionalHeader := ConventionalHeader.parse m.header

end CommitLint
