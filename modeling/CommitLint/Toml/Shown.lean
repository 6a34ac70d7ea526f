import CommitLint.Number.Shortest
import CommitLint.Toml.Lexeme

/-!
# Values in writing

How a value is quoted in a message. A text takes the first of these forms that says it without
escapes: between quotes, between apostrophes, and both over several lines; otherwise it is escaped.
A table writes its plain entries first, then arrays with tables in them, then tables.
-/

namespace CommitLint.Toml

/-! ### Texts -/

/-- What counts when a form is chosen for a text. -/
structure TextTraits where
  /-- The text has a character that can only be escaped. -/
  needsCode : Bool
  /-- The text has a backslash. -/
  hasBackslash : Bool
  /-- The text has a line feed. -/
  hasNewline : Bool
  /-- The most quotes in a row. -/
  quotes : Nat
  /-- The most apostrophes in a row. -/
  apostrophes : Nat

/-- Whether a character can only be escaped. -/
def isCode (c : Char) : Bool := !isPlain c && c ≠ '\n'

/-- The length of the longest row of a character. -/
def longestRow (mark : Char) (cs : List Char) : Nat := go 0 cs
where
  /-- The same, when `open` of the character stand before. -/
  go (count : Nat) : List Char → Nat
    | [] => count
    | c :: rest => if c = mark then go (count + 1) rest else max count (go 0 rest)

/-- The traits of a text. -/
def traits (cs : List Char) : TextTraits :=
  ⟨cs.any isCode, cs.contains '\\', cs.contains '\n', longestRow '"' cs, longestRow '\'' cs⟩

/-- A character by its code, in four hexadecimal digits. -/
def codeEscape (c : Char) : List Char :=
  let digits := (Nat.toDigits 16 c.toNat).map Char.toUpper
  '\\' :: 'u' :: List.replicate (4 - digits.length) '0' ++ digits

/-- The escape of a character that does not stand for itself between quotes. Quotes are apart. -/
def escape? (long : Bool) (c : Char) : Option (List Char) :=
  match c with
  | '\x08' => some ['\\', 'b']
  | '\t' => some ['\\', 't']
  | '\n' => if long then none else some ['\\', 'n']
  | '\x0c' => some ['\\', 'f']
  | '\r' => some ['\\', 'r']
  | '\\' => some ['\\', '\\']
  | c => if isCode c then some (codeEscape c) else none

/-- Characters as they stand between quotes. Of the quotes in a row at most `allowed` stand for
themselves. -/
def escapedChars (long : Bool) (allowed : Nat) (row : Nat) : List Char → List Char
  | [] => []
  | '"' :: rest =>
    if row < allowed then '"' :: escapedChars long allowed (row + 1) rest
    else '\\' :: '"' :: escapedChars long allowed 0 rest
  | c :: rest => (escape? long c).getD [c] ++ escapedChars long allowed 0 rest

def basicForm (cs : List Char) : List Char := '"' :: escapedChars false 0 0 cs ++ ['"']

def literalForm (cs : List Char) : List Char := '\'' :: cs ++ ['\'']

/-- Characters over several lines. They start on a line of their own if there is more than one. -/
def longForm (mark : Char) (cs content : List Char) : List Char :=
  List.replicate 3 mark ++ (if cs.contains '\n' then ['\n'] else []) ++ content
    ++ List.replicate 3 mark

/-- A text in the first form that suits it. -/
def shownText (s : String) : String :=
  let cs := s.toList
  let t := traits cs
  let longBasic := longForm '"' cs (escapedChars true 2 0 cs)
  String.ofList
    (if !t.needsCode && !t.hasBackslash && t.quotes = 0 && !t.hasNewline then basicForm cs
    else if !t.needsCode && t.apostrophes = 0 && !t.hasNewline then literalForm cs
    else if !t.needsCode && !t.hasBackslash && t.quotes ≤ 2 then longBasic
    else if !t.needsCode && t.apostrophes ≤ 2 then longForm '\'' cs cs
    else if t.hasNewline then longBasic
    else basicForm cs)

/-- A key: as it is if it can stand without quotes, otherwise between quotes or apostrophes. -/
def shownKey (s : String) : String :=
  let cs := s.toList
  let t := traits cs
  if cs ≠ [] ∧ cs.all isBareKeyChar then s
  else String.ofList
    (if !t.needsCode && !t.hasBackslash && t.quotes = 0 && !t.hasNewline then basicForm cs
    else if !t.needsCode && t.apostrophes = 0 && !t.hasNewline then literalForm cs
    else basicForm cs)

/-! ### Other values -/

def shownFloat : Binary64 → String
  | .nan => "nan"
  | .infinite negative => if negative then "-inf" else "inf"
  | .finite negative significand exponent => Shortest.shown negative significand exponent

/-- Texts between brackets, with commas between them. -/
def bracketed (items : List String) : String := "[" ++ ", ".intercalate items ++ "]"

/-- Texts between braces, with commas between them. -/
def braced (items : List String) : String :=
  if items = [] then "\x7b\x7d" else "\x7b " ++ ", ".intercalate items ++ " \x7d"

/-- The key of the one entry of the table that a moment is quoted as. -/
def momentKey : String := "$__toml_private_datetime"

def Value.isTable : Value → Bool
  | .table _ => true
  | _ => false

/-- The place of a value among the entries of its table: plain values, arrays with tables,
tables. -/
def Value.rank : Value → Nat
  | .array items => if items.any Value.isTable then 1 else 0
  | .table _ => 2
  | _ => 0

mutual

/-- A value in writing. -/
def Value.shown : Value → String
  | .string s => shownText s
  | .integer n => Int.repr n
  | .float x => shownFloat x
  | .boolean b => if b then "true" else "false"
  | .moment m => braced [shownKey momentKey ++ " = " ++ shownText m.shown]
  | .array items => bracketed (shownItems items)
  | .table entries =>
    let shown := shownEntries entries
    braced ([0, 1, 2].flatMap fun rank => (shown.filter (·.1 = rank)).map Prod.snd)

def shownItems : List Value → List String
  | [] => []
  | v :: rest => v.shown :: shownItems rest

/-- The entries of a table in writing, each with its place. -/
def shownEntries : Table → List (Nat × String)
  | [] => []
  | (key, v) :: rest => (v.rank, shownKey key ++ " = " ++ v.shown) :: shownEntries rest

end

end CommitLint.Toml
