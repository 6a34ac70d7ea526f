import CommitLint.Text.Reading
import CommitLint.Toml.Value

/-!
# Words of the format

The pieces a document is made of below its structure: blanks, comments and line ends, texts in four
kinds of quotes, keys, and numbers and moments.
-/

namespace CommitLint.Toml

open Text

/-! ### Blanks, comments and line ends -/

/-- Whether a character may stand in a comment. -/
def isPlain (c : Char) : Bool := c = '\t' || (decide (' ' ≤ c) && c ≠ '\x7f')

def isBlankChar (c : Char) : Bool := c = ' ' || c = '\t'

/-- Characters without the blanks at their start. -/
def dropBlanks (cs : List Char) : List Char := cs.dropWhile isBlankChar

/-- What is left after a line end, if there is one at the front. -/
def afterNewline? : List Char → Option (List Char)
  | '\n' :: rest => some rest
  | '\r' :: '\n' :: rest => some rest
  | _ => none

/-- What is left after the rest of a line on which nothing counts any more: blanks, a comment, and
the line end or the end of the document. -/
def endLine? (cs : List Char) : Option (List Char) :=
  let rest := match dropBlanks cs with
    | '#' :: comment => comment.dropWhile isPlain
    | rest => rest
  if rest = [] then some [] else afterNewline? rest

/-- What is left after blanks, line ends and comments. -/
def dropGaps? (inComment : Bool) : List Char → Option (List Char)
  | [] => some []
  | '\n' :: rest => dropGaps? false rest
  | '\r' :: '\n' :: rest => dropGaps? false rest
  | c :: rest =>
    if inComment then if isPlain c then dropGaps? true rest else none
    else if isBlankChar c then dropGaps? false rest
    else if c = '#' then dropGaps? true rest
    else some (c :: rest)

/-! ### Texts -/

def hexDigit? (c : Char) : Option Nat :=
  if c.isDigit then some (c.toNat - '0'.toNat)
  else if 'a' ≤ c ∧ c ≤ 'f' then some (c.toNat - 'a'.toNat + 10)
  else if 'A' ≤ c ∧ c ≤ 'F' then some (c.toNat - 'A'.toNat + 10)
  else none

def ofDigits (base : Nat) (digits : List Nat) : Nat := digits.foldl (fun n d => n * base + d) 0

/-- A character by its code point in so many hexadecimal digits. -/
def codePoint (count : Nat) : Reader Char := fun cs => do
  let digits ← (cs.take count).mapM hexDigit?
  let n := ofDigits 16 digits
  if digits.length = count ∧ n.isValidChar then return (Char.ofNat n, cs.drop count) else none

/-- An escaped character, after the backslash. -/
def escaped : Reader Char
  | 'b' :: rest => some ('\x08', rest)
  | 't' :: rest => some ('\t', rest)
  | 'n' :: rest => some ('\n', rest)
  | 'f' :: rest => some ('\x0c', rest)
  | 'r' :: rest => some ('\r', rest)
  | '"' :: rest => some ('"', rest)
  | '\\' :: rest => some ('\\', rest)
  | 'u' :: rest => codePoint 4 rest
  | 'U' :: rest => codePoint 8 rest
  | _ => none

/-- A text on one line between quotes, in which a backslash escapes. -/
def basicText : Reader String :=
  Reading.repeated
    (fun found cs => match cs with
      | [] => none
      | '"' :: rest => some (.done (String.ofList found.reverse), rest)
      | '\\' :: rest => (escaped rest).map fun (c, left) => (.more (c :: found), left)
      | c :: rest => if isPlain c then some (.more (c :: found), rest) else none)
    []

/-- A text on one line between apostrophes, in which nothing escapes. -/
def literalText : Reader String := fun cs =>
  match cs.dropWhile fun c => isPlain c && c ≠ '\'' with
  | '\'' :: rest => some (String.ofList (cs.takeWhile fun c => isPlain c && c ≠ '\''), rest)
  | _ => none

/-- The marks at the front of a text on several lines: how many belong to it, and what is left if
they end it. At most two marks before the last three belong to the text. -/
def marks (mark : Char) (cs : List Char) : Nat × Option (List Char) :=
  let count := (cs.takeWhile (· = mark)).length
  if count < 3 then (count, none) else (min count 5 - 3, some (cs.drop (min count 5)))

/-- What is left after a line end that is escaped, and after all blanks and line ends that
follow. -/
def afterEscapedNewline? (cs : List Char) : Option (List Char) := do
  let rest ← afterNewline? (dropBlanks cs)
  return dropAll rest
where
  /-- Characters without blanks and line ends at their start. -/
  dropAll : List Char → List Char
    | '\n' :: rest => dropAll rest
    | '\r' :: '\n' :: rest => dropAll rest
    | c :: rest => if isBlankChar c then dropAll rest else c :: rest
    | [] => []

/-- A text on several lines up to three marks; `escapes` if a backslash escapes. -/
def longText (mark : Char) (escapes : Bool) (cs : List Char) : Option (String × List Char) :=
  Reading.repeated
    (fun found cs => match cs with
      | [] => none
      | c :: rest =>
        if c = mark then
          let (count, ended) := marks mark (c :: rest)
          match ended with
          | some left =>
            some (.done (String.ofList (List.replicate count mark ++ found).reverse), left)
          | none => some (.more (List.replicate count mark ++ found), (c :: rest).drop count)
        else if escapes ∧ c = '\\' then
          match afterEscapedNewline? rest with
          | some left => some (.more found, left)
          | none => (escaped rest).map fun (c, left) => (.more (c :: found), left)
        else match afterNewline? (c :: rest) with
          | some left => some (.more ('\n' :: found), left)
          | none => if isPlain c then some (.more (c :: found), rest) else none)
    [] ((afterNewline? cs).getD cs)

def text : Reader String
  | '"' :: '"' :: '"' :: rest => longText '"' true rest
  | '"' :: rest => basicText rest
  | '\'' :: '\'' :: '\'' :: rest => longText '\'' false rest
  | '\'' :: rest => literalText rest
  | _ => none

/-! ### Keys -/

/-- Whether a character may stand in a key without quotes. -/
def isBareKeyChar (c : Char) : Bool := c.isAlphanum || c = '_' || c = '-'

def keyPart : Reader String
  | '"' :: rest => basicText rest
  | '\'' :: rest => literalText rest
  | cs =>
    let bare := cs.takeWhile isBareKeyChar
    if bare = [] then none else some (String.ofList bare, cs.dropWhile isBareKeyChar)

/-- How many arrays, tables or parts of a key may stand within each other. -/
def maxNesting : Nat := 79

/-- One part of a key with the blanks around it, and the point after it if more follow. -/
def keyStep (found : List String) (cs : List Char) :
    Option (Step (List String) (List String) × List Char) := do
  let (part, left) ← keyPart (dropBlanks cs)
  match dropBlanks left with
  | '.' :: rest => return (.more (part :: found), rest)
  | rest => return (.done (part :: found), rest)

/-- A key with its parts, the first parts apart from the last. -/
def key (cs : List Char) : Option ((List String × String) × List Char) := do
  let (parts, left) ← Reading.repeated keyStep [] cs
  match parts with
  | last :: before =>
    if parts.length ≤ maxNesting then return ((before.reverse, last), left) else none
  | [] => none

/-! ### Numbers -/

/-- Digits, between which a low line may stand. -/
def digitRun (isDigit : Char → Bool) : List Char → List Char × List Char
  | [] => ([], [])
  | '_' :: c :: rest =>
    if isDigit c then
      let (found, left) := digitRun isDigit rest
      (c :: found, left)
    else ([], '_' :: c :: rest)
  | c :: rest =>
    if isDigit c then
      let (found, left) := digitRun isDigit rest
      (c :: found, left)
    else ([], c :: rest)

/-- One digit at least, and more with low lines between them. -/
def digits (isDigit : Char → Bool) : Reader (List Char)
  | [] => none
  | c :: rest =>
    if isDigit c then
      let (found, left) := digitRun isDigit rest
      some (c :: found, left)
    else none

/-- A sign, which may be missing: whether it is a minus. -/
def sign : List Char → Bool × List Char
  | '+' :: rest => (false, rest)
  | '-' :: rest => (true, rest)
  | cs => (false, cs)

/-- Digits of a whole number, which start with zero only if there are no others. -/
def wholeDigits : Reader (List Char)
  | '0' :: rest => some (['0'], rest)
  | cs => digits Char.isDigit cs

/-- The values of digits. -/
def digitValues (cs : List Char) : List Nat := cs.filterMap hexDigit?

/-- The integers that fit. -/
def fits (n : Int) : Bool := decide (-0x8000000000000000 ≤ n) && decide (n < 0x8000000000000000)

/-- A number without a fraction, if it fits. -/
def integerOf? (negative : Bool) (base : Nat) (found : List Char) : Option Value :=
  let n : Int := ofDigits base (digitValues found)
  let n := if negative then -n else n
  if fits n then some (.integer n) else none

/-- An integer: in base 16, 8 or 2 after its mark, or in base ten. -/
def integer : Reader Value
  | '0' :: 'x' :: rest => inBase 16 (fun c => (hexDigit? c).isSome) rest
  | '0' :: 'o' :: rest => inBase 8 (fun c => decide ('0' ≤ c) && decide (c ≤ '7')) rest
  | '0' :: 'b' :: rest => inBase 2 (fun c => c = '0' || c = '1') rest
  | cs => do
    let (negative, rest) := sign cs
    let (found, left) ← wholeDigits rest
    return (← integerOf? negative 10 found, left)
where
  /-- Digits of a base. -/
  inBase (base : Nat) (isDigit : Char → Bool) (cs : List Char) : Option (Value × List Char) := do
    let (found, left) ← digits isDigit cs
    return (← integerOf? false base found, left)

/-- The part after a point, and the exponent after `e`; one of them must stand there. -/
def fractionAndExponent (cs : List Char) : Option ((List Char × Int) × List Char) :=
  let exponent (cs : List Char) : Option (Int × List Char) :=
    match cs with
    | c :: rest =>
      if c = 'e' ∨ c = 'E' then do
        let (negative, rest) := sign rest
        let (found, left) ← digits Char.isDigit rest
        let n : Int := ofDigits 10 (digitValues found)
        return (if negative then -n else n, left)
      else none
    | [] => none
  match cs with
  | '.' :: rest => do
    let (places, left) ← digits Char.isDigit rest
    match left with
    | c :: _ =>
      if c = 'e' ∨ c = 'E' then
        let (e, left) ← exponent left
        return ((places, e), left)
      else return ((places, 0), left)
    | [] => return ((places, 0), [])
  | cs => (exponent cs).map fun (e, left) => (([], e), left)

/-- A number with a fraction or an exponent, an infinity, or no number. What lies beyond all numbers
is refused unless it is negative. -/
def float (cs : List Char) : Option (Value × List Char) :=
  let (negative, rest) := sign cs
  match rest with
  | 'i' :: 'n' :: 'f' :: left => some (.float (.infinite negative), left)
  | 'n' :: 'a' :: 'n' :: left => some (.float .nan, left)
  | rest => do
    let (whole, left) ← wholeDigits rest
    let ((places, e), left) ← fractionAndExponent left
    let x := Binary64.ofDecimal negative (ofDigits 10 (digitValues (whole ++ places)))
      (e - places.length)
    if x = .infinite false then none else return (.float x, left)

/-! ### Moments -/

def fixedDigits (count : Nat) : Reader Nat := fun cs =>
  let found := cs.take count
  if found.length = count ∧ found.all Char.isDigit then
    some (ofDigits 10 (digitValues found), cs.drop count)
  else none

/-- A number of two digits between two bounds. -/
def twoDigits (least most : Nat) : Reader Nat := fun cs => do
  let (n, left) ← fixedDigits 2 cs
  if least ≤ n ∧ n ≤ most then return (n, left) else none

def afterChar? (c : Char) : List Char → Option (List Char)
  | [] => none
  | first :: rest => if first = c then some rest else none

def daysOfMonth (year month : Nat) : Nat :=
  if month = 2 then if year % 4 = 0 ∧ (year % 100 ≠ 0 ∨ year % 400 = 0) then 29 else 28
  else if month ∈ [4, 6, 9, 11] then 30
  else 31

def date : Reader Date := fun cs => do
  let (year, left) ← fixedDigits 4 cs
  let (month, left) ← twoDigits 1 12 (← afterChar? '-' left)
  let (day, left) ← twoDigits 1 31 (← afterChar? '-' left)
  if day ≤ daysOfMonth year month then return (⟨year, month, day⟩, left) else none

/-- A time of day. Of the fraction of a second, nine places count. -/
def time : Reader Time := fun cs => do
  let (hour, left) ← twoDigits 0 23 cs
  let (minute, left) ← twoDigits 0 59 (← afterChar? ':' left)
  let (second, left) ← twoDigits 0 60 (← afterChar? ':' left)
  match left with
  | '.' :: rest =>
    let places := rest.takeWhile Char.isDigit
    if places = [] then return (⟨hour, minute, second, 0⟩, left)
    else
      let nine := (digitValues places ++ List.replicate 9 0).take 9
      return (⟨hour, minute, second, ofDigits 10 nine⟩, rest.dropWhile Char.isDigit)
  | _ => return (⟨hour, minute, second, 0⟩, left)

/-- An offset. -/
def offset : Reader Offset
  | 'Z' :: rest | 'z' :: rest => some (.universal, rest)
  | c :: rest =>
    if c = '+' ∨ c = '-' then do
      let (hours, left) ← twoDigits 0 23 rest
      let (minutes, left) ← twoDigits 0 59 (← afterChar? ':' left)
      let ahead : Int := (hours * 60 + minutes : Nat)
      return (.minutes (if c = '-' then -ahead else ahead), left)
    else none
  | [] => none

/-- A moment. -/
def moment (cs : List Char) : Option (Moment × List Char) :=
  match date cs with
  | none => (time cs).map fun (t, left) => (.time t, left)
  | some (d, left) =>
    match left with
    | c :: rest =>
      if c = 'T' ∨ c = 't' ∨ c = ' ' then
        match time rest with
        | none => some (.date d, left)
        | some (t, left) =>
          match left with
          | c :: _ =>
            if c ∈ ['Z', 'z', '+', '-'] then (offset left).map fun (o, left) =>
              (.dateTime d t (some o), left)
            else some (.dateTime d t none, left)
          | [] => some (.dateTime d t none, [])
      else some (.date d, left)
    | [] => some (.date d, [])

def number (cs : List Char) : Option (Value × List Char) :=
  match moment cs with
  | some (m, left) => some (.moment m, left)
  | none => (float cs).or (integer cs)

end CommitLint.Toml
