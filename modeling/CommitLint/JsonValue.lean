/-!
# JSON

Values of JSON and how they are laid out: each member of a list or an object on a line of its own,
two blanks deeper than the brackets around it. An empty list or object is its two brackets.
-/

namespace CommitLint

/-- A value. Numbers are counts. -/
inductive JsonValue
  /-- No value. -/
  | null
  /-- A truth value. -/
  | bool (b : Bool)
  /-- A count. -/
  | number (n : Nat)
  /-- A text. -/
  | text (s : String)
  /-- Values in order. -/
  | list (items : List JsonValue)
  /-- Values with their keys in order. -/
  | object (fields : List (String × JsonValue))

namespace JsonValue

def texts (items : List String) : JsonValue := list (items.map text)

/-! ### Layout -/

def hexDigit (n : Nat) : Char :=
  if n < 10 then Char.ofNat ('0'.toNat + n) else Char.ofNat ('a'.toNat + (n - 10))

/-- A character as it stands between quotes. -/
def escaped (c : Char) : List Char :=
  if c = '"' then ['\\', '"']
  else if c = '\\' then ['\\', '\\']
  else if c = '\x08' then ['\\', 'b']
  else if c = '\t' then ['\\', 't']
  else if c = '\n' then ['\\', 'n']
  else if c = '\x0c' then ['\\', 'f']
  else if c = '\r' then ['\\', 'r']
  else if c < ' ' then ['\\', 'u', '0', '0', hexDigit (c.toNat / 16), hexDigit (c.toNat % 16)]
  else [c]

def quotedText (s : String) : List Char := '"' :: s.toList.flatMap escaped ++ ['"']

def newLine (depth : Nat) : List Char := '\n' :: List.replicate (2 * depth) ' '

mutual

/-- The layout of a value within brackets of a depth. -/
def layout (depth : Nat) : JsonValue → List Char
  | null => "null".toList
  | bool true => "true".toList
  | bool false => "false".toList
  | number n => Nat.toDigits 10 n
  | text s => quotedText s
  | list [] => ['[', ']']
  | list (x :: xs) =>
    '[' :: newLine (depth + 1) ++ layout (depth + 1) x ++ layoutItems (depth + 1) xs
      ++ newLine depth ++ [']']
  | object [] => ['\x7b', '\x7d']
  | object ((key, x) :: fields) =>
    '\x7b' :: newLine (depth + 1) ++ quotedText key ++ [':', ' '] ++ layout (depth + 1) x
      ++ layoutFields (depth + 1) fields ++ newLine depth ++ ['\x7d']

/-- The layout of the items after the first. -/
def layoutItems (depth : Nat) : List JsonValue → List Char
  | [] => []
  | x :: xs => ',' :: newLine depth ++ layout depth x ++ layoutItems depth xs

/-- The layout of the fields after the first. -/
def layoutFields (depth : Nat) : List (String × JsonValue) → List Char
  | [] => []
  | (key, x) :: fields =>
    ',' :: newLine depth ++ quotedText key ++ [':', ' '] ++ layout depth x
      ++ layoutFields depth fields

end

def render (x : JsonValue) : String := String.ofList (layout 0 x)

theorem layoutItems_cons (depth : Nat) (x : JsonValue) (xs : List JsonValue) :
    layoutItems depth (x :: xs) = ',' :: newLine depth ++ layout depth x
      ++ layoutItems depth xs := by
  rw [layoutItems]

end JsonValue

end CommitLint
