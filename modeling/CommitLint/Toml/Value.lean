import CommitLint.Number.Binary64

/-!
# Values of a configuration

What a configuration file in the format TOML can hold: texts, numbers, truth values, moments,
arrays, and tables whose entries keep the order in which they were written.
-/

namespace CommitLint.Toml

/-- A day. -/
structure Date where
  year : Nat
  month : Nat
  day : Nat
  deriving DecidableEq, Repr

/-- A time of day. -/
structure Time where
  hour : Nat
  minute : Nat
  second : Nat
  nanosecond : Nat
  deriving DecidableEq, Repr

/-- How local time stands to universal time. -/
inductive Offset
  /-- Universal time itself. -/
  | universal
  /-- So many minutes ahead. -/
  | minutes (ahead : Int)
  deriving DecidableEq, Repr

/-- A day, a time of day, or both. -/
inductive Moment
  /-- A day. -/
  | date (d : Date)
  /-- A time of day. -/
  | time (t : Time)
  /-- A time on a day, perhaps with its offset. -/
  | dateTime (d : Date) (t : Time) (offset : Option Offset)
  deriving DecidableEq, Repr

/-- A value. -/
inductive Value
  /-- A text. -/
  | string (s : String)
  /-- An integer. -/
  | integer (n : Int)
  /-- A floating-point number. -/
  | float (x : Binary64)
  /-- A truth value. -/
  | boolean (b : Bool)
  /-- A moment. -/
  | moment (m : Moment)
  /-- Values in order. -/
  | array (items : List Value)
  /-- Values under keys, in order. -/
  | table (entries : List (String × Value))
  deriving Repr

/-- A table: values under keys, in the order in which they were written. -/
abbrev Table := List (String × Value)

/-- The kind of a value in a word. -/
def Value.kindName : Value → String
  | .string _ => "string"
  | .integer _ => "integer"
  | .float _ => "float"
  | .boolean _ => "boolean"
  | .moment _ => "datetime"
  | .array _ => "array"
  | .table _ => "table"

/-! ### Moments in writing -/

/-- A number in decimal digits, filled up with zeros to a width. -/
def padded (width n : Nat) : String :=
  let digits := Nat.repr n
  "".pushn '0' (width - digits.length) ++ digits

def Date.shown (d : Date) : String :=
  padded 4 d.year ++ "-" ++ padded 2 d.month ++ "-" ++ padded 2 d.day

/-- The part of a second, without zeros at the end. -/
def fraction (nanosecond : Nat) : String :=
  if nanosecond = 0 then ""
  else "." ++ String.ofList ((padded 9 nanosecond).toList.reverse.dropWhile (· = '0')).reverse

def Time.shown (t : Time) : String :=
  padded 2 t.hour ++ ":" ++ padded 2 t.minute ++ ":" ++ padded 2 t.second ++ fraction t.nanosecond

def Offset.shown : Offset → String
  | .universal => "Z"
  | .minutes ahead =>
    (if ahead < 0 then "-" else "+") ++ padded 2 (ahead.natAbs / 60) ++ ":"
      ++ padded 2 (ahead.natAbs % 60)

def Moment.shown : Moment → String
  | .date d => d.shown
  | .time t => t.shown
  | .dateTime d t offset => d.shown ++ "T" ++ t.shown ++ (match offset with
    | some o => o.shown
    | none => "")

end CommitLint.Toml
