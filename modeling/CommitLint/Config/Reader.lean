import CommitLint.Config.Basic
import CommitLint.Config.RuleEntry
import CommitLint.Toml.Document

/-!
# Reading a configuration

A configuration is a document with at most three entries: `default-ignores`, `ignores` and `rules`.
They are looked at in the order of the document for what they are, and then the rules, and last the
patterns, for what they say.
-/

namespace CommitLint.Config

open Toml (Value)

/-- What is wrong with a document as a whole. -/
inductive DocumentFault
  /-- It breaks the rules of the format. -/
  | malformed
  /-- It has an entry that no configuration has. -/
  | unknownField (key : String)
  /-- A value is of another kind than asked for. -/
  | wrongKind (found expected : String)
  deriving DecidableEq, Repr

/-- A value as a fault quotes it. -/
def described : Value → String
  | .string s => "string " ++ Text.quoted s
  | .integer n => "integer \x60" ++ Int.repr n ++ "\x60"
  | .float .nan => "floating point \x60NaN\x60"
  | .float x => "floating point \x60" ++ Toml.shownFloat x ++ "\x60"
  | .boolean b => "boolean \x60" ++ (if b then "true" else "false") ++ "\x60"
  | .array _ => "sequence"
  | .moment _ | .table _ => "map"

/-- The fault in words. Where and why a document breaks the rules of the format, which a library for
it tells in further lines, is left out. -/
def DocumentFault.message : DocumentFault → String
  | malformed => "Failed to parse TOML"
  | unknownField key =>
    "Failed to parse TOML: unknown field \x60" ++ key
      ++ "\x60, expected one of \x60default-ignores\x60, \x60ignores\x60, \x60rules\x60"
  | wrongKind found expected =>
    "Failed to parse TOML: invalid type: " ++ found ++ ", expected " ++ expected

def boolean : Value → Except DocumentFault Bool
  | .boolean b => .ok b
  | v => .error (.wrongKind (described v) "a boolean")

def string : Value → Except DocumentFault String
  | .string s => .ok s
  | v => .error (.wrongKind (described v) "a string")

def strings : Value → Except DocumentFault (List String)
  | .array items => items.mapM string
  | v => .error (.wrongKind (described v) "a sequence")

mutual

/-- A value in which each table that stands for a moment is one: its first key is the one a moment
is quoted under. -/
def settled : Value → Except DocumentFault Value
  | .array items => (settledItems items).map .array
  | .table [] => .ok (.table [])
  | .table ((key, v) :: rest) => do
    if key = Toml.momentKey then
      match v with
      | .string s =>
        match Toml.moment s.toList with
        | some (m, []) => return .moment m
        | _ => throw .malformed
      | v => throw (.wrongKind (described v) "string containing a datetime")
    else return .table ((key, ← settled v) :: (← settledEntries rest))
  | v => .ok v

def settledItems : List Value → Except DocumentFault (List Value)
  | [] => .ok []
  | v :: rest => do return (← settled v) :: (← settledItems rest)

def settledEntries : Toml.Table → Except DocumentFault Toml.Table
  | [] => .ok []
  | (key, v) :: rest => do return (key, ← settled v) :: (← settledEntries rest)

end

/-- A table. A moment counts as the table that it is quoted as. -/
def table : Value → Except DocumentFault Toml.Table
  | .table entries => settledEntries entries
  | .moment m => .ok [(Toml.momentKey, .string m.shown)]
  | v => .error (.wrongKind (described v) "a map")

/-- The entries of a document, as far as they are there. -/
structure Fields where
  /-- The entry `default-ignores`. -/
  defaultIgnores : Option Bool := none
  /-- The entry `ignores`. -/
  ignores : List String := []
  /-- The entry `rules`. -/
  rules : Option Toml.Table := none

def Fields.add (fields : Fields) (entry : String × Value) : Except DocumentFault Fields :=
  if entry.1 = "default-ignores" then (boolean entry.2).map fun b =>
    { fields with defaultIgnores := some b }
  else if entry.1 = "ignores" then (strings entry.2).map fun texts =>
    { fields with ignores := texts }
  else if entry.1 = "rules" then (table entry.2).map fun rules =>
    { fields with rules := some rules }
  else .error (.unknownField entry.1)

def fieldsOf (document : String) : Except DocumentFault Fields :=
  match Toml.parse document with
  | none => .error .malformed
  | some entries => entries.foldlM Fields.add {}

/-- Why a text is no pattern, in words. Where and why it breaks the rules of the notation, which a
library for it tells in further lines, is left out. -/
def patternFault : PatternError → String
  | .malformed => "regex parse error"
  | .tooLarge => "Compiled regex exceeds size limit of 10485760 bytes."

def ignorePattern (text : String) : Except ConfigError IgnorePattern :=
  match Pattern.ofText text with
  | .ok p => .ok ⟨text, p⟩
  | .error e => .error (.invalidValue "ignores" ("'" ++ text ++ "': " ++ patternFault e))

/-- The configuration that the fields stand for. Without the entry `rules` the standard rules
hold. -/
def ofFields (fields : Fields) : Except ConfigError Config := do
  let rules ← match fields.rules with
    | some entries => RuleSet.ofTable entries
    | none => .ok standard.rules
  let ignores ← fields.ignores.mapM ignorePattern
  return ⟨rules, fields.defaultIgnores.getD standard.defaultIgnores, ignores⟩

/-- Reads a configuration. -/
def parse (document : String) : Except ConfigError Config :=
  match fieldsOf document with
  | .ok fields => ofFields fields
  | .error fault => .error (.unreadable fault.message)

end CommitLint.Config
