import CommitLint.Ignore
import CommitLint.Pattern.Reader
import CommitLint.RuleSet

/-!
# Configurations

A configuration says which rules there are, whether the usual messages of tools are skipped, and
which further patterns mark messages to be skipped.
-/

namespace CommitLint

/-- A pattern of messages to be skipped, as it was written and as it was understood. -/
structure IgnorePattern where
  /-- The text of the pattern. -/
  text : String
  /-- What it describes. -/
  pattern : Pattern
  deriving DecidableEq, Repr

/-- A configuration. -/
structure Config where
  /-- The rules in order. -/
  rules : RuleSet
  /-- Whether the usual messages of tools are skipped. -/
  defaultIgnores : Bool
  /-- Patterns of further messages to be skipped. -/
  ignores : List IgnorePattern
  deriving DecidableEq

namespace Config

def standard : Config := ⟨.standard, true, []⟩

def skips (config : Config) (m : Message) : Bool :=
  (config.defaultIgnores && m.isDefaultIgnored) || config.ignores.any fun ignore =>
    ignore.pattern.isMatch m.raw

end Config

end CommitLint
