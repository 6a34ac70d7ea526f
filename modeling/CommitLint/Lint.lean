import CommitLint.Config.Basic
import CommitLint.Report

/-!
# Linting

A message that the configuration skips has the report of a skipped message, every other one the
report of its rules.
-/

namespace CommitLint

/-- The report of a message. -/
def Config.lint (config : Config) (m : Message) : Report :=
  if config.skips m then Report.skipped m.header else validate m config.rules

theorem Config.lint_of_skips {config : Config} {m : Message} (h : config.skips m = true) :
    config.lint m = Report.skipped m.header := by
  simp [Config.lint, h]

theorem Config.lint_of_not_skips {config : Config} {m : Message} (h : config.skips m = false) :
    config.lint m = validate m config.rules := by
  simp [Config.lint, h]

end CommitLint
