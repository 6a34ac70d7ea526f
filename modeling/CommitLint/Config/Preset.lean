/-!
# Starter configurations

The texts that a new configuration file can start with.
-/

namespace CommitLint

/-- A starter configuration. -/
inductive Preset
  /-- The standard rules, explained. -/
  | standard
  /-- The rules for conventional headers and for the body as well. -/
  | conventional
  deriving DecidableEq, Repr

namespace Preset

/-- The lines of the starter configuration. -/
def lines : Preset → List String
  | standard =>
    ["# cmlint configuration",
     "# Author: Eshan Roy",
     "# SPDX-License-Identifier: MIT",
     "",
     "# Skip merge, revert, fixup! and squash! messages",
     "default-ignores = true",
     "",
     "# Extra patterns; matching messages are not linted",
     "ignores = []",
     "",
     "# Each rule is [severity, applicability, value]",
     "#   severity:      0 = off, 1 = warning, 2 = error",
     "#   applicability: \"always\", or \"never\" to invert the rule",
     "[rules]",
     "header-max-length = [2, \"always\", 72]",
     "header-min-length = [2, \"always\", 10]",
     "signed-off-by = [2, \"always\", \"Signed-off-by:\"]"]
  | conventional =>
    ["# cmlint configuration (conventional commits)",
     "default-ignores = true",
     "",
     "[rules]",
     "header-max-length = [2, \"always\", 72]",
     "header-min-length = [2, \"always\", 10]",
     "signed-off-by = [2, \"always\", \"Signed-off-by:\"]",
     "type-enum = [2, \"always\", [\"build\", \"chore\", \"ci\", \"docs\", \"feat\", \"fix\", \"perf\", "
       ++ "\"refactor\", \"revert\", \"style\", \"test\"]]",
     "type-empty = [2, \"never\"]",
     "subject-empty = [2, \"never\"]",
     "subject-full-stop = [2, \"never\", \".\"]",
     "body-leading-blank = [1, \"always\"]",
     "body-max-line-length = [2, \"always\", 100]"]

def text (preset : Preset) : String := String.join (preset.lines.map (· ++ "\n"))

end Preset

end CommitLint
