import CommitLint.Message
import CommitLint.Pattern.Basic

/-!
# Messages that are skipped

Messages that tools write, of merges, reverts and commits to be folded into others, are told by
their first line. `defaultIgnores` are the patterns of such messages; each is tried on the header
and on the whole message.
-/

namespace CommitLint

open Pattern

/-- Line ends, any number of them, and then the end of the text. -/
def blankTail : Pattern :=
  seq (star (seq (optional (literal "\r")) (literal "\n"))) (assertion .textEnd)

/-- A text that starts with the parts one after the other. -/
def opening (parts : List Pattern) : Pattern := seq (assertion .textStart) (inOrder parts)

/-- The patterns of the messages that are skipped unless asked otherwise. -/
def defaultIgnores : List Pattern :=
  [opening [alt (literal "Merge pull request")
     (seq (alt (inOrder [literal "Merge ", restOfLine, literal " into ", restOfLine])
       (inOrder [literal "Merge branch ", restOfLine])) blankTail)],
   opening [literal "Merge tag ", restOfLine, blankTail],
   opening [alt (literal "R") (literal "r"), literal "evert ", restOfLine],
   opening [oneOf [literal "amend", literal "fixup", literal "squash"], literal "!"],
   opening [literal "Merged ", restOfLine, alt (literal "in") (literal "into"),
     literal " ", restOfLine],
   opening [literal "Merge remote-tracking branch", star (char .space), restOfLine],
   opening [literal "Automatic merge", restOfLine],
   opening [literal "Auto-merged ", restOfLine, literal " into ", restOfLine]]

/-- Whether the message is one of those that are skipped unless asked otherwise. -/
def Message.isDefaultIgnored (m : Message) : Bool :=
  defaultIgnores.any fun p => p.isMatch m.header || p.isMatch m.raw

end CommitLint
