import CommitLint.Text.Blank
import CommitLint.Text.Lines

/-!
# Commit messages

A message is a header line and a body. `Message.parse` reads the text of a recorded commit,
`Message.ofEditFile` the file an editor leaves behind, in which comment lines and all from the
scissors line onward do not count. Both drop blank lines at the two ends and keep those between.
-/

namespace CommitLint

open Text

/-- A commit message split into header and body. -/
structure Message where
  /-- The kept lines joined by line feeds. -/
  raw : String
  /-- The first kept line. -/
  header : String
  /-- Every kept line after the header, blank ones included. -/
  body : List String
  deriving DecidableEq, Repr

/-- The line after which an edited message is cut off. -/
def scissors : String := "# ------------------------ >8 ------------------------"

/-- Whether a line of an edited message is a comment. -/
def isComment (line : String) : Bool := line.toList.head? = some '#'

/-- Lines without the blank ones at either end. -/
def dropBlankEnds (ls : List String) : List String :=
  ((ls.dropWhile isBlank).reverse.dropWhile isBlank).reverse

/-- The lines of an edited message that count: those before the scissors line that are no
comments. -/
def countedLines (ls : List String) : List String :=
  (ls.takeWhile (· ≠ scissors)).filter (!isComment ·)

namespace Message

/-- The message whose lines are those kept of `ls`. -/
def ofLines (ls : List String) : Message :=
  let kept := dropBlankEnds ls
  { raw := joinLines kept
    header := kept.head?.getD ""
    body := kept.tail }

/-- The message of a text as recorded in a commit or typed by a user. -/
def parse (text : String) : Message := ofLines (lines text)

/-- The message of a file left behind by an editor. -/
def ofEditFile (content : String) : Message := ofLines (countedLines (lines content))

/-- Whether the message has no content at all. -/
def isEmpty (m : Message) : Bool := m.header.isEmpty && m.body.isEmpty

theorem header_ofLines (ls : List String) :
    (ofLines ls).header = (dropBlankEnds ls).head?.getD "" :=
  rfl

theorem body_ofLines (ls : List String) : (ofLines ls).body = (dropBlankEnds ls).tail := rfl

theorem raw_ofLines (ls : List String) : (ofLines ls).raw = joinLines (dropBlankEnds ls) := rfl

end Message

end CommitLint
