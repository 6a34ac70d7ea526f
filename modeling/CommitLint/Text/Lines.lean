/-!
# Lines of a text

A text is cut after each line feed. `lineChunks` keeps the terminators, so that the chunks joined
give the text back (`flatten_lineChunks`); `lines` drops from each chunk its line feed and one
carriage return before it. A last chunk without a line feed is kept whole, a carriage return at its
end included.
-/

namespace CommitLint.Text

/-- Characters cut after each line feed, terminators kept. -/
def lineChunks : List Char → List (List Char)
  | [] => []
  | c :: cs =>
    if c = '\n' then [c] :: lineChunks cs
    else match lineChunks cs with
      | [] => [[c]]
      | chunk :: chunks => (c :: chunk) :: chunks

/-- A chunk without its line feed and without one carriage return before that. -/
def chunkContent (chunk : List Char) : List Char :=
  match chunk.reverse with
  | '\n' :: '\r' :: before => before.reverse
  | '\n' :: before => before.reverse
  | _ => chunk

/-- The lines of a text, without their terminators. -/
def lines (s : String) : List String :=
  (lineChunks s.toList).map fun chunk => String.ofList (chunkContent chunk)

def joinLines (ls : List String) : String := "\n".intercalate ls

theorem lineChunks_nil : lineChunks [] = [] := rfl

theorem lineChunks_newline (cs : List Char) :
    lineChunks ('\n' :: cs) = ['\n'] :: lineChunks cs := by
  simp [lineChunks]

/-- Nothing is lost by cutting. -/
theorem flatten_lineChunks (cs : List Char) : (lineChunks cs).flatten = cs := by
  induction cs with
  | nil => rfl
  | cons c cs ih =>
    rw [lineChunks]
    split
    · simp [ih]
    · split
      · next h => simp [h] at ih; simp [← ih]
      · next h => rw [h] at ih; simp [← ih]

end CommitLint.Text
