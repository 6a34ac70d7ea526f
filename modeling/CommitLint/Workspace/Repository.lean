import CommitLint.History.Range
import CommitLint.Workspace.Basic

/-!
# The repository in force

The repository is the first found from the current directory upwards: in the directory of a
repository's usual name, where a file of that name leads to, or in the directory itself.
-/

namespace CommitLint

namespace Workspace

/-- The usual name of a repository in a directory. -/
def repositoryName : String := ".git"

/-- What stands where a location leads to, when links on the way are followed. -/
def reached? (w : Workspace) (place : Location) : Option Node :=
  (w.files.resolve? place).bind w.files.get?

/-- Whether a directory is a repository: it has a head, objects and references. -/
def isRepository (w : Workspace) (place : Location) : Bool :=
  (match w.reached? (place ++ [History.headName]) with
    | some (.file _) => true
    | _ => false)
  && w.reached? (place ++ ["objects"]) = some .directory
  && w.reached? (place ++ ["refs"]) = some .directory

/-- Whether a character is a blank of a link. -/
def isLinkBlank (c : Char) : Bool := c = ' ' || (decide ('\t' ≤ c) && decide (c ≤ '\r'))

/-- The start of a link. -/
def linkMark : String := "gitdir:"

/-- The path that a link holds. -/
def linkTarget? (link : String) : Option String :=
  let cs := (link.toList.reverse.dropWhile isLinkBlank).reverse
  if linkMark.toList.isPrefixOf cs ∧ cs.length ≠ linkMark.length then
    some (String.ofList ((cs.drop linkMark.length).dropWhile isLinkBlank))
  else none

/-- The repository that a link in a directory leads to. -/
def linkedRepository (w : Workspace) (place : Location) (link : String) :
    Except HistoryError Location :=
  match linkTarget? link with
  | none =>
    .error (.cannotOpen ("the \x60.git\x60 file at '" ++ Path.ofNames (place ++ [repositoryName])
      ++ "' is malformed"))
  | some path =>
    match w.files.locate place path with
    | .ok target => if w.isRepository target then .ok target else .error .notARepository
    | .error _ => .error .notARepository

/-- The first repository of some directories. -/
def repositoryAmong (w : Workspace) : List Location → Except HistoryError Location
  | [] => .error .notARepository
  | place :: others =>
    let usual := place ++ [repositoryName]
    match w.reached? usual with
    | some (.file link) => w.linkedRepository place (Text.decodeLossy link)
    | _ =>
      if w.isRepository usual then .ok ((w.files.resolve? usual).getD usual)
      else if w.isRepository place then .ok place
      else w.repositoryAmong others

/-- A location and all above it, the nearest first. -/
def upwards (place : Location) : List Location :=
  (List.range (place.length + 1)).reverse.map place.take

/-- What the repository in force records. -/
def history (w : Workspace) : Except HistoryError History := do
  if !w.files.isDirectory w.place then
    throw (.cannotOpen ("Failed to get current directory: " ++ FileError.notFound.message))
  let place ← w.repositoryAmong (upwards w.place)
  return ((w.repositories.find? fun e => e.1 = place).map Prod.snd).getD History.initial

/-- A commit's identifier and message. -/
abbrev CommitMessage := ObjectId × String

/-- The commit that a revision names. -/
def commit (w : Workspace) (revision : String) : Except HistoryError CommitMessage := do
  let (id, c) ← (← w.history).findCommit revision
  return (id, c.text)

/-- The commits that a range stands for, parents first. -/
def commits (w : Workspace) (range : String) : Except HistoryError (List CommitMessage) := do
  return (← (← w.history).commitsIn range).map fun (id, c) => (id, c.text)

end Workspace

end CommitLint
