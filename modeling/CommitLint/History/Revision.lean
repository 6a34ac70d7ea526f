import CommitLint.Files.Path
import CommitLint.History.Object
import CommitLint.Text.Affix

/-!
# Revisions

A revision names an object: by an identifier or the start of one, or by a reference, and then
perhaps by steps from there to parents and to what a tag or a commit stands for. `History.resolve`
finds the object; what is reported when there is none is the first thing that goes wrong from left
to right.

The notation has more forms, and these are left out: what a reference referred to before
(`HEAD@{1}`), a commit told by a pattern of its message (`HEAD^{/fix}`, `:/fix`), and what stands at
a path (`HEAD:name`). They are read as names and steps like any others, and so name nothing.
-/

namespace CommitLint

/-- Why a revision names no object or no commit. -/
inductive RevisionError
  /-- There is no object of this name. -/
  | notFound (name : String)
  /-- A commit does not have this parent, counted from zero. -/
  | noParent (n : Nat)
  /-- The text breaks the rules of the notation. -/
  | malformed (revision : String)
  /-- The object is not recorded. -/
  | missing (id : ObjectId)
  /-- The object does not lead to one of this kind. -/
  | wrongKind (id : ObjectId) (kind : ObjectKind)
  /-- The start of an identifier has too few digits. -/
  | shortId
  /-- Several identifiers start like this. -/
  | ambiguousId
  /-- The text has a character that none can have. -/
  | invalidText
  deriving DecidableEq

/-- The failure in words. -/
def RevisionError.message : RevisionError → String
  | notFound name => "revspec '" ++ name ++ "' not found"
  | noParent n => "parent " ++ Nat.repr n ++ " does not exist"
  | malformed revision =>
    "failed to parse revision specifier - Invalid pattern '" ++ revision ++ "'"
  | missing id => "object not found - no match for id (" ++ id.digits ++ ")"
  | wrongKind id kind =>
    "the git_object of id '" ++ id.digits ++ "' can not be successfully peeled into a " ++ kind.name
      ++ " (git_object_t=" ++ Nat.repr kind.number ++ ")."
  | shortId => "ambiguous lookup - OID prefix is too short"
  | ambiguousId => "ambiguous OID prefix - multiple matches in loose objects"
  | invalidText => "data contained a nul byte that could not be represented as a string"

namespace Revision

/-! ### Notation -/

/-- A step from one object to another. -/
inductive Step
  /-- To a parent, counted from one; zero stays. There is none for a number that is too large. -/
  | parent (n : Option Nat)
  /-- So many times to the first parent. There is none for a number that is too large. -/
  | ancestor (n : Option Nat)
  /-- To the object of a kind that the object stands for, or of any kind but a tag. -/
  | peel (kind : Option ObjectKind)
  /-- To nowhere: the notation is broken. -/
  | broken
  deriving DecidableEq, Repr

/-- The greatest number that may be written. -/
def maxCount : Nat := 0x7FFFFFFF

def decimal (digits : List Char) : Nat := digits.foldl (fun n c => n * 10 + (c.toNat - '0'.toNat)) 0

/-- The number at the front of characters: one if they have none there, and nothing if it is too
large. -/
def count (cs : List Char) : Option Nat :=
  let digits := cs.takeWhile Char.isDigit
  if digits = [] then some 1 else if decimal digits ≤ maxCount then some (decimal digits) else none

/-- The characters after the number at their front. -/
def afterCount (cs : List Char) : List Char := cs.dropWhile Char.isDigit

theorem length_afterCount_le (cs : List Char) : (afterCount cs).length ≤ cs.length :=
  (List.dropWhile_sublist _).length_le

/-- The sum of two numbers, if neither is too large. -/
def sum? (m n : Option Nat) : Option Nat := m.bind fun m => n.map (m + ·)

/-- The numbers of a run of tildes added up, and what follows the run. -/
def tildes : List Char → Option Nat × List Char
  | '~' :: cs =>
    have := length_afterCount_le cs
    let others := tildes (afterCount cs)
    (sum? (count cs) others.1, others.2)
  | cs => (some 0, cs)
termination_by cs => cs.length

theorem length_tildes_le (cs : List Char) : (tildes cs).2.length ≤ cs.length := by
  fun_induction tildes cs with
  | case1 cs bound _ ih => exact Nat.le_succ_of_le (Nat.le_trans ih bound)
  | case2 cs _ => exact Nat.le_refl _

/-- The step that a name in braces stands for. -/
def peelStep (name : List Char) : Step :=
  if name = [] then .peel none
  else match ObjectKind.ofName? (String.ofList name) with
    | some kind => .peel (some kind)
    | none => .broken

/-- The step at the front of some characters, and what follows it. A pattern in braces is no
step. -/
def firstStep : List Char → Step × List Char
  | '~' :: cs => (.ancestor (tildes ('~' :: cs)).1, (tildes ('~' :: cs)).2)
  | '^' :: '\x7b' :: cs =>
    match Text.splitAtFirst? ['\x7d'] cs with
    | none => (.broken, [])
    | some (name, rest) => (peelStep name, rest)
  | '^' :: cs => (.parent (count cs), afterCount cs)
  | _ => (.broken, [])

/-- A step takes some of the characters. -/
theorem length_firstStep_lt (c : Char) (cs : List Char) :
    (firstStep (c :: cs)).2.length < (c :: cs).length := by
  rw [firstStep.eq_def]
  split
  · next eq =>
    obtain ⟨rfl, rfl⟩ := List.cons.inj eq
    have := length_afterCount_le cs
    have := length_tildes_le (afterCount cs)
    rw [tildes]
    simp only [List.length_cons]
    omega
  · next eq =>
    obtain ⟨rfl, rfl⟩ := List.cons.inj eq
    split
    · simp
    · next found =>
      have := congrArg List.length (Text.eq_append_of_splitAtFirst? found)
      simp only [List.length_append, List.length_cons, List.length_nil] at this
      simp only [List.length_cons]
      omega
  · next eq =>
    obtain ⟨rfl, rfl⟩ := List.cons.inj eq
    have := length_afterCount_le cs
    simp only [List.length_cons]
    omega
  · simp

/-- The steps that characters stand for. -/
def steps : List Char → List Step
  | [] => []
  | c :: cs =>
    (firstStep (c :: cs)).1 :: steps (firstStep (c :: cs)).2
termination_by cs => cs.length
decreasing_by exact length_firstStep_lt c cs

def startsStep (c : Char) : Bool := c = '^' || c = '~'

/-- The name at the front of a revision. The forms that ask for an earlier commit of a reference, or
start with a colon, are part of it; no name has them. -/
def base (revision : String) : String :=
  if revision = "@" then History.headName
  else String.ofList (revision.toList.takeWhile fun c => !startsStep c)

/-- The steps after the name. -/
def stepsOf (revision : String) : List Step :=
  steps (revision.toList.dropWhile fun c => !startsStep c)

/-! ### Names of references -/

/-- Whether a character may stand in the name of a reference. -/
def isNameChar (c : Char) : Bool :=
  decide (' ' < c) && !(['~', '^', ':', '\\', '?', '[', '*'].contains c)

/-- Whether one text stands somewhere in another. -/
def hasPart (part cs : List Char) : Bool := (Text.splitAtFirst? part cs).isSome

/-- Whether characters are a part of a name between slashes. -/
def isNamePart (cs : List Char) : Bool :=
  cs ≠ [] && cs.head? ≠ some '.' && cs.all isNameChar && !hasPart ['.', '.'] cs && !hasPart
    ['@', '\x7b'] cs
    && !".lock".toList.isSuffixOf cs

/-- Whether characters are capitals, with underscores between them. -/
def isCapitals (cs : List Char) : Bool :=
  cs.head? ≠ some '_' && cs.getLast? ≠ some '_' && cs.all fun c => c.isUpper || c = '_'

/-- Whether a text is the full name of a reference. Names of one part are capitals, others do not
start so. -/
def isReferenceName (name : String) : Bool :=
  let parts := Path.parts name.toList
  parts.all isNamePart && name.toList.getLast? ≠ some '.'
    && match parts with
      | [part] => isCapitals part
      | part :: _ => !isCapitals part
      | [] => false

/-- The full names that a name may stand for, in the order in which they are tried. -/
def fullNames (name : String) : List String :=
  [name, "refs/" ++ name, "refs/tags/" ++ name, "refs/heads/" ++ name, "refs/remotes/" ++ name,
   "refs/remotes/" ++ name ++ "/HEAD"]

/-- The least number of digits that the start of an identifier must have. -/
def minPrefixSize : Nat := 4

/-- Whether a character is a hexadecimal digit of either case. -/
def isHexDigit (c : Char) : Bool := isIdDigit c.toLower

/-- Whether characters are a hyphen, a number, and the start of an identifier marked as such, with
more after it. -/
def isDescription : List Char → Bool
  | '-' :: cs =>
    let rest := cs.dropWhile Char.isDigit
    decide (rest.length < cs.length) && ['-', 'g'].isPrefixOf rest &&
      ((rest.drop 2).head?.map isHexDigit).getD false
  | _ => false

/-- The start of an identifier that a description of a commit ends with: a name, a number of commits
after it, and the identifier. -/
def described? (name : List Char) : Option (List Char) :=
  if (List.range name.length).any fun n => isDescription (name.drop (n + 1)) then
    (Text.splitAtFirst? ['-', 'g'] name).map Prod.snd
  else none

end Revision

/-! ### Resolution -/

namespace History

open Revision

/-- An object with its identifier. -/
abbrev Entry := ObjectId × Object

def entry? (h : History) (id : ObjectId) : Option Entry := (h.object? id).map fun o => (id, o)

/-- The entry of an identifier, or the failure that it is missing. -/
def entry (h : History) (id : ObjectId) : Except RevisionError Entry :=
  match h.entry? id with
  | some found => .ok found
  | none => .error (.missing id)

/-- The entry that the digits of an identifier name. -/
def byId? (h : History) (name : String) : Option Entry :=
  (ObjectId.ofDigits? (name.map Char.toLower)).bind h.entry?

/-- The entry that a reference refers to: the first of the full names that exists counts. A name of
which the last full name is none is malformed. -/
def byReference? (h : History) (revision name : String) : Except RevisionError (Option Entry) :=
  match (fullNames name).findSome? fun full =>
    if isReferenceName full then h.target? full else none with
  | some id => (h.entry id).map some
  | none =>
    if (fullNames name).getLast?.all isReferenceName then .ok none else .error (.malformed revision)

/-- The entry of the one identifier that starts with some digits. -/
def byPrefix? (h : History) (digits : List Char) : Except RevisionError (Option Entry) :=
  if !digits.all isHexDigit then .ok none
  else if digits.length < minPrefixSize then .error .shortId
  else
    match h.objects.filter fun e => (digits.map Char.toLower).isPrefixOf e.1.digits.toList with
    | [] => .ok none
    | [found] => .ok (some found)
    | _ => .error .ambiguousId

/-- The entry that a name stands for. -/
def find (h : History) (revision name : String) : Except RevisionError Entry := do
  if name = "" then throw (.malformed revision)
  if let some found := h.byId? name then return found
  if let some found := ← h.byReference? revision name then return found
  if name.length < idSize then
    if let some found := ← h.byPrefix? name.toList then return found
  if let some digits := described? name.toList then
    if let some found := ← h.byPrefix? digits then return found
  throw (.notFound name)

/-- What a tag stands for once no more than `n` other tags are passed; any other object stands for
itself. -/
def untagged? (h : History) : (n : Nat) → Entry → Option Entry
  | 0, _ => none
  | n + 1, (id, o) =>
    match o with
    | .tag target => (h.entry? target).bind (h.untagged? n)
    | o => some (id, o)

/-- The entry of a kind that an entry stands for: a tag for its target, a commit for its tree. -/
def peel? (h : History) (kind : ObjectKind) (e : Entry) : Option Entry :=
  if e.2.kind = kind then some e
  else
    match h.untagged? (h.objects.length + 1) e with
    | none => none
    | some found =>
      if found.2.kind = kind then some found
      else
        match found.2, kind with
        | .commit c, .tree => h.entry? c.tree
        | _, _ => none

def peelError (revision : String) (e : Entry) (kind : ObjectKind) : RevisionError :=
  if e.2.kind = .tag then .wrongKind e.1 kind else .malformed revision

def commitOf (h : History) (e : Entry) : Option (ObjectId × Commit) :=
  match h.peel? .commit e with
  | some (id, .commit c) => some (id, c)
  | _ => none

/-- A parent of a commit, counted from zero. -/
def parent (h : History) (c : Commit) (n : Nat) : Except RevisionError Entry :=
  match c.parents[n]? with
  | some id => h.entry id
  | none => .error (.noParent n)

/-- The entry after some steps to first parents. -/
def ancestor (h : History) (revision : String) : (n : Nat) → Entry → Except RevisionError Entry
  | 0, e =>
    match h.commitOf e with
    | some (id, c) => .ok (id, .commit c)
    | none => .error (peelError revision e .commit)
  | n + 1, e => do
    match h.commitOf e with
    | some (_, c) => ancestor h revision n (← h.parent c 0)
    | none => .error (peelError revision e .commit)

/-- The entry after a step. -/
def step (h : History) (revision : String) (e : Entry) : Step → Except RevisionError Entry
  | .parent (some n) =>
    match h.commitOf e, n with
    | some (id, c), 0 => .ok (id, .commit c)
    | some (_, c), n + 1 => h.parent c n
    | none, _ => .error (peelError revision e .commit)
  | .ancestor (some n) => h.ancestor revision n e
  | .peel (some kind) =>
    match h.peel? kind e with
    | some found => .ok found
    | none => .error (peelError revision e kind)
  | .peel none =>
    match h.untagged? (h.objects.length + 1) e with
    | some found => .ok found
    | none => .error (.wrongKind e.1 .commit)
  | .parent none => .error (.malformed revision)
  | .ancestor none => .error (.malformed revision)
  | .broken => .error (.malformed revision)

/-- The object that a revision names. The numbers of the tildes that come first are read before the
name is looked for. A revision of a form that is left out names none. -/
def resolve (h : History) (revision : String) : Except RevisionError Entry := do
  if revision.toList.contains '\x00' then throw .invalidText
  if (stepsOf revision).head? = some (.ancestor none) then throw (.malformed revision)
  (stepsOf revision).foldlM (h.step revision) (← h.find revision (base revision))

def resolveCommit (h : History) (revision : String) : Except RevisionError (ObjectId × Commit) := do
  let e ← h.resolve revision
  match h.commitOf e with
  | some found => .ok found
  | none => .error (.wrongKind e.1 .commit)

end History

end CommitLint
