/-!
# Paths

A path is a text of names with slashes between them. Joining and going up work on the text alone and
keep what they do not touch as it was written.
-/

namespace CommitLint.Path

def isAbsolute (path : String) : Bool := path.toList.head? = some '/'

/-- A path below another, unless it starts at the root itself. -/
def join (base path : String) : String :=
  if isAbsolute path ∨ base = "" then path
  else if base.toList.getLast? = some '/' then base ++ path
  else base ++ "/" ++ path

def ofNames (names : List String) : String :=
  if names = [] then "/" else String.join (names.map ("/" ++ ·))

/-- Characters cut at each slash. There is one part more than there are slashes. -/
def parts : List Char → List (List Char)
  | [] => [[]]
  | c :: cs =>
    if c = '/' then [] :: parts cs
    else match parts cs with
      | part :: others => (c :: part) :: others
      | [] => [[c]]

/-- A path from its end on, without what adds nothing there: slashes, and names that stand for the
place itself. -/
def dropIdle : List Char → List Char
  | ['/'] => ['/']
  | '/' :: rest => dropIdle rest
  | '.' :: '/' :: rest => dropIdle ('/' :: rest)
  | cs => cs

/-- The path of the place above, from its end on: there is none above the root and above nothing. -/
def parentReversed? (reversed : List Char) : Option (List Char) :=
  match dropIdle reversed with
  | [] => none
  | ['/'] => none
  | cs =>
    match cs.dropWhile (· ≠ '/') with
    | [] => some []
    | rest => some (dropIdle rest)

theorem length_dropIdle_le (cs : List Char) : (dropIdle cs).length ≤ cs.length := by
  fun_induction dropIdle cs <;> simp_all <;> omega

/-- What starts with a slash once idle parts are dropped is the root. -/
theorem eq_nil_of_dropIdle_eq {cs rest : List Char} (h : dropIdle cs = '/' :: rest) :
    rest = [] := by
  fun_induction dropIdle cs <;> simp_all

theorem length_dropWhile_lt {cs : List Char} (ne : cs ≠ []) (h : cs.head? ≠ some '/') :
    (cs.dropWhile (· ≠ '/')).length < cs.length := by
  cases cs with
  | nil => exact absurd rfl ne
  | cons c rest =>
    have other : c ≠ '/' := by simpa using h
    rw [List.dropWhile_cons_of_pos (by simpa using other), List.length_cons]
    exact Nat.lt_succ_of_le (List.dropWhile_sublist _).length_le

/-- Going up makes a path shorter. -/
theorem length_lt_of_parentReversed? {cs parent : List Char}
    (h : parentReversed? cs = some parent) :
    parent.length < cs.length := by
  have bound := length_dropIdle_le cs
  have root := @eq_nil_of_dropIdle_eq cs
  simp only [parentReversed?] at h
  generalize dropIdle cs = trimmed at *
  split at h
  · simp at h
  · simp at h
  · next ne notRoot =>
    have head : trimmed.head? ≠ some '/' := by
      intro eq
      cases trimmed with
      | nil => simp at eq
      | cons c rest =>
        obtain rfl : c = '/' := by simpa using eq
        exact notRoot (by rw [root rfl])
    have shorter := length_dropWhile_lt (by simpa using ne) head
    split at h
    · next empty =>
      rw [empty] at shorter
      obtain rfl := (Option.some.inj h).symm
      exact Nat.lt_of_lt_of_le shorter bound
    · obtain rfl := (Option.some.inj h).symm
      exact Nat.lt_of_le_of_lt (length_dropIdle_le _) (Nat.lt_of_lt_of_le shorter bound)

/-- A path and the paths above it, from its end on. -/
def upward (reversed : List Char) : List (List Char) :=
  reversed :: match h : parentReversed? reversed with
    | none => []
    | some parent =>
      have := length_lt_of_parentReversed? h
      upward parent
termination_by reversed.length

/-- A path and all paths above it, the nearest first. -/
def ancestors (path : String) : List String :=
  (upward path.toList.reverse).map fun reversed => String.ofList reversed.reverse

end CommitLint.Path
