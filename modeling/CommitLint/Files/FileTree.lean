import CommitLint.Files.Path

/-!
# File trees

A file tree says what stands at each location: a file with its content, a directory, a device, or a
name for what stands elsewhere. It also says where the system lets nothing be read, and how it takes
what is written. `FileTree.locate` follows a path from a directory to a location as an operating
system does, through links, and fails for the same reasons.
-/

namespace CommitLint

/-- A place in a file tree: the names on the way from the root. -/
abbrev Location := List String

/-- Contents are compared byte by byte. -/
local instance decidableEqContent : DecidableEq ByteArray := ByteArray.instDecidableEq

/-- Why a file cannot be reached, read or written. -/
inductive FileError
  | notFound
  /-- A name on the way is not that of a directory. -/
  | notADirectory
  | isADirectory
  /-- The path or a name in it is too long. -/
  | nameTooLong
  | tooManyLinks
  | denied
  | noSpace
  /-- The path has a character that none can have. -/
  | invalidPath
  /-- The content is no text. -/
  | notText
  /-- Any other cause, in the words of the system. -/
  | other (message : String)
  deriving DecidableEq, Repr

/-- A failure in the words of the system. -/
def FileError.message : FileError → String
  | notFound => "No such file or directory (os error 2)"
  | notADirectory => "Not a directory (os error 20)"
  | isADirectory => "Is a directory (os error 21)"
  | nameTooLong => "File name too long (os error 36)"
  | tooManyLinks => "Too many levels of symbolic links (os error 40)"
  | denied => "Permission denied (os error 13)"
  | noSpace => "No space left on device (os error 28)"
  | invalidPath => "file name contained an unexpected NUL byte"
  | notText => "stream did not contain valid UTF-8"
  | other message => message

/-- What stands at a location. -/
inductive Node
  /-- A file with its content. -/
  | file (content : ByteArray)
  | directory
  /-- What is neither, such as a device or a pipe, and what is read from it. What is written to it
  is not kept. -/
  | device (content : ByteArray)
  /-- A path that stands for what it leads to, if it leads anywhere. -/
  | link (path : String)
  /-- Another name of the file at a location. -/
  | twin (place : Location)
  deriving DecidableEq

def Node.leadsOn : Node → Bool
  | file _ | device _ => false
  | directory | link _ | twin _ => true

/-- What is read from a node that was reached. -/
def Node.read : Node → Except FileError ByteArray
  | file content | device content => .ok content
  | directory => .error .isADirectory
  -- A name is always followed, unless names lead to names only.
  | link _ | twin _ => .error .tooManyLinks

/-- How the system takes what is written to a file. -/
inductive Writing
  /-- All of it is written. -/
  | whole
  /-- The file is not opened. -/
  | refused (cause : FileError)
  /-- The file is emptied, and after so many bytes no more is written. -/
  | cut (size : Nat) (cause : FileError)
  deriving DecidableEq

/-- What stands where, and how the system lets it be used. The root is always a directory. -/
structure FileTree where
  /-- The locations at which something stands. -/
  nodes : List (Location × Node)
  /-- The locations at which nothing can be read, or looked up in a directory, and why. This bears
  also on what is yet to be made there. -/
  faults : List (Location × FileError) := []
  writing : Writing := .whole
  deriving DecidableEq

namespace FileTree

/-- The tree in which nothing stands but the root. -/
def empty : FileTree := ⟨[], [], .whole⟩

/-- What stands at a location. -/
def get? (tree : FileTree) (place : Location) : Option Node :=
  if place = [] then some .directory else (tree.nodes.find? fun e => e.1 = place).map Prod.snd

/-- Why nothing can be read at a location, if so. -/
def fault? (tree : FileTree) (place : Location) : Option FileError :=
  (tree.faults.find? fun e => e.1 = place).map Prod.snd

/-- Whether a directory stands at a location. -/
def isDirectory (tree : FileTree) (place : Location) : Bool := tree.get? place = some .directory

/-- The tree with a node at a location, whatever stood there before. -/
def put (tree : FileTree) (place : Location) (node : Node) : FileTree :=
  { tree with nodes := (place, node) :: tree.nodes.filter fun e => e.1 ≠ place }

/-- The tree without a location and all below it. -/
def remove (tree : FileTree) (place : Location) : FileTree :=
  { tree with nodes := tree.nodes.filter fun e => !place.isPrefixOf e.1 }

/-- The tree in which each of the locations that is free has a directory. -/
def addDirectories (tree : FileTree) (places : List Location) : FileTree :=
  places.foldl
    (fun tree place => if (tree.get? place).isSome then tree else tree.put place .directory) tree

/-- The locations on the way to a location, itself included. -/
def along (place : Location) : List Location :=
  (List.range place.length).map fun n => place.take (n + 1)

/-- The tree with a directory at a location and at each above it. -/
def makeDirectory (tree : FileTree) (place : Location) : FileTree :=
  tree.addDirectories (along place)

/-! ### Following paths -/

/-- The number of bytes that a name may have. -/
def maxNameSize : Nat := 255

/-- The number of bytes that a path may have, less than. -/
def maxPathSize : Nat := 4096

/-- The number of links that may be followed for one path. -/
def maxLinks : Nat := 40

/-- Where a name in a path leads. -/
inductive Turn
  /-- To a directory, from which the other names go on. -/
  | to (place : Location)
  /-- To a location from which no way leads on, so that other names fail for a cause. -/
  | last (place : Location) (cause : FileError)
  /-- To a link. -/
  | link (path : String)
  deriving DecidableEq

/-- Where a name leads in a directory that can be looked into. -/
def enter (tree : FileTree) (place : Location) (name : String) : Except FileError Turn :=
  if name.utf8ByteSize > maxNameSize then .error .nameTooLong
  else if !tree.isDirectory place then .error .notFound
  else match tree.get? (place ++ [name]) with
    | some .directory => .ok (.to (place ++ [name]))
    | some (.link path) => .ok (.link path)
    | some (.twin other) => .ok (.last other .notADirectory)
    | some (.file _) | some (.device _) => .ok (.last (place ++ [name]) .notADirectory)
    | none => .ok (.last (place ++ [name]) .notFound)

/-- Why nothing can be looked up in the directory at a location, if so. -/
def barrier? (tree : FileTree) (place : Location) : Option FileError :=
  if tree.isDirectory place then tree.fault? place else none

/-- Where a name leads from a location. -/
def turn (tree : FileTree) (place : Location) (name : String) : Except FileError Turn :=
  if name = "" then .ok (.to place)
  else match tree.barrier? place with
    | some cause => .error cause
    | none =>
      if name = "." then .ok (.to place)
      else if name = ".." then .ok (.to place.dropLast)
      else tree.enter place name

/-- The location that the rest of a path leads to, when it is known what comes of a link. Only the
last name may be that of nothing or of a file. -/
def follow (tree : FileTree) (detour : Location → String → List String → Except FileError Location)
    (place : Location) : List String → Except FileError Location
  | [] => .ok place
  | name :: rest =>
    match tree.turn place name with
    | .error cause => .error cause
    | .ok (.to next) => tree.follow detour next rest
    | .ok (.last spot cause) => if rest = [] then .ok spot else .error cause
    | .ok (.link path) => detour place path rest

def namesIn (path : String) : List String := (Path.parts path.toList).map String.ofList

/-- Where a path starts that is used in a directory. -/
def startOf (base : Location) (path : String) : Location :=
  if Path.isAbsolute path then [] else base

/-- The location that the rest of a path leads to, when so many links may still be followed. -/
def followLinks (tree : FileTree) : Nat → Location → List String → Except FileError Location
  | 0 => tree.follow fun _ _ _ => .error .tooManyLinks
  | links + 1 => tree.follow fun place path rest =>
      if path = "" then .error .notFound
      else tree.followLinks links (startOf place path) (namesIn path ++ rest)

/-- The location that a path leads to from a directory. -/
def locate (tree : FileTree) (base : Location) (path : String) : Except FileError Location :=
  if path.toList.contains '\x00' then .error .invalidPath
  else if path = "" then .error .notFound
  else if path.utf8ByteSize ≥ maxPathSize then .error .nameTooLong
  else tree.followLinks maxLinks (startOf base path) (namesIn path)

/-- The location that another one leads to when links on the way are followed. -/
def resolve? (tree : FileTree) (place : Location) : Option Location :=
  (tree.followLinks maxLinks [] place).toOption

/-! ### What a path leads to -/

/-- What stands where a path leads to. -/
def lookup (tree : FileTree) (base : Location) (path : String) : Except FileError Node := do
  match tree.get? (← tree.locate base path) with
  | some node => .ok node
  | none => .error .notFound

/-- Whether something stands where a path leads to. -/
def pathExists (tree : FileTree) (base : Location) (path : String) : Bool :=
  (tree.lookup base path).isOk

/-- Whether a file stands where a path leads to. -/
def isFile (tree : FileTree) (base : Location) (path : String) : Bool :=
  match tree.lookup base path with
  | .ok (.file _) => true
  | _ => false

/-- What is read at a location. -/
def readAt (tree : FileTree) (place : Location) : Except FileError ByteArray :=
  match tree.get? place with
  | none => .error .notFound
  | some node =>
    match tree.fault? place with
    | some cause => .error cause
    | none => node.read

def readBytes (tree : FileTree) (base : Location) (path : String) : Except FileError ByteArray := do
  tree.readAt (← tree.locate base path)

def readText (tree : FileTree) (base : Location) (path : String) : Except FileError String := do
  match String.fromUTF8? (← tree.readBytes base path) with
  | some text => .ok text
  | none => .error .notText

/-! ### Writing -/

/-- The tree in which what stands at a location holds a content, and is a file unless it keeps
nothing. -/
def fill (tree : FileTree) (place : Location) (content : ByteArray) : FileTree :=
  match tree.get? place with
  | some (.device _) => tree
  | _ => tree.put place (.file content)

/-- What comes of writing a file, whatever it held before, and the tree after it. A file that is
opened is emptied first. -/
def writeText (tree : FileTree) (base : Location) (path text : String) :
    Except FileError Unit × FileTree :=
  match tree.locate base path with
  | .error cause => (.error cause, tree)
  | .ok place =>
    if tree.isDirectory place then (.error .isADirectory, tree)
    else match tree.writing with
      | .whole => (.ok (), tree.fill place text.toUTF8)
      | .refused cause => (.error cause, tree)
      | .cut size cause => (.error cause, tree.fill place (text.toUTF8.extract 0 size))

theorem get?_put_self (tree : FileTree) {place : Location} (node : Node) (h : place ≠ []) :
    (tree.put place node).get? place = some node := by
  simp [get?, put, h]

theorem get?_put_of_ne (tree : FileTree) {place other : Location} (node : Node)
    (h : other ≠ place) : (tree.put place node).get? other = tree.get? other := by
  by_cases root : other = []
  · simp [get?, root]
  · simp only [get?, put, root, ↓reduceIte, List.find?_cons, Ne.symm h, decide_false]
    congr 1
    rw [List.find?_filter]
    apply congrArg (fun p => List.find? p tree.nodes)
    funext e
    by_cases eq : e.1 = other
    · simp [eq, h]
    · simp [eq]

@[simp] theorem fault?_fill (tree : FileTree) (place other : Location) (content : ByteArray) :
    (tree.fill place content).fault? other = tree.fault? other := by
  rw [fill]
  split <;> rfl

theorem get?_fill_of_ne (tree : FileTree) {place other : Location} (content : ByteArray)
    (h : other ≠ place) : (tree.fill place content).get? other = tree.get? other := by
  rw [fill]
  split
  · rfl
  · exact get?_put_of_ne tree _ h

/-- What keeps nothing stays as it is, and anything else is a file with the content. -/
theorem get?_fill_self (tree : FileTree) {place : Location} (content : ByteArray)
    (h : place ≠ []) :
    (tree.fill place content).get? place =
      some (match tree.get? place with
        | some (.device kept) => .device kept
        | _ => .file content) := by
  rw [fill]
  split
  · next kept stands => exact stands
  · exact get?_put_self tree _ h

end FileTree

end CommitLint
