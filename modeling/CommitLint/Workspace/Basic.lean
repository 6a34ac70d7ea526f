import CommitLint.Files.FileTree
import CommitLint.History.Object

/-!
# Workspaces

A workspace is what a run finds around it: the files, the current directory, the variables that are
looked at, and what the repositories among the files record.
-/

namespace CommitLint

/-- The variables that are looked at. -/
structure Variables where
  /-- The home directory. -/
  home : Option String
  /-- The directory of all configurations. -/
  configHome : Option String
  /-- The configuration file to use. -/
  configFile : Option String
  deriving DecidableEq, Repr

/-- What a run finds around it. -/
structure Workspace where
  /-- The files. -/
  files : FileTree
  /-- The current directory. Nothing stands there once it has been removed. -/
  place : Location
  /-- The variables. -/
  «variables» : Variables
  /-- What is recorded in the repositories, by the location of each. -/
  repositories : List (Location × History)
  deriving DecidableEq

namespace Workspace

/-- The path of the current directory, if it still stands. -/
def currentPath? (w : Workspace) : Option String :=
  if w.files.isDirectory w.place then some (Path.ofNames w.place) else none

/-- Whether something stands where a path leads to. -/
def pathExists (w : Workspace) (path : String) : Bool := w.files.pathExists w.place path

/-- Whether a file stands where a path leads to. -/
def isFile (w : Workspace) (path : String) : Bool := w.files.isFile w.place path

def readBytes (w : Workspace) (path : String) : Except FileError ByteArray :=
  w.files.readBytes w.place path

def readText (w : Workspace) (path : String) : Except FileError String :=
  w.files.readText w.place path

/-- What comes of writing a file, and the workspace after it. What is recorded in a repository is
not read again, should the file be one of its own. -/
def writeText (w : Workspace) (path text : String) : Except FileError Unit × Workspace :=
  let (result, files) := w.files.writeText w.place path text
  (result, { w with files := files })

end Workspace

end CommitLint
