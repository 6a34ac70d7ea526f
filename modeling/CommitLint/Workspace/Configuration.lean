import CommitLint.Config.Reader
import CommitLint.Workspace.Basic

/-!
# The configuration in force

The configuration file is the first of these that is a file: in the current directory and in each
above it a file of one of three names, in the home directory the same, and at last one in the
directory of all configurations. Without any the standard configuration holds.
-/

namespace CommitLint

namespace Variables

/-- The home directory, if it is named. -/
def homeDirectory? (v : Variables) : Option String := v.home.filter (· ≠ "")

/-- The directory of all configurations: one named by a path from the root, or else the usual one at
home. -/
def configDirectory? (v : Variables) : Option String :=
  match v.configHome.filter Path.isAbsolute with
  | some directory => some directory
  | none => v.homeDirectory?.map fun home => Path.join home ".config"

end Variables

namespace Config

/-- The names that a configuration file may have in a directory, in order of precedence. -/
def fileNames : List String := ["cmlint.toml", ".cmlint.toml", ".config/cmlint.toml"]

/-- The paths at which a directory may have a configuration file. -/
def candidatesIn (directory : String) : List String := fileNames.map (Path.join directory)

/-- The paths at which the configuration file for a directory may stand, in order of precedence. -/
def candidates (v : Variables) (start : String) : List String :=
  (Path.ancestors start).flatMap candidatesIn ++ v.homeDirectory?.toList.flatMap candidatesIn
    ++ v.configDirectory?.toList.map fun directory =>
      Path.join (Path.join directory "cmlint") "config.toml"

end Config

namespace Workspace

/-- The configuration file for a directory. -/
def findConfigFrom (w : Workspace) (start : String) : Option String :=
  (Config.candidates w.variables start).find? w.isFile

/-- The configuration file for the current directory. -/
def findConfig (w : Workspace) : Option String := w.currentPath?.bind w.findConfigFrom

/-- The configuration in a file. -/
def loadConfigFrom (w : Workspace) (path : String) : Except ConfigError Config :=
  if !w.pathExists path then .error (.notFound path)
  else
    match w.readText path with
    | .error e => .error (.unreadable ("Failed to read config file: " ++ e.message))
    | .ok text => Config.parse text

/-- The configuration in force. -/
def loadConfig (w : Workspace) : Except ConfigError Config :=
  match w.findConfig with
  | some path => w.loadConfigFrom path
  | none => .ok Config.standard

/-- The configuration in a file that is named, or else the one in force. -/
def chosenConfig (w : Workspace) (path : Option String) : Except ConfigError Config :=
  match path with
  | some path => w.loadConfigFrom path
  | none => w.loadConfig

/-- What is found is a file. -/
theorem isFile_of_findConfigFrom {w : Workspace} {start path : String}
    (h : w.findConfigFrom start = some path) :
    w.isFile path = true := List.find?_some h

theorem loadConfig_of_findConfig_none {w : Workspace} (h : w.findConfig = none) :
    w.loadConfig = .ok Config.standard := by
  rw [loadConfig, h]

end Workspace

end CommitLint
