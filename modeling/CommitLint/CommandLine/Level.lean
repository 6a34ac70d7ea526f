import CommitLint.CommandLine.Invocation

/-!
# Levels of the command line

A command line has a level before the name of a command, and one after it. Each level knows
switches, which take no value, and parameters, which take one; some are known at every level.
-/

namespace CommitLint.CommandLine

/-- What is on once it is named. -/
inductive Switch
  | debug
  | quiet
  | strict
  | force
  deriving DecidableEq, Repr

namespace Switch

def long : Switch → String
  | debug => "debug"
  | quiet => "quiet"
  | strict => "strict"
  | force => "force"

def short? : Switch → Option Char
  | debug => some 'd'
  | quiet => some 'q'
  | strict => none
  | force => some 'f'

end Switch

/-- What is given a value. -/
inductive Parameter
  | format
  | config
  | file
  | commit
  | range
  | preset
  deriving DecidableEq, Repr

namespace Parameter

/-- The long name of a parameter. The file has none: it is given by its place. -/
def long? : Parameter → Option String
  | format => some "format"
  | config => some "config"
  | file => none
  | commit => some "commit"
  | range => some "range"
  | preset => some "preset"

/-- The letter of a parameter, if it has one. -/
def short? : Parameter → Option Char
  | config => some 'c'
  | _ => none

end Parameter

def presetName : Preset → String
  | .standard => "default"
  | .conventional => "conventional"

def presetOfName? (s : String) : Option Preset :=
  [Preset.standard, Preset.conventional].find? fun preset => presetName preset = s

/-- Whether a parameter takes a value: paths are not empty, and choices are among those there
are. -/
def Parameter.admits (p : Parameter) (value : String) : Bool :=
  match p with
  | format => (Format.ofName? value).isSome
  | preset => (presetOfName? value).isSome
  | config => value ≠ ""
  | file => value ≠ ""
  | commit => true
  | range => true

/-- A level: before any command, or that of a command. -/
inductive Level
  | outer
  | check
  | rules
  | init
  | version
  deriving DecidableEq, Repr

/-- What a name with hyphens stands for. -/
inductive Key
  /-- A switch. -/
  | switch (s : Switch)
  /-- A parameter. -/
  | parameter (p : Parameter)
  /-- The request to be told what may be given. -/
  | help
  /-- The request to be told the version. -/
  | version
  deriving DecidableEq, Repr

namespace Level

def ofName? : String → Option Level
  | "check" => some check
  | "rules" => some rules
  | "init" => some init
  | "version" => some version
  | _ => none

/-- The name that asks to be told what a command may be given. -/
def helpName : String := "help"

/-- Whether a text is the name of a command, that of help included. -/
def isCommandName (s : String) : Bool := s = helpName || (ofName? s).isSome

def switches : Level → List Switch
  | check => [.debug, .quiet, .strict]
  | init => [.debug, .quiet, .force]
  | _ => [.debug, .quiet]

/-- The parameters of a level that have a name. -/
def parameters : Level → List Parameter
  | check => [.format, .config, .commit, .range]
  | init => [.format, .config, .preset]
  | _ => [.format, .config]

/-- The first key of a level that passes a test on switches or on parameters. -/
def findKey? (level : Level) (ofSwitch : Switch → Bool) (ofParameter : Parameter → Bool) :
    Option Key :=
  match level.switches.find? ofSwitch with
  | some s => some (.switch s)
  | none => (level.parameters.find? ofParameter).map .parameter

def longKey? (level : Level) (name : String) : Option Key :=
  if name = "help" then some .help
  else if name = "version" then some .version
  else level.findKey? (fun s => s.long = name) fun p => p.long? = some name

def shortKey? (level : Level) (letter : Char) : Option Key :=
  if letter = 'h' then some .help
  else if letter = 'V' then some .version
  else level.findKey? (fun s => s.short? = some letter) fun p => p.short? = some letter

end Level

end CommitLint.CommandLine
