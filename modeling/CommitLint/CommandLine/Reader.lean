import CommitLint.CommandLine.Level
import CommitLint.Text.Affix

/-!
# Reading the command line

`Invocation.read` says what a list of arguments asks for, or why it cannot be told. Arguments are
read one after the other. A parameter waits for its value, and what has been given is settled only
when the next argument takes effect: of two faults the one that is met first in this order counts.
The level of a command is settled before the one around it.
-/

namespace CommitLint

namespace CommandLine

/-- Why reading stops without an invocation. -/
inductive Stop
  /-- An argument is not known. -/
  | unknownArgument
  /-- A command is not known. -/
  | invalidSubcommand
  /-- A value is missing or is not one that may be given. -/
  | invalidValue
  /-- A value is given to what takes none. -/
  | tooManyValues
  /-- Two arguments exclude each other, or one is given twice. -/
  | argumentConflict
  /-- It is asked what may be given. -/
  | displayHelp
  /-- It is asked what version this is. -/
  | displayVersion
  deriving DecidableEq, Repr

def Stop.exitCode : Stop → Nat
  | displayHelp => 0
  | displayVersion => 0
  | _ => 2

/-! ### What has been given -/

/-- What has been given at a level so far. -/
structure Given where
  /-- The switches that are on. -/
  switches : List Switch
  /-- The values of parameters. -/
  values : List (Parameter × String)
  /-- The parameter that is not settled yet, with its value once it has been met. -/
  pending : Option (Parameter × Option String)
  /-- Whether hyphens have lost their meaning. -/
  literal : Bool
  deriving DecidableEq, Repr

namespace Given

def nothing : Given := ⟨[], [], none, false⟩

def value? (g : Given) (p : Parameter) : Option String :=
  (g.values.find? fun e => e.1 = p).map Prod.snd

def put (g : Given) (p : Parameter) (value : String) : Except Stop Given :=
  if (g.value? p).isSome then .error .argumentConflict
  else if p.admits value then .ok { g with values := g.values ++ [(p, value)] }
  else .error .invalidValue

/-- Settles what is pending. -/
def settle (g : Given) : Except Stop Given :=
  match g.pending with
  | none => .ok g
  | some (_, none) => .error .invalidValue
  | some (p, some value) => { g with pending := none }.put p value

def turnOn (g : Given) (s : Switch) : Except Stop Given := do
  let g ← g.settle
  if s ∈ g.switches then throw .argumentConflict
  return { g with switches := g.switches ++ [s] }

/-- Lets a parameter wait for its value. -/
def await (g : Given) (p : Parameter) : Except Stop Given := do
  return { ← g.settle with pending := some (p, none) }

/-- Gives a parameter the value that is attached to it. -/
def assign (g : Given) (p : Parameter) (value : String) : Except Stop Given := do
  (← g.settle).put p value

/-- Stops once what is pending is settled. -/
def stop (g : Given) (cause : Stop) : Except Stop Given := do
  let _ ← g.settle
  throw cause

def awaiting? (g : Given) : Option Parameter :=
  match g.pending with
  | some (p, none) => some p
  | _ => none

def hasFile (g : Given) : Bool := (g.value? .file).isSome || g.pending.any fun e => e.1 = .file

end Given

/-! ### Arguments -/

/-- Reads an argument with a long name, after its hyphens: the name, and perhaps a value after an
equals sign. -/
def readLong (level : Level) (g : Given) (body : List Char) : Except Stop Given :=
  let (name, value?) := match Text.splitAtFirst? ['='] body with
    | some (name, value) => (String.ofList name, some (String.ofList value))
    | none => (String.ofList body, none)
  match level.longKey? name, value? with
  | none, _ => .error .unknownArgument
  | some (.parameter p), some value => g.assign p value
  | some (.parameter p), none => g.await p
  | some _, some _ => .error .tooManyValues
  | some (.switch s), none => g.turnOn s
  | some .help, none => g.stop .displayHelp
  | some .version, none => g.stop .displayVersion

/-- What follows an equals sign at the front, or all if there is none. -/
def afterEquals : List Char → List Char
  | '=' :: cs => cs
  | cs => cs

/-- Reads the letters of an argument, after its hyphen. What follows the letter of a parameter is
its value. -/
def readShorts (level : Level) (g : Given) : List Char → Except Stop Given
  | [] => .ok g
  | c :: cs =>
    match level.shortKey? c with
    | none => .error .unknownArgument
    | some (.switch s) => do readShorts level (← g.turnOn s) cs
    | some (.parameter p) =>
      if cs = [] then g.await p else g.assign p (String.ofList (afterEquals cs))
    | some .help => g.stop .displayHelp
    | some .version => g.stop .displayVersion

/-- Reads an argument by its place. Only a check takes one, and only one. -/
def readPlaced (level : Level) (g : Given) (argument : String) : Except Stop Given :=
  match level with
  | .outer =>
    .error (if g.literal && Level.isCommandName argument then .unknownArgument
      else .invalidSubcommand)
  | .check =>
    if g.hasFile then .error .unknownArgument
    else do return { ← g.settle with pending := some (.file, some argument) }
  | _ => .error .unknownArgument

/-- Reads an argument that names no command. -/
def readArgument (level : Level) (g : Given) (argument : String) : Except Stop Given :=
  if g.literal then readPlaced level g argument
  else
    match argument.toList with
    | ['-', '-'] => .ok { g with literal := true }
    | '-' :: '-' :: body => readLong level g body
    | '-' :: c :: cs => readShorts level g (c :: cs)
    | _ =>
      match g.awaiting? with
      | some p => .ok { g with pending := some (p, some argument) }
      | none => readPlaced level g argument

/-- Whether an argument stands where it may name a command. -/
def mayName (level : Level) (g : Given) : Bool := level = .outer && !g.literal && g.awaiting?.isNone

/-- Why reading stops when help is asked for by name. -/
def helpOn : List String → Stop
  | [] => .displayHelp
  | [name] => if Level.isCommandName name then .displayHelp else .invalidSubcommand
  | _ => .invalidSubcommand

/-- Reads the arguments of a level. A command's name ends the outer level; the arguments after it
are the command's. -/
def readLevel (level : Level) (g : Given) :
    List String → Except Stop (Given × Option (Level × List String))
  | [] => .ok (g, none)
  | argument :: rest =>
    if mayName level g && argument = Level.helpName then .error (helpOn rest)
    else
      match if mayName level g then Level.ofName? argument else none with
      | some inner => .ok (g, some (inner, rest))
      | none => do readLevel level (← readArgument level g argument) rest

/-! ### Levels -/

def hasTwoSources (g : Given) : Bool :=
  decide (1 < ([Parameter.file, .commit, .range].filter fun p => (g.value? p).isSome).length)

/-- Settles a level. The configuration file may come from a variable, which then must not be
empty. -/
def finish (fromVariable : Option String) (g : Given) : Except Stop Given := do
  let g ← g.settle
  if (g.value? .config).isNone && fromVariable = some "" then throw .invalidValue
  if hasTwoSources g then throw .argumentConflict
  return g

def checkArguments (g : Given) : CheckArguments where
  file := g.value? .file
  commit := g.value? .commit
  range := g.value? .range
  strict := g.switches.contains .strict

/-- The command of a level. -/
def command (level : Level) (g : Given) : Command :=
  match level with
  | .outer => .check (checkArguments g)
  | .check => .check (checkArguments g)
  | .rules => .rules
  | .init => .init (g.switches.contains .force)
    (((g.value? .preset).bind presetOfName?).getD .standard)
  | .version => .version

/-- What two levels ask for together: of two values the inner one counts, and a variable only if
there is none. -/
def invocation (fromVariable : Option String) (outer inner : Given) (level : Level) :
    Invocation where
  command := command level inner
  explicit := level ≠ .outer
  debug := outer.switches.contains .debug || inner.switches.contains .debug
  quiet := outer.switches.contains .quiet || inner.switches.contains .quiet
  format := ((inner.value? .format).or (outer.value? .format)).bind Format.ofName?
  config := ((inner.value? .config).or (outer.value? .config)).or fromVariable

end CommandLine

open CommandLine

/-- What arguments ask for, with the variable that may name the configuration file. -/
def Invocation.read (fromVariable : Option String) (arguments : List String) :
    Except Stop Invocation := do
  let (outer, named) ← readLevel .outer .nothing arguments
  match named with
  | none => return invocation fromVariable (← finish fromVariable outer) .nothing .outer
  | some (level, rest) =>
    let (inner, _) ← readLevel level .nothing rest
    let inner ← finish fromVariable inner
    return invocation fromVariable (← finish fromVariable outer) inner level

end CommitLint
