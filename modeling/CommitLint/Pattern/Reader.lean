import CommitLint.Pattern.Basic
import CommitLint.Pattern.Property
import CommitLint.Text.Affix
import CommitLint.Text.Reading

/-!
# Reading a pattern

The notation of patterns: characters stand for themselves, `.` for any of a line, sets in brackets,
groups in parentheses, `|` between alternatives, `* + ?` and counts in braces after what is
repeated, `\` before a character that would mean something else and before the names of sets and
assertions. A group may set flags that change the meaning of what it holds.

`Pattern.ofText` reads a pattern from the front to the back with the groups that are still open on a
stack.
-/

namespace CommitLint

open Text

/-- Why a text is no pattern. -/
inductive PatternError
  /-- The text breaks the rules of the notation. -/
  | malformed
  /-- The pattern has too many parts once its counts are written out. -/
  | tooLarge
  deriving DecidableEq, Repr

namespace Pattern

/-! ### Flags -/

/-- How the notation is understood. -/
structure Flags where
  /-- Letters stand for both cases. -/
  anyCase : Bool := false
  /-- `^` and `$` stand for the ends of lines. -/
  multiLine : Bool := false
  /-- `.` stands for line feeds as well. -/
  dotAll : Bool := false
  /-- Sets and cases are those of all scripts and not of ASCII alone. -/
  unicode : Bool := true
  /-- A carriage return ends a line too. -/
  carriageReturn : Bool := false
  /-- White space and comments do not count. -/
  verbose : Bool := false
  deriving DecidableEq, Repr

namespace Flags

/-- The flags after one of them is set or cleared by its letter. The letter `U`, which turns the
preference for long matches round, has no bearing on whether there is a match. -/
def set? (flags : Flags) (letter : Char) (value : Bool) : Option Flags :=
  match letter with
  | 'i' => some { flags with anyCase := value }
  | 'm' => some { flags with multiLine := value }
  | 's' => some { flags with dotAll := value }
  | 'u' => some { flags with unicode := value }
  | 'R' => some { flags with carriageReturn := value }
  | 'x' => some { flags with verbose := value }
  | 'U' => some flags
  | _ => none

/-- White space and comments at the front. A comment goes from `#` to the end of the line. -/
def dropComments (inComment : Bool) : List Char → List Char
  | [] => []
  | c :: rest =>
    if inComment then dropComments (c ≠ '\n') rest
    else if isSpace c then dropComments false rest
    else if c = '#' then dropComments true rest
    else c :: rest

/-- What counts of a text from its front on. -/
def skip (flags : Flags) (cs : List Char) : List Char :=
  if flags.verbose then dropComments false cs else cs

/-- What counts of a text after its first character. -/
def next (flags : Flags) (cs : List Char) : List Char := flags.skip cs.tail

/-- A set as the flags want it, without regard to case if they say so. -/
def fold (flags : Flags) (s : CharSet) : CharSet :=
  if flags.anyCase then .anyCase (!flags.unicode) s else s

/-- A set or what it leaves over. Outside all scripts there is no complement, since it would hold
half characters. -/
def negate? (flags : Flags) (negated : Bool) (s : CharSet) : Option CharSet :=
  if negated then if flags.unicode then some (.compl s) else none else some s

end Flags

/-! ### Escapes -/

/-- What an escape stands for. -/
inductive Escape
  /-- A character; `byte` if it was given by two digits. -/
  | char (c : Char) (byte : Bool)
  /-- A set. -/
  | set (s : CharSet)
  /-- A place. -/
  | assertion (a : Assertion)

def hexValue? (c : Char) : Option Nat :=
  if c.isDigit then some (c.toNat - '0'.toNat)
  else if 'a' ≤ c ∧ c ≤ 'f' then some (c.toNat - 'a'.toNat + 10)
  else if 'A' ≤ c ∧ c ≤ 'F' then some (c.toNat - 'A'.toNat + 10)
  else none

/-- The character with a code point in hexadecimal digits. -/
def charOfHex? (digits : List Char) : Option Char := do
  let values ← digits.mapM hexValue?
  let n := values.foldl (fun n d => n * 16 + d) 0
  if digits = [] ∨ ¬ n.isValidChar then none else some (Char.ofNat n)

/-- So many characters, where what does not count between them is left out. -/
def readSome (flags : Flags) : Nat → Reader (List Char)
  | 0, cs => some ([], cs)
  | _ + 1, [] => none
  | n + 1, c :: rest =>
    if n = 0 then some ([c], flags.skip rest)
    else (readSome flags n (flags.skip rest)).map fun (found, left) => (c :: found, left)

/-- The characters up to the closing brace, where those that do not count are left out. -/
def readBraced (flags : Flags) : Reader (List Char) :=
  Reading.repeated
    (fun found cs => match cs with
      | [] => none
      | '\x7d' :: rest => some (.done found.reverse, rest)
      | c :: rest => some (.more (c :: found), flags.skip rest))
    []

/-- A character given by its code point, after `x`, `u` or `U` with so many digits. -/
def readHex (flags : Flags) (digits : Nat) (cs : List Char) : Option (Escape × List Char) :=
  match cs with
  | '\x7b' :: rest => do
    let (found, left) ← readBraced flags (flags.skip rest)
    return (.char (← charOfHex? found) false, flags.skip left)
  | _ => do
    let (found, left) ← readSome flags digits cs
    return (.char (← charOfHex? found) (digits = 2), left)

/-- The set that the text between braces names: a name, or a property and its value. -/
def namedSet? (name : List Char) : Option CharSet :=
  match (splitAtFirst? ['!', '='] name).or
    ((splitAtFirst? [':'] name).or (splitAtFirst? ['='] name)) with
  | some (property, value) => CharSet.ofNameAndValue? property value
  | none => CharSet.ofName? name

/-- A named set, after `p` or `P`. -/
def readNamedSet (flags : Flags) (negated : Bool) (cs : List Char) :
    Option (Escape × List Char) := do
  if ¬ flags.unicode then failure
  let (name, left) ← match cs with
    | [] => none
    | '\\' :: _ => none
    | '\x7b' :: rest => readBraced flags (flags.skip rest)
    | c :: rest => some ([c], flags.skip rest)
  let s ← namedSet? name
  return (.set (← flags.negate? negated (flags.fold s)), left)

/-- The assertions on words that have a name. -/
def namedAssertion? (ascii : Bool) (name : List Char) : Option Assertion :=
  if name = "start".toList then some (.wordStart ascii)
  else if name = "end".toList then some (.wordEnd ascii)
  else if name = "start-half".toList then some (.noWordBefore ascii)
  else if name = "end-half".toList then some (.noWordAfter ascii)
  else none

/-- Letters and dashes at the front, where what does not count between them is left out. -/
def takeName (flags : Flags) (cs : List Char) : List Char × List Char :=
  ((Reading.repeated
    (fun found cs => match cs with
      | [] => some (.done found.reverse, [])
      | c :: rest =>
        if c.isAlpha || c = '-' then some (.more (c :: found), flags.skip rest)
        else some (.done found.reverse, c :: rest))
    []) cs).getD ([], cs)

/-- An assertion on words, after `b`: a name in braces may follow. Braces that hold no name are left
for a count. -/
def readWordEdge (flags : Flags) (cs : List Char) : Option (Escape × List Char) :=
  let ascii := !flags.unicode
  match cs with
  | '\x7b' :: rest =>
    match takeName flags (flags.skip rest) with
    | ([], []) => none
    | ([], _) => some (.assertion (.wordEdge ascii), cs)
    | (name, '\x7d' :: left) => (namedAssertion? ascii name).map fun a => (.assertion a, left)
    | _ => none
  | _ => some (.assertion (.wordEdge ascii), cs)

/-- The characters with a meaning of their own in the notation. -/
def metaCharacters : List Char := "\\.+*?()|[]\x7b\x7d^$#&-~".toList

/-- Whether a character may be escaped to stand for itself. -/
def isEscapable (c : Char) : Bool :=
  c ∈ metaCharacters || (decide (c.toNat < 128) && !c.isAlphanum && c ≠ '<' && c ≠ '>')

/-- What is written after a backslash. -/
def readEscape (flags : Flags) (cs : List Char) : Option (Escape × List Char) :=
  let ascii := !flags.unicode
  match cs with
  | [] => none
  | c :: rest =>
    let set (negated : Bool) (wide narrow : CharSet) : Option (Escape × List Char) :=
      (flags.negate? negated (if flags.unicode then wide else narrow)).map fun s => (.set s, rest)
    match c with
    | 'x' => readHex flags 2 (flags.skip rest)
    | 'u' => readHex flags 4 (flags.skip rest)
    | 'U' => readHex flags 8 (flags.skip rest)
    | 'p' => readNamedSet flags false (flags.skip rest)
    | 'P' => readNamedSet flags true (flags.skip rest)
    | 'd' => set false .digit .asciiDigit
    | 'D' => set true .digit .asciiDigit
    | 's' => set false .space .asciiSpace
    | 'S' => set true .space .asciiSpace
    | 'w' => set false .word .asciiWord
    | 'W' => set true .word .asciiWord
    | 'a' => some (.char '\x07' false, rest)
    | 'f' => some (.char '\x0c' false, rest)
    | 't' => some (.char '\t' false, rest)
    | 'n' => some (.char '\n' false, rest)
    | 'r' => some (.char '\r' false, rest)
    | 'v' => some (.char '\x0b' false, rest)
    | 'A' => some (.assertion .textStart, rest)
    | 'z' => some (.assertion .textEnd, rest)
    | 'b' => readWordEdge flags rest
    | 'B' => some (.assertion (.noWordEdge ascii), rest)
    | '<' => some (.assertion (.wordStart ascii), rest)
    | '>' => some (.assertion (.wordEnd ascii), rest)
    | c => if isEscapable c then some (.char c false, rest) else none

/-! ### Sets in brackets -/

/-- An operation between two sets in brackets. -/
inductive SetOperation
  | inter
  | diff
  | symmDiff

/-- A set with the depth to which it is nested. -/
structure NestedSet where
  /-- The set. -/
  set : CharSet
  /-- How deep it is nested. -/
  depth : Nat

/-- A bracket that is still open. -/
structure OpenSet where
  /-- Whether the set in brackets is what its members leave over. -/
  negated : Bool
  /-- The left side of an operation whose right side is being read. -/
  left : Option (NestedSet × SetOperation)
  /-- What has been read of the side in question, last first. -/
  items : List NestedSet

namespace OpenSet

/-- What has been read of the side in question, as one set. -/
def side (o : OpenSet) : NestedSet :=
  match o.items with
  | [] => ⟨.none, 0⟩
  | [item] => item
  | items => ⟨.anyOf (items.reverse.map (·.set)), 1 + (items.map (·.depth)).foldl max 0⟩

/-- All that has been read, as one set. -/
def content (flags : Flags) (o : OpenSet) : NestedSet :=
  let right := o.side
  match o.left with
  | none => right
  | some (left, operation) =>
    let a := flags.fold left.set
    let b := flags.fold right.set
    ⟨match operation with
      | .inter => .inter a b
      | .diff => .diff a b
      | .symmDiff => .symmDiff a b,
     1 + max left.depth right.depth⟩

def push (o : OpenSet) (item : NestedSet) : OpenSet := { o with items := item :: o.items }

/-- The bracket after the sign of an operation. -/
def operate (flags : Flags) (o : OpenSet) (operation : SetOperation) : OpenSet :=
  ⟨o.negated, some (o.content flags, operation), []⟩

/-- The set that the bracket holds when it is closed. -/
def close? (flags : Flags) (o : OpenSet) : Option NestedSet := do
  let content := o.content flags
  return ⟨← flags.negate? o.negated (flags.fold content.set), content.depth + 1⟩

end OpenSet

/-- The sets of ASCII characters that have a name within brackets. -/
def asciiSets : List (String × CharRanges) :=
  [("alnum", [(0x30, 0x39), (0x41, 0x5A), (0x61, 0x7A)]),
   ("alpha", [(0x41, 0x5A), (0x61, 0x7A)]),
   ("ascii", [(0x00, 0x7F)]),
   ("blank", [(0x09, 0x09), (0x20, 0x20)]),
   ("cntrl", [(0x00, 0x1F), (0x7F, 0x7F)]),
   ("digit", [(0x30, 0x39)]),
   ("graph", [(0x21, 0x7E)]),
   ("lower", [(0x61, 0x7A)]),
   ("print", [(0x20, 0x7E)]),
   ("punct", [(0x21, 0x2F), (0x3A, 0x40), (0x5B, 0x60), (0x7B, 0x7E)]),
   ("space", [(0x09, 0x0D), (0x20, 0x20)]),
   ("upper", [(0x41, 0x5A)]),
   ("word", [(0x30, 0x39), (0x41, 0x5A), (0x5F, 0x5F), (0x61, 0x7A)]),
   ("xdigit", [(0x30, 0x39), (0x41, 0x46), (0x61, 0x66)])]

/-- A named set of ASCII characters, after an opening bracket: a colon, perhaps `^`, the name, a
colon and a closing bracket. The result says whether the set is negated. -/
def readAsciiSet : Reader (Bool × CharSet)
  | ':' :: rest => do
    let (negated, rest) := match rest with
      | '^' :: rest => (true, rest)
      | _ => (false, rest)
    let left ← Reading.after? [':', ']'] (rest.dropWhile (· ≠ ':'))
    let name := rest.takeWhile (· ≠ ':')
    let (_, ranges) ← asciiSets.find? fun e => e.1.toList = name
    return ((negated, .ranges ranges), left)
  | _ => none

/-- The character that a member of a set is, if it is one. -/
def Escape.char? (flags : Flags) : Escape → Option Char
  | .char c _ => if flags.unicode || decide (c.toNat < 128) then some c else none
  | _ => none

def Escape.set? (flags : Flags) : Escape → Option CharSet
  | .set s => some s
  | .assertion _ => none
  | member => (member.char? flags).map .single

/-- A member of a set that is one character or an escape. -/
def readMember (flags : Flags) : Reader Escape
  | [] => none
  | '\\' :: rest => readEscape flags rest
  | c :: rest => some (.char c false, rest)

/-- A member of a set, or all from one to another. -/
def readRange (flags : Flags) (cs : List Char) : Option (CharSet × List Char) := do
  let (first, left) ← readMember flags cs
  match flags.skip left with
  | [] => none
  | '-' :: rest =>
    match flags.skip rest with
    | ']' :: _ => return (← first.set? flags, '-' :: rest)
    | '-' :: _ => return (← first.set? flags, '-' :: rest)
    | after =>
      let (last, left) ← readMember flags after
      let a ← first.char? flags
      let b ← last.char? flags
      if a ≤ b then return (.range a b, left) else none
  | rest => return (← first.set? flags, rest)

/-- Dashes at the front, which stand for themselves, as members of a set. -/
def takeDashes (flags : Flags) (cs : List Char) : List NestedSet × List Char :=
  ((Reading.repeated
    (fun items cs => match cs with
      | '-' :: rest => some (.more (⟨.single '-', 0⟩ :: items), flags.skip rest)
      | cs => some (.done items, cs))
    []) cs).getD ([], cs)

/-- The start of a bracket after `[`: perhaps `^`, and then dashes or a closing bracket that stand
for themselves. -/
def readOpening (flags : Flags) (cs : List Char) : OpenSet × List Char :=
  let (negated, cs) := match flags.skip cs with
    | '^' :: rest => (true, flags.skip rest)
    | cs => (false, cs)
  match takeDashes flags cs with
  | ([], ']' :: rest) => (⟨negated, none, [⟨.single ']', 0⟩]⟩, rest)
  | (items, rest) => (⟨negated, none, items⟩, rest)

/-- The innermost open bracket and the brackets around it. -/
abbrev SetStack := OpenSet × List OpenSet

/-- One step through a set in brackets. -/
def setStep (flags : Flags) (stack : SetStack) (cs : List Char) :
    Option (Step SetStack NestedSet × List Char) := do
  let (top, outer) := stack
  match flags.skip cs with
  | [] => none
  | '[' :: rest =>
    match readAsciiSet rest with
    | some ((negated, s), left) =>
      return (.more (top.push ⟨← flags.negate? negated (flags.fold s), 0⟩, outer), left)
    | none =>
      let (opened, left) := readOpening flags rest
      return (.more (opened, top :: outer), left)
  | ']' :: rest =>
    let closed ← top.close? flags
    match outer with
    | [] => return (.done closed, rest)
    | next :: others => return (.more (next.push closed, others), rest)
  | '&' :: '&' :: rest => return (.more (top.operate flags .inter, outer), rest)
  | '-' :: '-' :: rest => return (.more (top.operate flags .diff, outer), rest)
  | '~' :: '~' :: rest => return (.more (top.operate flags .symmDiff, outer), rest)
  | cs =>
    let (s, left) ← readRange flags cs
    return (.more (top.push ⟨s, 0⟩, outer), left)

/-- A set in brackets, after the opening one. -/
def readSet (flags : Flags) (cs : List Char) : Option (NestedSet × List Char) :=
  let (opened, rest) := readOpening flags cs
  Reading.repeated (setStep flags) (opened, []) rest

/-! ### Items, groups and counts -/

/-- A part of a pattern. -/
structure Item where
  /-- What the part describes. -/
  pattern : Pattern
  /-- How deep its own parts are nested. -/
  depth : Nat
  /-- The number of its parts once counts are written out. -/
  size : Nat
  /-- Whether it only sets flags, so that it cannot be repeated. -/
  isSetting : Bool := false

/-- The number of parts that a pattern may have. -/
def maxSize : Nat := 300000

/-- How deep the parts of a pattern may be nested. -/
def maxDepth : Nat := 250

namespace Item

/-- The items one after the other; they are given last first. -/
def sequence (items : List Item) : Item :=
  match items with
  | [item] => { item with isSetting := false }
  | _ =>
    { pattern := inOrder (items.reverse.map (·.pattern))
      depth := if items = [] then 0 else 1 + (items.map (·.depth)).foldl max 0
      size := (items.map (·.size)).foldl (· + ·) 0 }

/-- Any of the items; they are given last first. -/
def choice (items : List Item) : Item :=
  match items with
  | [item] => item
  | _ =>
    { pattern := oneOf (items.reverse.map (·.pattern))
      depth := 1 + (items.map (·.depth)).foldl max 0
      size := (items.map (·.size)).foldl (· + ·) 0 }

/-- The item in a group. -/
def group (item : Item) : Item := { item with depth := item.depth + 1, isSetting := false }

/-- The item repeated from `least` to `most` times, without an upper bound if `most` is missing. An
item that would grow too large is not written out. -/
def repeated (item : Item) (least : Nat) (most : Option Nat) : Item :=
  let copies := max 1 (most.getD (least + 1))
  let size := item.size * copies
  let p := item.pattern
  { pattern :=
      if size > maxSize then .empty
      else times p least (match most with
        | none => .star p
        | some most => atMost p (most - least))
    depth := item.depth + 1
    size := size }

end Item

/-- The alternatives of a group as far as they have been read. -/
structure Level where
  /-- The alternatives that are complete, last first. -/
  alternatives : List Item := []
  /-- The items of the current alternative, last first. -/
  items : List Item := []

/-- The level with the current alternative completed. -/
def Level.bar (level : Level) : Level := ⟨Item.sequence level.items :: level.alternatives, []⟩

/-- All that the level holds, as one item. -/
def Level.content (level : Level) : Item := Item.choice level.bar.alternatives

/-- A pattern as far as it has been read. -/
structure Progress where
  /-- The flags in force. -/
  flags : Flags := {}
  /-- The names that groups have taken. -/
  names : List (List Char) := []
  /-- The innermost open group. -/
  level : Level := {}
  /-- The groups around it, each with the flags in force outside the group within it. -/
  outer : List (Flags × Level) := []

namespace Progress

def push (s : Progress) (item : Item) : Progress :=
  { s with level := { s.level with items := item :: s.level.items } }

def pushSet (s : Progress) (set : CharSet) (depth size : Nat) : Progress :=
  s.push ⟨.char set, depth, size, false⟩

def pushAssertion (s : Progress) (a : Assertion) : Progress := s.push ⟨.assertion a, 0, 1, false⟩

/-- Progress after a character that stands for itself. -/
def pushChar (s : Progress) (c : Char) : Progress := s.pushSet (s.flags.fold (.single c)) 0 1

/-- Progress after the repetition of the last item. -/
def repeatLast? (s : Progress) (least : Nat) (most : Option Nat) : Option Progress :=
  match s.level.items with
  | [] => none
  | item :: items =>
    if item.isSetting then none
    else some { s with level := { s.level with items := item.repeated least most :: items } }

/-- Progress after the opening of a group within which the flags are `flags`. -/
def openGroup (s : Progress) (flags : Flags) : Progress :=
  { s with flags := flags, level := {}, outer := (s.flags, s.level) :: s.outer }

/-- Progress after the closing of the innermost group. -/
def closeGroup? (s : Progress) : Option Progress :=
  match s.outer with
  | [] => none
  | (flags, level) :: outer =>
    some ({ s with flags := flags, level := level, outer := outer }.push s.level.content.group)

end Progress

/-- The sets that a set in brackets is made of count by their ranges. -/
def sizeOfSet : CharSet → Nat
  | .ranges rs => if rs.all (·.2 < 128) then 1 else 2 * rs.length
  | .category g => 2 * g.ranges.length
  | .union a b | .inter a b | .diff a b | .symmDiff a b => sizeOfSet a + sizeOfSet b
  | .compl a => sizeOfSet a
  | .anyCase _ a => sizeOfSet a

/-- The flags after a list of letters, each of which may stand once; those after `-` are cleared. -/
def readFlags (flags : Flags) (seen : List Char) : List Char → Option (Flags × List Char)
  | [] => none
  | c :: rest =>
    if c = ':' ∨ c = ')' then if seen.head? = some '-' then none else some (flags, c :: rest)
    else if c ∈ seen then none
    else if c = '-' then readFlags flags (c :: seen) rest
    else match flags.set? c ('-' ∉ seen) with
      | some flags => readFlags flags (c :: seen) rest
      | none => none

/-- Whether a character may stand in the name of a group, as its first or later. -/
def isNameChar (first : Bool) (c : Char) : Bool :=
  c = '_' || (if first then CharSet.alphabetic.mem c
    else c = '.' || c = '[' || c = ']' || CharSet.alphanumeric.mem c)

def readGroupName (cs : List Char) : Option (List Char × List Char) :=
  match cs.takeWhile (· ≠ '>'), cs.dropWhile (· ≠ '>') with
  | c :: name, _ :: rest =>
    if isNameChar true c && name.all (isNameChar false) then some (c :: name, rest) else none
  | _, _ => none

/-- The opening of a group, after the parenthesis. -/
def readGroup (s : Progress) (cs : List Char) : Option (Progress × List Char) :=
  match s.flags.skip cs with
  | '?' :: '=' :: _ | '?' :: '!' :: _ | '?' :: '<' :: '=' :: _ | '?' :: '<' :: '!' :: _ => none
  | '?' :: 'P' :: '<' :: rest | '?' :: '<' :: rest => do
    let (name, left) ← readGroupName rest
    if name ∈ s.names then none
    else return ({ s with names := name :: s.names }.openGroup s.flags, left)
  | '?' :: rest => do
    let (flags, left) ← readFlags s.flags [] rest
    match left with
    | ':' :: left => return (s.openGroup flags, left)
    | ')' :: left =>
      if rest.head? = some ')' then none
      else return ({ s with flags := flags }.push ⟨.empty, 0, 0, true⟩, left)
    | _ => none
  | rest => some (s.openGroup s.flags, rest)

/-- A number in decimal digits with white space around it. Without digits there is none. -/
def readCount (flags : Flags) (cs : List Char) : Option Nat × List Char :=
  let rec digits (n : Nat) (found : Bool) : List Char → Option Nat × List Char
    | [] => (if found then some n else none, [])
    | c :: rest =>
      if c.isDigit then digits (n * 10 + (c.toNat - '0'.toNat)) true rest
      else if flags.verbose && isSpace c then digits n found rest
      else (if found then some n else none, (c :: rest).dropWhile isSpace)
  digits 0 false (cs.dropWhile isSpace)

/-- The bounds of a repetition, after the opening brace. Numbers have at most 32 bits. -/
def readBounds (flags : Flags) (cs : List Char) : Option ((Nat × Option Nat) × List Char) := do
  let (least, rest) := readCount flags (flags.skip cs)
  let least ← least
  let ((low, high), rest) ← match rest with
    | '\x7d' :: rest => some ((least, some least), rest)
    | ',' :: rest =>
      match flags.skip rest with
      | '\x7d' :: rest => some ((least, none), rest)
      | rest => match readCount flags rest with
        | (some most, '\x7d' :: rest) => some ((least, some most), rest)
        | _ => none
    | _ => none
  if low ≤ high.getD low ∧ high.getD low <
    0x100000000 then return ((low, high), flags.skip rest) else none

/-- What is left after a question mark that asks for short matches. -/
def dropLazy : List Char → List Char
  | '?' :: rest => rest
  | cs => cs

/-- One step through a pattern. -/
def step (s : Progress) (cs : List Char) : Option (Step Progress Progress × List Char) :=
  let flags := s.flags
  match flags.skip cs with
  | [] => some (.done s, [])
  | '(' :: rest => (readGroup s rest).map fun (s, rest) => (.more s, rest)
  | ')' :: rest => s.closeGroup?.map fun s => (.more s, rest)
  | '|' :: rest => some (.more { s with level := s.level.bar }, rest)
  | '[' :: rest => (readSet flags rest).map fun (found, rest) =>
    (.more (s.pushSet found.set found.depth (sizeOfSet found.set)), rest)
  | '?' :: rest => (s.repeatLast? 0 (some 1)).map fun s => (.more s, dropLazy rest)
  | '*' :: rest => (s.repeatLast? 0 none).map fun s => (.more s, dropLazy rest)
  | '+' :: rest => (s.repeatLast? 1 none).map fun s => (.more s, dropLazy rest)
  | '\x7b' :: rest => do
    let ((least, most), rest) ← readBounds flags rest
    return (.more (← s.repeatLast? least most), dropLazy rest)
  | '\\' :: rest => do
    let (found, rest) ← readEscape flags rest
    match found with
    | .char c byte =>
      if byte && !flags.unicode && decide (128 ≤ c.toNat) then none
      else return (.more (s.pushChar c), rest)
    | .set set => return (.more (s.pushSet set 0 (sizeOfSet set)), rest)
    | .assertion a => return (.more (s.pushAssertion a), rest)
  | '.' :: rest =>
    if !flags.unicode then none
    else
      let excluded : CharSet :=
        if flags.dotAll then .none
        else if flags.carriageReturn then .ranges [(10, 10), (13, 13)]
        else .single '\n'
      some (.more (s.pushSet (.compl excluded) 0 8), rest)
  | '^' :: rest =>
    some (.more (s.pushAssertion
      (if !flags.multiLine then .textStart else if flags.carriageReturn then .lineStartAny
        else .lineStart)), rest)
  | '$' :: rest =>
    some (.more (s.pushAssertion
      (if !flags.multiLine then .textEnd else if flags.carriageReturn then .lineEndAny
        else .lineEnd)), rest)
  | c :: rest => some (.more (s.pushChar c), rest)

/-- Reads a pattern. -/
def ofText (text : String) : Except PatternError Pattern :=
  match Reading.repeated step {} text.toList with
  | none => .error .malformed
  | some (s, _) =>
    let item := s.level.content
    if s.outer ≠ [] ∨ item.depth > maxDepth then .error .malformed
    else if item.size > maxSize then .error .tooLarge
    else .ok item.pattern

end Pattern

end CommitLint
