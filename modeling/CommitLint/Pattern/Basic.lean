import CommitLint.Pattern.CharSet

/-!
# Patterns

A pattern describes words of characters within a text. `Pattern.Matches p before word after` says
that the word is one that `p` describes, where it stands: an assertion looks at the character before
and the character after it.

`Pattern.isMatch` decides whether some part of a text is described, as `Pattern.isMatch_iff` says of
the module `Search`. It reads the text once, a character at a time, and holds the patterns that what
has been read leaves to be matched (the partial derivatives of the pattern).
-/

namespace CommitLint

open Text

/-! ### Assertions -/

/-- A condition on a place in a text. -/
inductive Assertion
  /-- The start of the text. -/
  | textStart
  /-- The end of the text. -/
  | textEnd
  /-- The start of a line. -/
  | lineStart
  /-- The end of a line. -/
  | lineEnd
  /-- The start of a line, when a carriage return ends one too. -/
  | lineStartAny
  /-- The end of a line, when a carriage return ends one too. -/
  | lineEndAny
  /-- A word starts or ends. -/
  | wordEdge (ascii : Bool)
  /-- No word starts or ends. -/
  | noWordEdge (ascii : Bool)
  /-- A word starts. -/
  | wordStart (ascii : Bool)
  /-- A word ends. -/
  | wordEnd (ascii : Bool)
  /-- No word character stands before. -/
  | noWordBefore (ascii : Bool)
  /-- No word character stands after. -/
  | noWordAfter (ascii : Bool)
  deriving DecidableEq, Repr

namespace Assertion

/-- Whether there is a character and it belongs to words. -/
def isWord (ascii : Bool) : Option Char → Bool
  | none => false
  | some c => (if ascii then CharSet.asciiWord else CharSet.word).mem c

/-- Whether the condition holds between two characters, either of which may be missing. -/
def holds (a : Assertion) (before after : Option Char) : Bool :=
  match a with
  | textStart => before.isNone
  | textEnd => after.isNone
  | lineStart => before.isNone || before = some '\n'
  | lineEnd => after.isNone || after = some '\n'
  | lineStartAny => before.isNone || before = some '\n' || (before = some '\r' && after ≠ some '\n')
  | lineEndAny => after.isNone || after = some '\r' || (after = some '\n' && before ≠ some '\r')
  | wordEdge ascii => isWord ascii before != isWord ascii after
  | noWordEdge ascii => isWord ascii before == isWord ascii after
  | wordStart ascii => !isWord ascii before && isWord ascii after
  | wordEnd ascii => isWord ascii before && !isWord ascii after
  | noWordBefore ascii => !isWord ascii before
  | noWordAfter ascii => !isWord ascii after

end Assertion

/-! ### Patterns and what they describe -/

/-- A description of words within a text. -/
inductive Pattern
  /-- The empty word. -/
  | empty
  /-- One character of a set. -/
  | char (s : CharSet)
  /-- The empty word at a place where the condition holds. -/
  | assertion (a : Assertion)
  /-- A word of the first pattern and then one of the second. -/
  | seq (p q : Pattern)
  /-- A word of either pattern. -/
  | alt (p q : Pattern)
  /-- Any number of words of the pattern. -/
  | star (p : Pattern)
  deriving DecidableEq, Repr

namespace Pattern

/-- The word, standing between two parts of a text, is one that the pattern describes. -/
inductive Matches : Pattern → List Char → List Char → List Char → Prop
  | empty {before after : List Char} : Matches empty before [] after
  | char {s : CharSet} {c : Char} {before after : List Char} : s.mem c = true →
    Matches (char s) before [c] after
  | assertion {a : Assertion} {before after : List Char} :
    a.holds before.getLast? after.head? = true → Matches (.assertion a) before [] after
  | seq {p q : Pattern} {before u v after : List Char} :
    Matches p before u (v ++ after) → Matches q (before ++ u) v after →
    Matches (seq p q) before (u ++ v) after
  | altLeft {p q : Pattern} {before u after : List Char} :
    Matches p before u after → Matches (alt p q) before u after
  | altRight {p q : Pattern} {before u after : List Char} :
    Matches q before u after → Matches (alt p q) before u after
  | starNil {p : Pattern} {before after : List Char} : Matches (star p) before [] after
  | starCons {p : Pattern} {before u v after : List Char} :
    Matches p before u (v ++ after) → Matches (star p) (before ++ u) v after →
    Matches (star p) before (u ++ v) after

/-- Some part of the text is a word that the pattern describes. -/
def Finds (p : Pattern) (text : List Char) : Prop :=
  ∃ before word after, text = before ++ word ++ after ∧ Matches p before word after

/-! ### Search -/

/-- Whether the pattern describes the empty word between two characters. -/
def nullable (before after : Option Char) : Pattern → Bool
  | empty => true
  | char _ => false
  | .assertion a => a.holds before after
  | seq p q => nullable before after p && nullable before after q
  | alt p q => nullable before after p || nullable before after q
  | star _ => true

/-- The first pattern followed by the second, where nothing is put before it if the first is
empty. -/
def followedBy (p q : Pattern) : Pattern := if p = empty then q else seq p q

/-- What the pattern leaves to be matched once `c`, which stands after `before`, has been read. -/
def derivatives (before : Option Char) (c : Char) : Pattern → List Pattern
  | empty => []
  | char s => if s.mem c then [empty] else []
  | .assertion _ => []
  | seq p q =>
    (derivatives before c p).map (followedBy · q)
    ++ if nullable before (some c) p then derivatives before c q else []
  | alt p q => derivatives before c p ++ derivatives before c q
  | star p => (derivatives before c p).map (followedBy · (star p))

/-- Whether one of the patterns matches from here on, or `p` from here or from some later place. -/
def searchFrom (p : Pattern) (live : List Pattern) (before : Option Char) : List Char → Bool
  | [] => (p :: live).any (nullable before none)
  | c :: rest =>
    (p :: live).any (nullable before (some c))
    || searchFrom p ((p :: live).flatMap (derivatives before c)).eraseDups (some c) rest

/-- Whether some part of the text is a word that the pattern describes. -/
def isMatch (p : Pattern) (text : String) : Bool := searchFrom p [] none text.toList

/-! ### Derived patterns -/

/-- Characters one after the other. -/
def literal (s : String) : Pattern := s.toList.foldr (fun c p => seq (char (.single c)) p) empty

/-- The patterns one after the other. -/
def inOrder : List Pattern → Pattern
  | [] => empty
  | [p] => p
  | p :: rest => seq p (inOrder rest)

/-- Any of the patterns. -/
def oneOf : List Pattern → Pattern
  | [] => char .none
  | [p] => p
  | p :: rest => alt p (oneOf rest)

/-- A word of the pattern or none. -/
def optional (p : Pattern) : Pattern := alt empty p

/-- At most `n` words of the pattern. -/
def atMost (p : Pattern) : Nat → Pattern
  | 0 => empty
  | n + 1 => optional (seq p (atMost p n))

/-- So many words of the pattern and then a word of `q`. -/
def times (p : Pattern) : Nat → Pattern → Pattern
  | 0, q => q
  | n + 1, q => seq p (times p n q)

/-- Characters other than a line feed, any number of them. -/
def restOfLine : Pattern := star (char (.compl (.single '\n')))

end Pattern

end CommitLint
