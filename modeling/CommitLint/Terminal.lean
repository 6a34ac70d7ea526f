/-!
# Styled text for a terminal

A piece of text with a colour and an attribute. With styling on it is written between the codes that
switch them on and the one code that switches all off; with styling off it is the bare text.
-/

namespace CommitLint.Terminal

/-- A colour. -/
inductive Colour
  | red
  | green
  | yellow
  | cyan
  deriving DecidableEq, Repr

/-- A weight of the letters. -/
inductive Weight
  | bold
  | dim
  deriving DecidableEq, Repr

def Colour.number : Colour → String
  | .red => "31"
  | .green => "32"
  | .yellow => "33"
  | .cyan => "36"

def Weight.number : Weight → String
  | .bold => "1"
  | .dim => "2"

def sequence (number : String) : String := "\x1b[" ++ number ++ "m"

/-- A text with its style. -/
structure Piece where
  /-- The colour, if it has one. -/
  colour : Option Colour
  /-- The weight, if it has one. -/
  weight : Option Weight
  /-- The text. -/
  text : String
  deriving DecidableEq, Repr

def plain (colour : Colour) (text : String) : Piece := ⟨some colour, none, text⟩

def bold (colour : Colour) (text : String) : Piece := ⟨some colour, some .bold, text⟩

def dim (text : String) : Piece := ⟨none, some .dim, text⟩

/-- The codes that switch a piece's style on: the colour first. -/
def Piece.opening (piece : Piece) : String :=
  (match piece.colour with
    | some colour => sequence colour.number
    | none => "")
  ++ (match piece.weight with
    | some weight => sequence weight.number
    | none => "")

def Piece.render (styled : Bool) (piece : Piece) : String :=
  if styled then piece.opening ++ piece.text ++ sequence "0" else piece.text

theorem Piece.render_false (piece : Piece) : piece.render false = piece.text := by
  simp [Piece.render]

end CommitLint.Terminal
