import NumberedBasic.Text.Blank
import NumberedBasic.Text.Letter
import NumberedBasic.Text.LowerCase

/-! # Text

Lines of a program, names and input fields are lists of characters. Trimming
removes blanks, and the end of a line is any run of line feeds and returns.
-/

namespace NumberedBasic

abbrev Text := List Char

namespace Text

/-- The text of a string literal of this library. -/
def ofString (s : String) : Text := s.toList

def toString (text : Text) : String := String.ofList text

def dropEndWhile (p : Char → Bool) (text : Text) : Text :=
  (text.reverse.dropWhile p).reverse

def trimStart (text : Text) : Text :=
  text.dropWhile isBlank

def trim (text : Text) : Text :=
  dropEndWhile isBlank text.trimStart

def isLineEnd (c : Char) : Bool :=
  c == '\n' || c == '\r'

def dropLineEnd (text : Text) : Text :=
  dropEndWhile isLineEnd text

def isEmptyLine (text : Text) : Bool :=
  text.all isBlank

/-- The pieces of a text between separators; there is always at least one. -/
def splitAt (separator : Char) : Text → List Text
  | [] => [[]]
  | c :: rest =>
    if c = separator then [] :: splitAt separator rest
    else
      match splitAt separator rest with
      | piece :: pieces => (c :: piece) :: pieces
      | [] => [[c]]

def firstLine (text : Text) : Text × Text :=
  match text.dropWhile (· != '\n') with
  | [] => (text, [])
  | feed :: rest => (text.takeWhile (· != '\n') ++ [feed], rest)

/-- The lines that follow a piece of one, which is reversed. A line feed, a return
or both together end a line. -/
def linesFrom : Text → Text → List Text
  | [], [] => []
  | piece, [] => [piece.reverse]
  | piece, '\r' :: '\n' :: rest => piece.reverse :: linesFrom [] rest
  | piece, c :: rest =>
    if isLineEnd c then piece.reverse :: linesFrom [] rest else linesFrom (c :: piece) rest

def lines (text : Text) : List Text :=
  linesFrom [] text

/-- As `linesFrom`, but what follows the last end of a line is left out. A return at the
very end may yet be joined by a line feed and ends no line. -/
def wholeLinesFrom : Text → Text → List Text
  | _, [] => []
  | _, ['\r'] => []
  | piece, '\r' :: '\n' :: rest => piece.reverse :: wholeLinesFrom [] rest
  | piece, c :: rest =>
    if isLineEnd c then piece.reverse :: wholeLinesFrom [] rest
    else wholeLinesFrom (c :: piece) rest

/-- The lines of a text that goes on, as far as they are known to be whole. -/
def wholeLines (text : Text) : List Text :=
  wholeLinesFrom [] text

end Text

def integerText (n : Int) : Text :=
  (if n < 0 then ['-'] else []) ++ Nat.toDigits 10 n.natAbs

/-- An integer with more digits is neither read from a text nor written to one. -/
def integerDigits : Nat := 4300

def isWritable (n : Int) : Bool :=
  decide ((Nat.toDigits 10 n.natAbs).length ≤ integerDigits)

end NumberedBasic
