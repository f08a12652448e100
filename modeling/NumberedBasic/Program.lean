import NumberedBasic.Cause
import NumberedBasic.Table

/-! # Stored programs

A program maps line numbers to the texts of its lines and lists them in order.
Texts are kept as they were typed, apart from blanks at their ends.
-/

namespace NumberedBasic

/-- The lines of a program by increasing number. -/
abbrev Program := Table Int Text

namespace Program

def store (p : Program) (number : Int) (text : Text) : Program :=
  p.insert number text.trim

def delete (p : Program) (number : Int) : Except Cause Program :=
  if p.contains number then .ok (p.erase number) else .error (.lineMissing number)

def lineNumbers (p : Program) : List Int :=
  p.keys

def listingLine (number : Int) (text : Text) : Text :=
  integerText number ++ '\t' :: text

def isWritable (p : Program) : Bool :=
  p.lineNumbers.all NumberedBasic.isWritable

/-- The lines in order, up to the first whose number cannot be written. -/
def listing (p : Program) : List Text :=
  (p.entries.takeWhile fun line => NumberedBasic.isWritable line.1).map fun line =>
    listingLine line.1 line.2

def fileText (p : Program) : Text :=
  p.listing.flatMap fun line => line ++ ['\n']

end Program

end NumberedBasic
