import NumberedBasic.Number.Arithmetic

/-! # The length of a diagonal

The sides are scaled to lie below one, and their squares are added to one in exact
parts, each with what its addition has lost. The root of what was added is then
corrected by what its own square still lacks.
-/

namespace NumberedBasic.Number

/-- A sum and what its roundings have lost, kept apart for three sizes of terms. -/
structure Total where
  sum : Number
  large : Number
  middle : Number
  small : Number

namespace Total

def start : Total := ⟨1, 0, 0, 0⟩

def plus (t : Total) (term : Number) : Number × Number :=
  let sum := t.sum.add term
  (sum, (t.sum.sub sum).add term)

def addLarge (t : Total) (term : Number) : Total :=
  let (sum, lost) := t.plus term
  { t with sum, large := t.large.add lost }

def addMiddle (t : Total) (term : Number) : Total :=
  let (sum, lost) := t.plus term
  { t with sum, middle := t.middle.add lost }

def addSmall (t : Total) (term : Number) : Total :=
  let (sum, lost) := t.plus term
  { t with sum, small := t.small.add lost }

/-- Adds a term that is too small to change the sum. -/
def lose (t : Total) (term : Number) : Total :=
  { t with small := t.small.add term }

def value (t : Total) : Number :=
  (t.sum.sub 1).add ((t.large.add t.middle).add t.small)

end Total

/-- Splits a number into two parts whose products are exact. -/
def halves (x : Number) : Number × Number :=
  let wide := x.mul 134217729
  let high := wide.sub (wide.sub x)
  (high, x.sub high)

def addSquare (t : Total) (x : Number) : Total :=
  let (high, low) := x.halves
  ((t.addLarge (high.mul high)).addMiddle ((mul 2 high).mul low)).lose (low.mul low)

def removeSquare (t : Total) (x : Number) : Total :=
  let (high, low) := x.halves
  ((t.addLarge (high.neg.mul high)).addMiddle ((mul (neg 2) high).mul low)).addSmall
    (low.neg.mul low)

def root (x : Number) : Number :=
  x.sqrt?.getD nan

/-- The diagonal of two sides of which the longer one has the given number of binary
digits, counted in the least positive magnitude. -/
def scaledDiagonal (digits : Nat) (a b : Number) : Number :=
  let scale := round false (2 ^ 2148) (2 ^ digits)
  let total := addSquare (addSquare .start (a.mul scale)) (b.mul scale)
  let length := total.value.root
  let rest := (removeSquare total length).value
  (length.add (rest.div (mul 2 length))).div scale

/-- The diagonal of two sides so short that the scale would be infinite. -/
def smallDiagonal (longer a b : Number) : Number :=
  let square (x : Number) := (x.div longer).mul (x.div longer)
  let total := (Total.start.addLarge (square a)).addLarge (square b)
  longer.mul ((total.sum.sub 1).add total.large).root

def diagonal : Number → Number → Number
  | infinite _, _ => infinite false
  | _, infinite _ => infinite false
  | nan, _ => nan
  | _, nan => nan
  | finite _ x, finite _ y =>
    let longer := if x.rank < y.rank then y else x
    let digits := longer.units.log2 + 1
    if longer.rank = 0 then finite false Magnitude.zero
    else if digits < 51 then
      smallDiagonal (finite false longer) (finite false x) (finite false y)
    else scaledDiagonal digits (finite false x) (finite false y)

end NumberedBasic.Number
