import NumberedBasic.Number.Round

/-! # Arithmetic on numbers

Each operation is the exact result rounded once. Sums, products, quotients and
roots of finite numbers are computed on whole numbers of the least magnitude.
-/

namespace NumberedBasic.Number

/-- A finite number's value counted in the least positive magnitude. -/
def signedUnits (negative : Bool) (x : Magnitude) : Int :=
  if negative then -(x.units : Int) else x.units

def add : Number → Number → Number
  | nan, _ => nan
  | _, nan => nan
  | infinite s, infinite t => if s = t then infinite s else nan
  | infinite s, finite _ _ => infinite s
  | finite _ _, infinite t => infinite t
  | finite s x, finite t y =>
    let total := signedUnits s x + signedUnits t y
    if total = 0 then finite (s && t) Magnitude.zero
    else round (decide (total < 0)) total.natAbs 1

def sub (a b : Number) : Number :=
  add a b.neg

def mul : Number → Number → Number
  | nan, _ => nan
  | _, nan => nan
  | infinite s, infinite t => infinite (s ^^ t)
  | infinite s, finite t y => if y.rank = 0 then nan else infinite (s ^^ t)
  | finite s x, infinite t => if x.rank = 0 then nan else infinite (s ^^ t)
  | finite s x, finite t y => round (s ^^ t) (x.units * y.units) unitsOfOne

def div : Number → Number → Number
  | nan, _ => nan
  | _, nan => nan
  | infinite _, infinite _ => nan
  | infinite s, finite t _ => infinite (s ^^ t)
  | finite s _, infinite t => finite (s ^^ t) Magnitude.zero
  | finite s x, finite t y =>
    if y.rank = 0 then
      if x.rank = 0 then nan else infinite (s ^^ t)
    else round (s ^^ t) (x.units * unitsOfOne) y.units

/-- The integer between a finite number and zero that is nearest to the number. -/
def truncate? : Number → Option Int
  | finite negative x =>
    let whole := x.units / unitsOfOne
    some (if negative then -(whole : Int) else whole)
  | _ => none

def ofInt (n : Int) : Number :=
  round (decide (n < 0)) (n.natAbs * unitsOfOne) 1

instance : OfNat Number n := ⟨ofInt n⟩

def sqrt? : Number → Option Number
  | nan => some nan
  | infinite true => none
  | infinite false => some (infinite false)
  | finite negative x =>
    if x.rank = 0 then some (finite negative x)
    else if negative then none
    else
      let exponent := x.scale + 1074
      some (roundRoot (x.mantissa * 2 ^ (exponent % 2)) (exponent / 2))

/-- Applies a function of the machine's own floating-point unit. -/
def throughFloat (f : Float → Float) (a : Number) : Number :=
  ofBits (f (Float.ofBits (UInt64.ofNat a.toBits))).toBits.toNat

def sin (a : Number) : Number := throughFloat Float.sin a

def cos (a : Number) : Number := throughFloat Float.cos a

def pi : Number := ofBits 0x400921fb54442d18

end NumberedBasic.Number
