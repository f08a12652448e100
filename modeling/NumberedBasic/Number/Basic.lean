/-! # Binary floating-point numbers

A finite magnitude is numbered by its place in the increasing sequence of all
finite magnitudes. Its value, counted in the least positive magnitude, is the
whole number `units`, so every operation on numbers is an operation on `Nat`.
-/

namespace NumberedBasic

/-- Powers are those of the core library, whatever is imported. -/
@[default_instance high]
instance naturalPower {α : Type} [NatPow α] : Pow α Nat := instPowNat

/-- A finite magnitude, given by the number of magnitudes below it. -/
structure Magnitude where
  rank : Nat
  rank_lt : rank < 2047 * 2 ^ 52
  deriving DecidableEq, Repr

namespace Magnitude

def zero : Magnitude := ⟨0, by decide⟩

instance : Inhabited Magnitude := ⟨zero⟩

/-- The number of doublings of the spacing between neighbours, from the finest. -/
def scale (x : Magnitude) : Nat :=
  x.rank / 2 ^ 52 - 1

/-- The magnitude counted in the spacing of its neighbourhood. -/
def mantissa (x : Magnitude) : Nat :=
  x.rank - x.scale * 2 ^ 52

/-- The magnitude counted in the least positive magnitude. -/
def units (x : Magnitude) : Nat :=
  x.mantissa * 2 ^ x.scale

end Magnitude

def unitsOfOne : Nat := 2 ^ 1074

/-- A binary floating-point number of 64 bits; all undefined results are one value. -/
inductive Number where
  | nan
  | infinite (negative : Bool)
  | finite (negative : Bool) (magnitude : Magnitude)
  deriving DecidableEq, Repr

namespace Number

def zero : Number := finite false Magnitude.zero

instance : Inhabited Number := ⟨zero⟩

/-- The number whose interchange encoding is the given 64-bit word. -/
def ofBits (word : Nat) : Number :=
  let negative := decide (2 ^ 63 ≤ word)
  let rank := word % 2 ^ 63
  if h : rank < 2047 * 2 ^ 52 then finite negative ⟨rank, h⟩
  else if rank = 2047 * 2 ^ 52 then infinite negative
  else nan

def toBits : Number → Nat
  | nan => 2047 * 2 ^ 52 + 2 ^ 51
  | infinite negative => (if negative then 2 ^ 63 else 0) + 2047 * 2 ^ 52
  | finite negative x => (if negative then 2 ^ 63 else 0) + x.rank

theorem ofBits_toBits (a : Number) : ofBits a.toBits = a := by
  cases a with
  | nan => rfl
  | infinite negative => cases negative <;> rfl
  | finite negative x =>
    obtain ⟨rank, rank_lt⟩ := x
    cases negative
    · have hm : rank % 2 ^ 63 = rank := Nat.mod_eq_of_lt (by omega)
      have hn : ¬2 ^ 63 ≤ rank := by omega
      simp [toBits, ofBits, hm, hn, rank_lt, -Nat.reducePow]
    · have hm : (2 ^ 63 + rank) % 2 ^ 63 = rank := by omega
      simp [toBits, ofBits, hm, rank_lt, -Nat.reducePow]

def neg : Number → Number
  | nan => nan
  | infinite negative => infinite (!negative)
  | finite negative x => finite (!negative) x

def abs : Number → Number
  | nan => nan
  | infinite _ => infinite false
  | finite _ x => finite false x

theorem neg_neg (a : Number) : a.neg.neg = a := by
  cases a <;> simp [neg]

/-- The place of a number in increasing order, with both zeros at place zero. -/
def place? : Number → Option Int
  | nan => none
  | infinite negative => some (if negative then -(2047 * 2 ^ 52) else 2047 * 2 ^ 52)
  | finite negative x => some (if negative then -(x.rank : Int) else x.rank)

def compareBy (relation : Int → Int → Bool) (a b : Number) : Bool :=
  match a.place?, b.place? with
  | some x, some y => relation x y
  | _, _ => false

def less (a b : Number) : Bool := compareBy (· < ·) a b

def atMost (a b : Number) : Bool := compareBy (· ≤ ·) a b

def equal (a b : Number) : Bool := compareBy (· == ·) a b

def isZero (a : Number) : Bool :=
  a.place? == some 0

theorem isZero_iff (a : Number) :
    a.isZero = true ↔ ∃ negative, a = finite negative Magnitude.zero := by
  cases a with
  | nan => simp [isZero, place?]
  | infinite negative => cases negative <;> simp [isZero, place?]
  | finite negative x =>
    obtain ⟨rank, rank_lt⟩ := x
    have hr : (if negative then -(rank : Int) else rank) = 0 ↔ rank = 0 := by
      split <;> omega
    simp [isZero, place?, Magnitude.zero, hr]

end Number

end NumberedBasic
