import NumberedBasic.Generator
import NumberedBasic.Number.Diagonal
import NumberedBasic.Cause

/-! # Built-in functions

Each function has a name and a number of arguments. A call fails on a wrong
number of arguments and outside the function's domain, and only then.
-/

namespace NumberedBasic

inductive Builtin where
  | timer
  | rnd
  | pi
  | int
  | abs
  | sqr
  | sin
  | cos
  | rad
  | deg
  | min
  | max
  | mod
  | hypot2
  | hypot3
  | iif
  deriving DecidableEq, Repr

namespace Builtin

def all : List Builtin :=
  [timer, rnd, pi, int, abs, sqr, sin, cos, rad, deg, min, max, mod, hypot2, hypot3, iif]

def name : Builtin → Text
  | timer => ['t', 'i', 'm', 'e', 'r']
  | rnd => ['r', 'n', 'd']
  | pi => ['p', 'i']
  | int => ['i', 'n', 't']
  | abs => ['a', 'b', 's']
  | sqr => ['s', 'q', 'r']
  | sin => ['s', 'i', 'n']
  | cos => ['c', 'o', 's']
  | rad => ['r', 'a', 'd']
  | deg => ['d', 'e', 'g']
  | min => ['m', 'i', 'n']
  | max => ['m', 'a', 'x']
  | mod => ['m', 'o', 'd']
  | hypot2 => ['h', 'y', 'p', 'o', 't', '2']
  | hypot3 => ['h', 'y', 'p', 'o', 't', '3']
  | iif => ['i', 'i', 'f']

def ofName? (name : Text) : Option Builtin :=
  all.find? (·.name = name)

theorem name_of_ofName? {name : Text} {b : Builtin} (h : ofName? name = some b) :
    b.name = name := by
  simpa using List.find?_some h

theorem ofName?_name (b : Builtin) : ofName? b.name = some b := by
  cases b <;> rfl

def arity : Builtin → Nat
  | timer | rnd | pi => 0
  | int | abs | sqr | sin | cos | rad | deg => 1
  | min | max | mod | hypot2 => 2
  | hypot3 | iif => 3

def describe (b : Builtin) : String :=
  s!"<Builtin {String.ofList b.name}/{b.arity}>"

/-- The seconds of a clock that counts nanoseconds, which are rounded before they are
divided unless they make up whole seconds. -/
def seconds (clock : Nat) : Number :=
  if clock % 1000000000 = 0 then Number.ofInt (clock / 1000000000 : Nat)
  else (Number.ofInt clock).div (Number.ofInt 1000000000)

/-- The remainder of the division of two truncated numbers, with the sign of the
first. A truncated divisor of zero is found before an undefined dividend. -/
def remainder (a b : Number) : Except Cause Number :=
  match b.truncate? with
  | none => .error (.undefinedIn mod.name)
  | some 0 => .error (.divisionByZeroIn mod.name)
  | some divisor =>
    match a.truncate? with
    | none => .error (.undefinedIn mod.name)
    | some dividend =>
      let rest := Number.ofInt (dividend.tmod divisor)
      .ok (if rest.isZero && decide (dividend < 0) then rest.neg else rest)

/-- A value that an infinite argument does not have. -/
def unlessInfinite (b : Builtin) (f : Number → Number) : Number → Except Cause Number
  | .infinite _ => .error (.undefinedIn b.name)
  | a => .ok (f a)

/-- A value that only some arguments have. -/
def whenDefined (b : Builtin) (value : Option Number) : Except Cause Number :=
  match value with
  | some a => .ok a
  | none => .error (.undefinedIn b.name)

/-- The square root of a sum of three squares, each step rounded. -/
def rootOfSquares (a b c : Number) : Option Number :=
  ((((a.mul a).add (b.mul b))).add (c.mul c)).sqrt?

/-- The value of a call that draws no random number. -/
def value (clock : Nat) : Builtin → List Number → Except Cause Number
  | timer, [] => .ok (seconds clock)
  | pi, [] => .ok Number.pi
  | int, [a] => whenDefined int (a.truncate?.map Number.ofInt)
  | abs, [a] => .ok a.abs
  | sqr, [a] => whenDefined sqr a.sqrt?
  | sin, [a] => unlessInfinite sin Number.sin a
  | cos, [a] => unlessInfinite cos Number.cos a
  | rad, [a] => .ok (a.mul (Number.pi.div 180))
  | deg, [a] => .ok (a.mul ((180 : Number).div Number.pi))
  | min, [a, b] => .ok (if b.less a then b else a)
  | max, [a, b] => .ok (if a.less b then b else a)
  | mod, [a, b] => remainder a b
  | hypot2, [a, b] => .ok (a.diagonal b)
  | hypot3, [a, b, c] => whenDefined hypot3 (rootOfSquares a b c)
  | iif, [condition, a, b] => .ok (if condition.isZero then b else a)
  | b, _ => .error (.argumentCount b.name)

/-- Calls a function, which may draw from the generator. -/
def call (clock : Nat) (b : Builtin) (arguments : List Number) (g : Generator) :
    Except Cause Number × Generator :=
  match b, arguments with
  | rnd, [] => (.ok g.draw.1, g.draw.2)
  | _, _ => (b.value clock arguments, g)

def callByName (clock : Nat) (name : Text) (arguments : List Number) (g : Generator) :
    Except Cause Number × Generator :=
  match ofName? name with
  | some b => b.call clock arguments g
  | none => (.error (.unknownFunction name), g)

end Builtin

end NumberedBasic
