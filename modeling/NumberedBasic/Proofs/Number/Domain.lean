import NumberedBasic.Proofs.Evaluation.Seed
import NumberedBasic.Proofs.Number.Remainder

/-! # Where functions are defined

The calls that fail are listed here with their causes, without looking at what is computed. A
call fails in these cases and in no others: a sum of squares always has a root, and all that
overflows or is undefined is a number again.
-/

namespace NumberedBasic

namespace Number

variable {a b c : Number}

def IsFinite (a : Number) : Prop :=
  ∃ negative x, a = finite negative x

theorem not_isFinite_nan : ¬nan.IsFinite := nofun

theorem not_isFinite_infinite (negative : Bool) : ¬(infinite negative).IsFinite := nofun

theorem truncate?_eq_none_iff : a.truncate? = none ↔ ¬a.IsFinite := by
  cases a with
  | nan => exact iff_of_true rfl not_isFinite_nan
  | infinite negative => exact iff_of_true rfl (not_isFinite_infinite negative)
  | finite negative x => exact iff_of_false nofun (not_not.mpr ⟨negative, x, rfl⟩)

theorem sqrt?_eq_none_iff : a.sqrt? = none ↔ a.less 0 = true := by
  have zero : (0 : Number).place? = some 0 := by decide +kernel
  unfold less compareBy
  rw [zero]
  cases a with
  | nan => exact iff_of_false nofun nofun
  | infinite negative => cases negative <;> simp [sqrt?, place?]
  | finite negative x =>
    have positive := Nat.pos_iff_ne_zero (n := x.rank)
    by_cases none : x.rank = 0 <;> cases negative <;> simp [sqrt?, place?, none, positive]

def Unsigned : Number → Prop
  | nan => True
  | infinite negative => negative = false
  | finite negative _ => negative = false

theorem unsigned_round (numerator denominator : Nat) :
    (round false numerator denominator).Unsigned := by
  unfold round
  dsimp only
  split <;> exact rfl

theorem unsigned_mul_self (a : Number) : (a.mul a).Unsigned := by
  cases a with
  | nan => trivial
  | infinite negative => exact Bool.xor_self negative
  | finite negative x =>
    have product : mul (finite negative x) (finite negative x) =
        round (negative ^^ negative) (x.units * x.units) unitsOfOne := rfl
    rw [product, Bool.xor_self]
    exact unsigned_round _ _

theorem Unsigned.add (ha : a.Unsigned) (hb : b.Unsigned) : (a.add b).Unsigned := by
  cases a with
  | nan => trivial
  | infinite s =>
    cases ha
    cases b with
    | nan => trivial
    | infinite t =>
      cases hb
      exact rfl
    | finite t y => exact rfl
  | finite s x =>
    cases ha
    cases b with
    | nan => trivial
    | infinite t => exact hb
    | finite t y =>
      cases hb
      have sum : signedUnits false x + signedUnits false y = ((x.units + y.units : Nat) : Int) :=
        rfl
      have sign : decide (((x.units + y.units : Nat) : Int) < 0) = false :=
        decide_eq_false (by omega)
      rw [Number.add, sum]
      split
      · exact rfl
      · rw [sign]
        exact unsigned_round _ _

theorem Unsigned.sqrt?_ne_none (h : a.Unsigned) : a.sqrt? ≠ none := by
  cases a with
  | nan => nofun
  | infinite negative =>
    cases h
    nofun
  | finite negative x =>
    cases h
    by_cases zero : x.rank = 0 <;> simp [sqrt?, zero]

end Number

namespace Builtin

open Number

variable {a b : Number} {clock : Nat} {name : Text} {arguments : List Number} {cause : Cause}
  {g h : Generator}

inductive Fails : Text → List Number → Cause → Prop where
  | unknown {name : Text} {arguments : List Number} (unnamed : ∀ f : Builtin, f.name ≠ name) :
      Fails name arguments (.unknownFunction name)
  | count {f : Builtin} {arguments : List Number} (other : arguments.length ≠ f.arity) :
      Fails f.name arguments (.argumentCount f.name)
  | root {a : Number} (below : a.less 0 = true) : Fails sqr.name [a] (.undefinedIn sqr.name)
  | sine (negative : Bool) : Fails sin.name [.infinite negative] (.undefinedIn sin.name)
  | cosine (negative : Bool) : Fails cos.name [.infinite negative] (.undefinedIn cos.name)
  | whole {a : Number} (unbounded : ¬a.IsFinite) : Fails int.name [a] (.undefinedIn int.name)
  | divisor {a b : Number} (unbounded : ¬b.IsFinite) :
      Fails mod.name [a, b] (.undefinedIn mod.name)
  | zero {a b : Number} (none : b.Truncates 0) : Fails mod.name [a, b] (.divisionByZeroIn mod.name)
  | dividend {a b : Number} {n : Int} (divisor : b.Truncates n) (nonzero : n ≠ 0)
      (unbounded : ¬a.IsFinite) : Fails mod.name [a, b] (.undefinedIn mod.name)

theorem value_of_count {f : Builtin} (other : arguments.length ≠ f.arity) :
    f.value clock arguments = .error (.argumentCount f.name) := by
  rcases arguments with - | ⟨a, - | ⟨b, - | ⟨c, - | ⟨d, arguments⟩⟩⟩⟩ <;> cases f <;>
    first | rfl | exact absurd rfl other

theorem call_of_count {f : Builtin} (other : arguments.length ≠ f.arity) :
    f.call clock arguments g = (.error (.argumentCount f.name), g) := by
  unfold call
  split
  · exact absurd rfl other
  · rw [value_of_count other]

theorem callByName_name (f : Builtin) (arguments : List Number) :
    callByName clock f.name arguments g = f.call clock arguments g := by
  simp only [callByName, ofName?_name]

theorem whenDefined_eq_error_iff {f : Builtin} {value : Option Number} :
    whenDefined f value = .error cause ↔ value = none ∧ cause = .undefinedIn f.name := by
  cases value <;> simp [whenDefined, eq_comm]

theorem unlessInfinite_eq_error_iff {f : Builtin} {function : Number → Number} :
    unlessInfinite f function a = .error cause ↔
      (∃ negative, a = .infinite negative) ∧ cause = .undefinedIn f.name := by
  cases a <;> simp [unlessInfinite, eq_comm]

/-- The divisor is looked at before the dividend. -/
theorem remainder_eq_error_iff : remainder a b = .error cause ↔
    (¬b.IsFinite ∧ cause = .undefinedIn mod.name) ∨
    (b.Truncates 0 ∧ cause = .divisionByZeroIn mod.name) ∨
    (∃ n, b.Truncates n ∧ n ≠ 0) ∧ ¬a.IsFinite ∧ cause = .undefinedIn mod.name := by
  simp only [← truncate?_eq_none_iff, ← truncate?_eq_some_iff]
  unfold remainder
  split
  · rename_i divisor
    simp [divisor, eq_comm]
  · rename_i divisor
    simp [divisor, eq_comm]
  · rename_i n nonzero divisor
    replace nonzero : n ≠ 0 := nonzero
    split
    · rename_i dividend
      simp [divisor, dividend, nonzero, eq_comm]
    · rename_i dividend
      simp [divisor, dividend, nonzero]

theorem Fails.call (fails : Fails name arguments cause) (clock : Nat) (g : Generator) :
    callByName clock name arguments g = (.error cause, g) := by
  cases fails with
  | unknown unnamed =>
    cases known : ofName? name with
    | none => simp only [callByName, known]
    | some f => exact absurd (name_of_ofName? known) (unnamed f)
  | count other => rw [callByName_name, call_of_count other]
  | root below =>
    rw [callByName_name]
    exact congrArg (·, g) (whenDefined_eq_error_iff.mpr ⟨sqrt?_eq_none_iff.mpr below, rfl⟩)
  | sine negative => exact callByName_name sin _
  | cosine negative => exact callByName_name cos _
  | whole unbounded =>
    have undefined := truncate?_eq_none_iff.mpr unbounded
    rw [callByName_name]
    exact congrArg (·, g) (whenDefined_eq_error_iff.mpr ⟨by rw [undefined]; rfl, rfl⟩)
  | divisor unbounded =>
    rw [callByName_name]
    exact congrArg (·, g) (remainder_eq_error_iff.mpr (.inl ⟨unbounded, rfl⟩))
  | zero none =>
    rw [callByName_name]
    exact congrArg (·, g) (remainder_eq_error_iff.mpr (.inr (.inl ⟨none, rfl⟩)))
  | dividend divisor nonzero unbounded =>
    rw [callByName_name]
    exact congrArg (·, g)
      (remainder_eq_error_iff.mpr (.inr (.inr ⟨⟨_, divisor, nonzero⟩, unbounded, rfl⟩)))

def total : List Builtin :=
  [hypot2, hypot3, rad, deg, min, max, abs, iif]

variable (clock) in
theorem exists_value_of_total {f : Builtin} (everywhere : f ∈ total)
    (count : arguments.length = f.arity) : ∃ value, f.value clock arguments = .ok value := by
  cases f with
  | abs | rad | deg =>
    obtain ⟨a, rfl⟩ := List.length_eq_one_iff.mp count
    exact ⟨_, rfl⟩
  | min | max | hypot2 =>
    obtain ⟨a, b, rfl⟩ := List.length_eq_two.mp count
    exact ⟨_, rfl⟩
  | iif =>
    obtain ⟨a, b, c, rfl⟩ := List.length_eq_three.mp count
    exact ⟨_, rfl⟩
  | hypot3 =>
    obtain ⟨a, b, c, rfl⟩ := List.length_eq_three.mp count
    have squares := ((unsigned_mul_self a).add (unsigned_mul_self b)).add (unsigned_mul_self c)
    obtain ⟨root, defined⟩ := Option.ne_none_iff_exists'.mp squares.sqrt?_ne_none
    exact ⟨root, congrArg (whenDefined hypot3) defined⟩
  | timer | rnd | pi | int | sqr | sin | cos | mod => exact absurd everywhere (by decide)

/-- A function that is given as many arguments as it has fails only outside its domain. -/
theorem fails_of_value {f : Builtin} (undrawn : f ≠ rnd) (count : arguments.length = f.arity)
    (failed : f.value clock arguments = .error cause) : Fails f.name arguments cause := by
  by_cases everywhere : f ∈ total
  · obtain ⟨value, found⟩ := exists_value_of_total clock everywhere count
    cases failed.symm.trans found
  cases f with
  | rnd => exact absurd rfl undrawn
  | timer | pi =>
    obtain rfl := List.length_eq_zero_iff.mp count
    cases failed
  | int =>
    obtain ⟨a, rfl⟩ := List.length_eq_one_iff.mp count
    obtain ⟨undefined, rfl⟩ := whenDefined_eq_error_iff.mp failed
    exact .whole (truncate?_eq_none_iff.mp (Option.map_eq_none_iff.mp undefined))
  | sqr =>
    obtain ⟨a, rfl⟩ := List.length_eq_one_iff.mp count
    obtain ⟨undefined, rfl⟩ := whenDefined_eq_error_iff.mp failed
    exact .root (sqrt?_eq_none_iff.mp undefined)
  | sin =>
    obtain ⟨a, rfl⟩ := List.length_eq_one_iff.mp count
    obtain ⟨⟨negative, rfl⟩, rfl⟩ := unlessInfinite_eq_error_iff.mp failed
    exact .sine negative
  | cos =>
    obtain ⟨a, rfl⟩ := List.length_eq_one_iff.mp count
    obtain ⟨⟨negative, rfl⟩, rfl⟩ := unlessInfinite_eq_error_iff.mp failed
    exact .cosine negative
  | mod =>
    obtain ⟨a, b, rfl⟩ := List.length_eq_two.mp count
    rcases remainder_eq_error_iff.mp failed with
      ⟨unbounded, rfl⟩ | ⟨none, rfl⟩ | ⟨⟨n, divisor, nonzero⟩, unbounded, rfl⟩
    · exact .divisor unbounded
    · exact .zero none
    · exact .dividend divisor nonzero unbounded
  | hypot2 | hypot3 | rad | deg | min | max | abs | iif => exact absurd (by decide) everywhere

theorem fails_of_call (failed : callByName clock name arguments g = (.error cause, h)) :
    Fails name arguments cause := by
  by_cases unnamed : ∀ f : Builtin, f.name ≠ name
  · rw [Fails.call (.unknown unnamed)] at failed
    cases failed
    exact .unknown unnamed
  · obtain ⟨f, rfl⟩ := not_forall_not.mp unnamed
    rw [callByName_name] at failed
    by_cases count : arguments.length = f.arity
    · by_cases drawn : f = rnd
      · obtain rfl := drawn
        obtain rfl := List.length_eq_zero_iff.mp count
        cases failed
      · rw [call_of_ne_rnd drawn] at failed
        exact fails_of_value drawn count (congrArg Prod.fst failed)
    · rw [call_of_count count] at failed
      cases failed
      exact .count count

/-- The kind and the message of a failed call's cause. The message ends with the name. -/
def reports (name : Text) : List (CauseKind × String) :=
  [(.naming, "No such function: " ++ String.ofList name),
    (.naming, "Bad argument count in call to " ++ String.ofList name),
    (.mathematical, "Math error in call to " ++ String.ofList name),
    (.mathematical, "Division by zero in call to " ++ String.ofList name)]

theorem Fails.report (fails : Fails name arguments cause) :
    (cause.kind, cause.message) ∈ reports name := by
  cases fails with
  | unknown => exact .head _
  | count => exact .tail _ (.head _)
  | zero => exact .tail _ (.tail _ (.tail _ (.head _)))
  | root | sine | cosine | whole | divisor | dividend => exact .tail _ (.tail _ (.head _))

/-- A call fails in the listed cases and in no others, for the listed cause, which names the
function. It leaves the random numbers alone then, and otherwise it has a value. Eight functions
have one for all numbers. -/
theorem call_fails_exactly (clock : Nat) (name : Text) (arguments : List Number) (g : Generator) :
    (∀ cause h, callByName clock name arguments g = (.error cause, h) ↔
      Fails name arguments cause ∧ h = g) ∧
    ((∃ value h, callByName clock name arguments g = (.ok value, h)) ↔
      ∀ cause, ¬Fails name arguments cause) ∧
    (∀ cause, Fails name arguments cause → (cause.kind, cause.message) ∈ reports name) ∧
    ∀ f ∈ total, f.name = name → arguments.length = f.arity →
      ∃ value, callByName clock name arguments g = (.ok value, g) := by
  refine ⟨fun cause h => ?_, ?_, fun cause => Fails.report, ?_⟩
  · constructor
    · intro failed
      have fails := fails_of_call failed
      exact ⟨fails, (congrArg Prod.snd ((fails.call clock g).symm.trans failed)).symm⟩
    · rintro ⟨fails, rfl⟩
      exact fails.call clock h
  · constructor
    · rintro ⟨value, h, found⟩ cause fails
      cases found.symm.trans (fails.call clock g)
    · intro succeeds
      rcases found : callByName clock name arguments g with ⟨cause | value, h⟩
      · exact absurd (fails_of_call found) (succeeds cause)
      · exact ⟨value, h, rfl⟩
  · rintro f everywhere rfl count
    obtain ⟨value, found⟩ := exists_value_of_total clock everywhere count
    have undrawn : f ≠ rnd := fun same => absurd (same ▸ everywhere) (by decide)
    exact ⟨value, by rw [callByName_name, call_of_ne_rnd undrawn, found]⟩

/-- A divisor below one is found before a dividend that is undefined, and the length of a diagonal
is defined for any sides. -/
theorem mod_by_half_fails :
    let half := ofLiteral ['0', '.', '5']
    let g := Generator.ofSeed 0
    callByName 0 mod.name [.nan, half] g = (.error (.divisionByZeroIn mod.name), g) ∧
      ∃ value, callByName 0 hypot3.name [.infinite true, .nan, half] g = (.ok value, g) := by
  intro half g
  obtain ⟨fails, -⟩ := call_fails_exactly 0 mod.name [.nan, half] g
  obtain ⟨-, -, -, everywhere⟩ :=
    call_fails_exactly 0 hypot3.name [.infinite true, .nan, half] g
  have none : half.Truncates 0 := truncate?_eq_some_iff.mp (by decide +kernel)
  exact ⟨(fails _ g).mpr ⟨.zero none, rfl⟩, everywhere hypot3 (by decide) rfl rfl⟩

end Builtin

end NumberedBasic
