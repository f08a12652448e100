import Mathlib.Data.Nat.Digits.Defs
import NumberedBasic.CommandLine.Arguments
import NumberedBasic.Proofs.Number.Written

/-! # A seed and a program

The digits of an integer, with a minus or without, are taken as the value of the seed switch,
unless there are too many of them. What follows the value and does not begin with a dash is the
name of the program.
-/

namespace NumberedBasic

namespace Text

theorem isDigit_of_isDigit {c : Char} (h : c.isDigit = true) : isDigit c = true := by
  rw [isDigit, digitValue?_of_isDigit h]
  rfl

end Text

namespace CommandLine

section Digits

variable {c : Char} {digits : Text} (nonempty : digits ≠ []) (negative : Bool)
  (decimal : ∀ c ∈ digits, c.isDigit = true)

def signText (negative : Bool) : Text :=
  if negative then [Role.dash] else []

theorem not_isPadding_of_isDigit (h : c.isDigit = true) : isPadding c = false := by
  have name := Text.isNameChar_of_isDigit (Text.isDigit_of_isDigit h)
  rw [isPadding, Text.not_isBlank_of_isNameChar name, Bool.false_and]

theorem ne_of_isDigit {other : Char} (h : c.isDigit = true) (ho : other.isDigit = false) :
    c ≠ other := by
  rintro rfl
  cases h.symm.trans ho

include decimal

theorem mem_signed : ∀ c ∈ signText negative ++ digits, c = Role.dash ∨ c.isDigit = true := by
  refine List.forall_mem_append.mpr ⟨?_, fun c hc => .inr (decimal c hc)⟩
  cases negative with
  | false => nofun
  | true => exact List.forall_mem_singleton.mpr (.inl rfl)

theorem not_mem_signed (other : c ≠ Role.dash) (hc : c.isDigit = false) :
    c ∉ signText negative ++ digits := by
  intro member
  rcases mem_signed negative decimal c member with rfl | digit
  · exact other rfl
  · cases digit.symm.trans hc

theorem unpadded_signed : Text.dropEndWhile isPadding
    ((signText negative ++ digits).dropWhile isPadding) = signText negative ++ digits := by
  have unpadded : ∀ c ∈ signText negative ++ digits, isPadding c = false := by
    intro c hc
    rcases mem_signed negative decimal c hc with rfl | digit
    · decide +kernel
    · exact not_isPadding_of_isDigit digit
  have front : (signText negative ++ digits).dropWhile isPadding = signText negative ++ digits :=
    List.dropWhile_eq_self_iff.mpr fun hl => by simp [unpadded _ (List.getElem_mem hl)]
  rw [front]
  exact List.rdropWhile_eq_self_iff.mpr fun hl => by simp [unpadded _ (List.getLast_mem hl)]

include nonempty

theorem takeSign_signed : Field.takeSign (signText negative ++ digits) = (negative, digits) := by
  cases negative with
  | true => rfl
  | false =>
    cases digits with
    | nil => exact absurd rfl nonempty
    | cons c digits => exact Number.takeSign_of_isDigit (decimal c List.mem_cons_self) digits

theorem integer?_signed : integer? (signText negative ++ digits) =
    if integerDigits < digits.length then none
    else some (if negative then -(Text.digitsValue digits : Int) else Text.digitsValue digits) := by
  have joined : '_' ∉ signText negative ++ digits :=
    not_mem_signed negative decimal (by decide) rfl
  have whole : digits.all Text.isDigit = true :=
    List.all_eq_true.mpr fun c hc => Text.isDigit_of_isDigit (decimal c hc)
  have some : digits.isEmpty = false := List.isEmpty_eq_false_iff.mpr nonempty
  rw [integer?, unpadded_signed negative decimal, Number.dropUnderscores?_eq joined]
  simp only [Option.bind_eq_bind, Option.bind_some, takeSign_signed nonempty negative decimal, some,
    whole, Bool.not_true, Bool.or_false, Bool.false_or, decide_eq_true_eq]
  rfl

theorem isNegativeNumber_of_decimal : Role.isNegativeNumber (Role.dash :: digits) = true := by
  have whole : ∀ c ∈ digits, Text.isDigit c = true :=
    fun c hc => Text.isDigit_of_isDigit (decimal c hc)
  have taken : digits.takeWhile Text.isDigit = digits := List.takeWhile_eq_self_iff.mpr whole
  have left : digits.dropWhile Text.isDigit = [] := List.dropWhile_eq_nil_iff.mpr whole
  have last : (Role.dash :: digits).getLast? ≠ some '\n' := fun feed =>
    not_mem_signed true decimal (by decide) rfl (List.mem_of_getLast? feed)
  have some : digits.isEmpty = false := List.isEmpty_eq_false_iff.mpr nonempty
  simp only [Role.isNegativeNumber, if_neg last, taken, left, some, beq_self_eq_true,
    Bool.not_false, Bool.and_self]

end Digits

theorem Switch.second_of_mem_spellings {s : Text × Switch} (hs : s ∈ spellings) :
    (s.1.drop 1).head?.any Char.isDigit = false := by
  have seconds : spellings.all (fun s => !(s.1.drop 1).head?.any Char.isDigit) = true := by
    decide +kernel
  simpa using List.all_eq_true.mp seconds s hs

theorem role_negative {c : Char} {digits : Text} (decimal : ∀ d ∈ c :: digits, d.isDigit = true) :
    Role.of (Role.dash :: c :: digits) = .ok .plain := by
  have digit : c.isDigit = true := decimal c List.mem_cons_self
  have spelled : Switch.ofSpelling? (Role.dash :: c :: digits) = none := by
    refine List.lookup_eq_none_iff.mpr fun s hs => bne_iff_ne.mpr fun same => ?_
    have second := Switch.second_of_mem_spellings hs
    rw [← same] at second
    exact Bool.false_ne_true (second.symm.trans digit)
  have short : Role.shortCandidates (Role.dash :: c :: digits) = [] := by
    refine List.map_eq_nil_iff.mpr (List.filter_eq_nil_iff.mpr fun s hs same => ?_)
    have second := Switch.second_of_mem_spellings hs
    rw [of_decide_eq_true same] at second
    exact Bool.false_ne_true (second.symm.trans digit)
  have uncut : Role.cut (Role.dash :: c :: digits) = (Role.dash :: c :: digits, none) := by
    have none : (Role.dash :: c :: digits).dropWhile (· != '=') = [] := by
      refine List.dropWhile_eq_nil_iff.mpr fun d hd => bne_iff_ne.mpr ?_
      rintro rfl
      exact not_mem_signed true decimal (by decide) rfl hd
    rw [Role.cut, none]
  have one : c ≠ Role.dash := ne_of_isDigit digit (by decide)
  have negative := isNegativeNumber_of_decimal (List.cons_ne_nil c digits) decimal
  simp [Role.of, spelled, uncut, one, short, negative]

theorem Role.of_plain {argument : Text} (h : argument.head? ≠ some dash) :
    Role.of argument = .ok plain :=
  if_pos (.inl h)

theorem Role.ne_dividing_of_plain {argument : Text} (plain : Role.of argument = .ok plain) :
    argument ≠ dividing := by
  rintro rfl
  exact absurd plain (by decide +kernel)

namespace Seed

structure Given (argument : Text) (seed : Int) : Prop where
  plain : Role.of argument = .ok .plain
  value : integer? argument = some seed

theorem Given.read {argument : Text} {seed : Int} (given : Given argument seed) :
    Seed.read argument = .ok (.number seed) := by
  rw [Seed.read, if_neg (Role.ne_dividing_of_plain given.plain), given.value]

theorem decimal_toDigits (n : Nat) : ∀ c ∈ Nat.toDigits 10 n, c.isDigit = true :=
  fun _ hc => Nat.isDigit_of_mem_toDigits (by decide) (by decide) hc

theorem integerText_eq (seed : Int) :
    integerText seed = signText (seed < 0) ++ Nat.toDigits 10 seed.natAbs := by
  simp [integerText, signText, Role.dash]

/-- The text of an integer is never taken for a switch. -/
theorem plain_integerText (seed : Int) : Role.of (integerText seed) = .ok .plain := by
  have decimal := decimal_toDigits seed.natAbs
  rw [integerText_eq]
  cases hd : Nat.toDigits 10 seed.natAbs with
  | nil => exact absurd hd Nat.toDigits_ne_nil
  | cons c digits =>
    rw [hd] at decimal
    by_cases negative : seed < 0
    · rw [decide_eq_true negative]
      exact role_negative decimal
    · rw [decide_eq_false negative]
      refine Role.of_plain fun dash => ?_
      exact ne_of_isDigit (decimal c List.mem_cons_self) (by decide) (Option.some.inj dash)

theorem integer?_integerText (seed : Int) : integer? (integerText seed) =
    if integerDigits < (Nat.toDigits 10 seed.natAbs).length then none else some seed := by
  rw [integerText_eq, integer?_signed Nat.toDigits_ne_nil _ (decimal_toDigits _),
    Text.digitsValue_toDigits]
  congr 2
  simp only [decide_eq_true_eq]
  split <;> omega

theorem given_integerText {seed : Int} (short : seed.natAbs < 10 ^ integerDigits) :
    Given (integerText seed) seed where
  plain := plain_integerText seed
  value := by
    have length := (Nat.length_toDigits_le_iff (b := 10) (by decide) (by decide)).mpr short
    rw [integer?_integerText, if_neg (Nat.not_lt.mpr length)]

theorem read_integerText_long {seed : Int} (long : 10 ^ integerDigits ≤ seed.natAbs) :
    Seed.read (integerText seed) = .error (.notInteger (integerText seed)) := by
  have length : integerDigits < (Nat.toDigits 10 seed.natAbs).length := by
    rwa [← Nat.not_le, Nat.length_toDigits_le_iff (by decide) (by decide), Nat.not_lt]
  rw [Seed.read, if_neg (Role.ne_dividing_of_plain (plain_integerText seed)),
    integer?_integerText, if_pos length]

end Seed

/-- The value of the seed switch is read, and what stands behind it is the program. -/
theorem read_seeded {argument name : Text} (plain : Role.of argument = .ok .plain)
    (named : name.head? ≠ some Role.dash) : read [Text.ofString "--seed", argument, name] =
      (Seed.read argument).map fun seed => .options ⟨some name, false, seed, true⟩ := by
  have switch : Role.of (Text.ofString "--seed") = .ok (.switch .seed false none) := by
    decide +kernel
  have undivided : Text.ofString "--seed" ≠ Role.dividing := by decide +kernel
  have undivided' : argument ≠ Role.dividing := Role.ne_dividing_of_plain plain
  have undivided'' : name ≠ Role.dividing := Role.ne_dividing_of_plain (Role.of_plain named)
  have words : Word.ofArguments [Text.ofString "--seed", argument, name] = .ok
      [⟨Text.ofString "--seed", .switch .seed false none⟩, ⟨argument, .plain⟩, ⟨name, .plain⟩] := by
    simp only [Word.ofArguments, if_neg undivided, if_neg undivided', if_neg undivided'', switch,
      plain, Role.of_plain named]
    rfl
  rw [read, words]
  change (Reader.withSeed ⟨Options.default, []⟩ argument >>= fun r => r.takeWords _) = _
  unfold Reader.withSeed
  cases Seed.read argument <;> rfl

end CommandLine

end NumberedBasic
