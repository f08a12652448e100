import Mathlib.Data.Bool.AllAny
import NumberedBasic.Cause
import NumberedBasic.Proofs.Text.Class

/-! # Letter case

Folding turns the capitals of ASCII into small letters, or leaves everything as it is. No class of
characters tells a text from its folded text, and both are the same in lower case.
-/

namespace NumberedBasic

open Text

/-- Which letters count as the same ones. -/
inductive Folding where
  | exact
  | ascii
  deriving DecidableEq

def capitals : List Char :=
  (List.range 26).map fun k => Char.ofNat (65 + k)

theorem mem_capitals_of_toLower_ne {c : Char} (h : c.toLower ≠ c) : c ∈ capitals := by
  unfold Char.toLower at h
  split at h
  · rename_i capital
    have lower : 65 ≤ c.toNat := capital.1
    have upper : c.toNat ≤ 90 := capital.2
    refine List.mem_map.mpr ⟨c.toNat - 65, List.mem_range.mpr (by omega), ?_⟩
    rw [Nat.add_sub_cancel' lower, Char.ofNat_toNat]
  · exact absurd rfl h

/-- The sign is no letter that has another spelling. -/
def Text.isCaseless (sign : Char) : Bool :=
  capitals.all fun c => c.toLower ≠ sign ∧ c ≠ sign

def Text.Caseless (text : Text) : Prop :=
  text.all isCaseless = true

instance (text : Text) : Decidable text.Caseless :=
  inferInstanceAs (Decidable (text.all isCaseless = true))

namespace Folding

variable (F : Folding)

def char : Folding → Char → Char
  | exact, c => c
  | ascii, c => c.toLower

/-- What capitals share with their small letters, all characters share with what they fold to. -/
theorem char_invariant {α : Type} (f : Char → α) (h : ∀ c ∈ capitals, f c.toLower = f c)
    (c : Char) : f (F.char c) = f c := by
  cases F with
  | exact => rfl
  | ascii =>
    by_cases same : c.toLower = c
    · exact congrArg f same
    · exact h c (mem_capitals_of_toLower_ne same)

section Classes

@[simp] theorem char_char (c : Char) : F.char (F.char c) = F.char c := by
  cases F with
  | exact => rfl
  | ascii =>
    exact char_invariant ascii Char.toLower (List.all_iff_forall_prop.mp (by decide +kernel)) c

@[simp] theorem isBlank_char (c : Char) : isBlank (F.char c) = isBlank c :=
  F.char_invariant isBlank (List.all_iff_forall_prop.mp (by decide +kernel)) c

@[simp] theorem isLetter_char (c : Char) : isLetter (F.char c) = isLetter c :=
  F.char_invariant isLetter (List.all_iff_forall_prop.mp (by decide +kernel)) c

@[simp] theorem digitValue?_char (c : Char) : digitValue? (F.char c) = digitValue? c :=
  F.char_invariant digitValue? (List.all_iff_forall_prop.mp (by decide +kernel)) c

@[simp] theorem isDigit_char (c : Char) : isDigit (F.char c) = isDigit c :=
  congrArg Option.isSome (F.digitValue?_char c)

@[simp] theorem isNameChar_char (c : Char) : isNameChar (F.char c) = isNameChar c :=
  F.char_invariant isNameChar (List.all_iff_forall_prop.mp (by decide +kernel)) c

@[simp] theorem lowerChar_char (c : Char) : lowerChar (F.char c) = lowerChar c :=
  F.char_invariant lowerChar (List.all_iff_forall_prop.mp (by decide +kernel)) c

@[simp] theorem isCased_char (c : Char) : isCased (F.char c) = isCased c :=
  F.char_invariant isCased (List.all_iff_forall_prop.mp (by decide +kernel)) c

@[simp] theorem isCaseIgnorable_char (c : Char) :
    isCaseIgnorable (F.char c) = isCaseIgnorable c :=
  F.char_invariant isCaseIgnorable (List.all_iff_forall_prop.mp (by decide +kernel)) c

theorem char_eq_iff {sign : Char} (h : isCaseless sign = true) (c : Char) :
    F.char c = sign ↔ c = sign := by
  have others : ∀ c ∈ capitals, c.toLower ≠ sign ∧ c ≠ sign := List.all_iff_forall_prop.mp h
  have same := F.char_invariant (· = sign) (fun c hc => propext
    ⟨fun he => absurd he (others c hc).1, fun he => absurd he (others c hc).2⟩) c
  exact iff_of_eq same

theorem char_of_not_isLetter {c : Char} (h : isLetter c = false) : F.char c = c := by
  cases F with
  | exact => rfl
  | ascii =>
    by_cases same : c.toLower = c
    · exact same
    · have letters : ∀ c ∈ capitals, isLetter c = true :=
        List.all_eq_true.mp (by decide +kernel)
      cases h.symm.trans (letters c (mem_capitals_of_toLower_ne same))

end Classes

def text (text : Text) : Text :=
  text.map F.char

section Texts

@[simp] theorem text_nil : F.text [] = [] := rfl

@[simp] theorem text_cons (c : Char) (t : Text) : F.text (c :: t) = F.char c :: F.text t := rfl

@[simp] theorem text_append (t u : Text) : F.text (t ++ u) = F.text t ++ F.text u :=
  List.map_append

@[simp] theorem length_text (t : Text) : (F.text t).length = t.length :=
  List.length_map _

@[simp] theorem text_text (t : Text) : F.text (F.text t) = F.text t := by
  simp [text]

theorem text_exact (t : Text) : exact.text t = t :=
  List.map_id _

theorem reverse_text (t : Text) : (F.text t).reverse = F.text t.reverse :=
  List.map_reverse.symm

theorem drop_text (n : Nat) (t : Text) : (F.text t).drop n = F.text (t.drop n) :=
  List.map_drop.symm

variable {p : Char → Bool} (invariant : ∀ c, p (F.char c) = p c)

include invariant

theorem takeWhile_text (t : Text) : (F.text t).takeWhile p = F.text (t.takeWhile p) := by
  have same : p ∘ F.char = p := funext invariant
  rw [text, List.takeWhile_map, same]
  rfl

theorem dropWhile_text (t : Text) : (F.text t).dropWhile p = F.text (t.dropWhile p) := by
  have same : p ∘ F.char = p := funext invariant
  rw [text, List.dropWhile_map, same]
  rfl

theorem dropEndWhile_text (t : Text) : dropEndWhile p (F.text t) = F.text (dropEndWhile p t) := by
  rw [dropEndWhile, reverse_text, F.dropWhile_text invariant, reverse_text, dropEndWhile]

end Texts

theorem trim_text (t : Text) : trim (F.text t) = F.text (trim t) := by
  rw [trim, trimStart, F.dropWhile_text F.isBlank_char, F.dropEndWhile_text F.isBlank_char, trim,
    trimStart]

theorem meetsCased_text (t : Text) : meetsCased (F.text t) = meetsCased t := by
  unfold meetsCased
  rw [F.dropWhile_text F.isCaseIgnorable_char]
  cases t.dropWhile isCaseIgnorable with
  | nil => rfl
  | cons c t => exact F.isCased_char c

theorem lowerFrom_text (before t : Text) :
    lowerFrom (F.text before) (F.text t) = lowerFrom before t := by
  induction t generalizing before with
  | nil => rfl
  | cons c t ih =>
    have others : lowerFrom (F.char c :: F.text before) (F.text t) = _ := ih (c :: before)
    have sigma : F.char c = '\u03a3' ↔ c = '\u03a3' := F.char_eq_iff (by decide +kernel) c
    rw [text_cons, lowerFrom, lowerFrom, others]
    simp only [sigma, meetsCased_text, lowerChar_char]

theorem lower_text (t : Text) : lower (F.text t) = lower t :=
  F.lowerFrom_text [] t

theorem isPrefixOf_text {expected : Text} (h : Text.Caseless expected) (t : Text) :
    expected.isPrefixOf (F.text t) = expected.isPrefixOf t := by
  induction expected generalizing t with
  | nil => rfl
  | cons sign expected ih =>
    obtain ⟨hs, he⟩ := Bool.and_eq_true_iff.mp h
    cases t with
    | nil => rfl
    | cons c t =>
      have same : sign = F.char c ↔ sign = c := by
        rw [eq_comm, F.char_eq_iff hs, eq_comm]
      rw [text_cons, List.isPrefixOf_cons_cons, List.isPrefixOf_cons_cons, ih he]
      exact congrArg (· && _) (decide_eq_decide.mpr same)

theorem text_of_digits {t : Text} (h : ∀ c ∈ t, isDigit c = true) : F.text t = t := by
  refine (List.map_congr_left fun c hc => ?_).trans (List.map_id t)
  refine F.char_of_not_isLetter ?_
  rw [Bool.eq_false_iff]
  intro letter
  cases (not_isDigit_of_isLetter letter).symm.trans (h c hc)

def string (s : String) : Text :=
  F.text s.toList

@[simp] theorem string_ofList (t : Text) : F.string (String.ofList t) = F.text t := by
  rw [string, String.toList_ofList]

@[simp] theorem string_append (s t : String) : F.string (s ++ t) = F.string s ++ F.string t := by
  rw [string, String.toList_append, text_append]
  rfl

/-- The cause with the text in front of which it arose folded. Names are in lower case anyway. -/
def cause : Cause → Cause
  | .missingParenthesis rest => .missingParenthesis (F.text rest)
  | .expressionExpected rest => .expressionExpected (F.text rest)
  | .expected literal rest => .expected literal (F.text rest)
  | .variableExpected rest => .variableExpected (F.text rest)
  | .statementExpected rest => .statementExpected (F.text rest)
  | .conditionExpected rest => .conditionExpected (F.text rest)
  | .commaExpected rest => .commaExpected (F.text rest)
  | other => other

theorem kind_cause (k : Cause) : (F.cause k).kind = k.kind := by
  cases k <;> rfl

theorem message_cause (k : Cause) : F.string (F.cause k).message = F.string k.message := by
  cases k with
  | missingParenthesis | expressionExpected | expected | variableExpected | statementExpected
  | conditionExpected | commaExpected =>
    unfold cause Cause.message
    simp only [string_append, string_ofList, text_text]
  | _ => rfl

theorem cause_exact (k : Cause) : exact.cause k = k := by
  cases k with
  | missingParenthesis | expressionExpected | expected | variableExpected | statementExpected
  | conditionExpected | commaExpected => simp only [cause, text_exact]
  | _ => rfl

end Folding

end NumberedBasic
