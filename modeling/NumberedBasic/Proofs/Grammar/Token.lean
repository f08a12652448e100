import NumberedBasic.Expression
import NumberedBasic.Proofs.Text.Class

/-! # Tokens of expressions

A text spells a list of tokens with any blanks between them. Two words never touch
each other, and keywords and functions are spelled in any case.
-/

namespace NumberedBasic

open Text

/-- Digits, perhaps with a point and more digits behind it. -/
structure Literal where
  whole : Text
  fraction : Option Text
  nonempty : whole ≠ []
  whole_digits : ∀ c ∈ whole, isDigit c = true
  fraction_digits : ∀ digits ∈ fraction, ∀ c ∈ digits, isDigit c = true

def Literal.text (l : Literal) : Text :=
  match l.fraction with
  | none => l.whole
  | some digits => l.whole ++ '.' :: digits

/-- The text is a letter, with letters, digits and numerals behind it. -/
def IsName (text : Text) : Prop :=
  (∃ c ∈ text.head?, isLetter c = true) ∧ ∀ c ∈ text, isNameChar c = true

/-- A variable as it is written. It is no function, and its letters are not taken for `not`. -/
structure VariableName where
  spelling : Text
  isName : IsName spelling
  free : Builtin.ofName? (lower spelling) = none
  letters_ne : lower (spelling.takeWhile isLetter) ≠ ['n', 'o', 't']

inductive Token where
  | number (l : Literal)
  | name (v : VariableName)
  | function (b : Builtin)
  | operator (o : Operator)
  | not
  | relation (r : Relation)
  | opening
  | closing
  | comma

namespace Token

inductive Kind where
  | digits
  | letters
  | sign
  deriving DecidableEq

def kind : Token → Kind
  | number _ => .digits
  | name _ | function _ | not | operator .or | operator .and => .letters
  | _ => .sign

def keyword? : Token → Option Text
  | operator .or => some ['o', 'r']
  | operator .and => some ['a', 'n', 'd']
  | not => some ['n', 'o', 't']
  | _ => none

def sign? : Token → Option Text
  | operator .plus => some ['+']
  | operator .minus => some ['-']
  | operator .times => some ['*']
  | operator .per => some ['/']
  | relation r => some r.sign
  | opening => some ['(']
  | closing => some [')']
  | comma => some [',']
  | _ => none

def initial? (t : Token) : Option Char :=
  t.sign?.bind List.head?

inductive Spells : Token → Text → Prop where
  | number (l : Literal) : Spells (number l) l.text
  | name (v : VariableName) : Spells (name v) v.spelling
  | function {b : Builtin} {text : Text} (isName : IsName text) (named : lower text = b.name) :
      Spells (function b) text
  | keyword {t : Token} {word text : Text} (keyword : t.keyword? = some word)
      (letters : ∀ c ∈ text, isLetter c = true) (spelled : lower text = word) : Spells t text
  | sign {t : Token} {text : Text} (sign : t.sign? = some text) : Spells t text

end Token

/-- A blank follows a word if another word is next. -/
def Token.Apart (t : Token) (ts : List Token) (rest : Text) : Prop :=
  t.kind = .letters → (∃ t' ∈ ts.head?, t'.kind = .letters) → ∃ c ∈ rest.head?, isBlank c = true

/-- The text spells the tokens, with blanks between words and perhaps anywhere else. -/
inductive Spelled : List Token → Text → Prop where
  | nil {blanks : Text} (blank : ∀ c ∈ blanks, isBlank c = true) : Spelled [] blanks
  | cons {blanks text rest : Text} {t : Token} {ts : List Token}
      (blank : ∀ c ∈ blanks, isBlank c = true) (spells : t.Spells text)
      (apart : t.Apart ts rest) (others : Spelled ts rest) :
      Spelled (t :: ts) (blanks ++ text ++ rest)

namespace Token

variable {t : Token} {text : Text}

/-- The characters that a token of a kind can begin with. -/
def Kind.Begins : Kind → Char → Prop
  | digits, c => isDigit c = true
  | letters, c => isLetter c = true
  | sign, c => c ∈ ['+', '-', '*', '/', '(', ')', ',', '<', '=', '>']

theorem sign_class : ∀ c ∈ ['+', '-', '*', '/', '(', ')', ',', '<', '=', '>'],
    isNameChar c = false ∧ isBlank c = false ∧ c ≠ '.' := by
  have h : ['+', '-', '*', '/', '(', ')', ',', '<', '=', '>'].all
      (fun c => !isNameChar c && !isBlank c && c != '.') = true := by
    decide +kernel
  simpa [List.all_eq_true, and_assoc] using h

theorem Kind.Begins.not_isBlank {k : Kind} {c : Char} (h : k.Begins c) : isBlank c = false := by
  cases k with
  | digits => exact not_isBlank_of_isNameChar (isNameChar_of_isDigit h)
  | letters => exact not_isBlank_of_isNameChar (isNameChar_of_isLetter h)
  | sign => exact (sign_class c h).2.1

theorem Kind.Begins.isDigit_iff {k : Kind} {c : Char} (h : k.Begins c) :
    isDigit c = true ↔ k = .digits := by
  cases k with
  | digits => simp [show isDigit c = true from h]
  | letters => simp [not_isDigit_of_isLetter h]
  | sign =>
    have hc := (sign_class c h).1
    simp only [isNameChar, Bool.or_eq_false_iff] at hc
    simp [hc.1.2]

theorem Kind.Begins.isLetter_iff {k : Kind} {c : Char} (h : k.Begins c) :
    isLetter c = true ↔ k = .letters := by
  cases k with
  | digits =>
    have hc : isLetter c = false := by
      rw [Bool.eq_false_iff]
      intro hl
      simpa [show isDigit c = true from h] using not_isDigit_of_isLetter hl
    simp [hc]
  | letters => simp [show isLetter c = true from h]
  | sign =>
    have hc := (sign_class c h).1
    simp only [isNameChar, Bool.or_eq_false_iff] at hc
    simp [hc.1.1]

theorem Kind.Begins.ne_point {k : Kind} {c : Char} (h : k.Begins c) : c ≠ '.' := by
  rintro rfl
  have hp : isNameChar '.' = false := by decide +kernel
  cases k with
  | digits => simp [isNameChar_of_isDigit h] at hp
  | letters => simp [isNameChar_of_isLetter h] at hp
  | sign => exact (sign_class _ h).2.2 rfl

theorem Kind.Begins.unique {k k' : Kind} {c : Char} (h : k.Begins c) (h' : k'.Begins c) :
    k = k' := by
  have hd := h.isDigit_iff.symm.trans h'.isDigit_iff
  have hl := h.isLetter_iff.symm.trans h'.isLetter_iff
  cases k <;> cases k' <;> simp_all

theorem begins_of_sign {sign : Text} (h : t.sign? = some sign) :
    t.kind = .sign ∧ ∃ c rest, sign = c :: rest ∧ Kind.sign.Begins c := by
  cases t with
  | operator o => cases o <;> cases h <;> simp [kind, Kind.Begins]
  | relation r => cases h; cases r <;> simp [kind, Kind.Begins, Relation.sign]
  | opening => cases h; simp [kind, Kind.Begins]
  | closing => cases h; simp [kind, Kind.Begins]
  | comma => cases h; simp [kind, Kind.Begins]
  | _ => cases h

theorem kind_of_keyword {word : Text} (h : t.keyword? = some word) :
    t.kind = .letters ∧ word ≠ [] := by
  cases t with
  | operator o => cases o <;> cases h <;> simp [kind]
  | not => cases h; simp [kind]
  | _ => cases h

end Token

theorem Literal.begins (l : Literal) :
    ∃ c rest, l.text = c :: rest ∧ Token.Kind.digits.Begins c := by
  obtain ⟨whole, fraction, nonempty, whole_digits, -⟩ := l
  cases whole with
  | nil => exact absurd rfl nonempty
  | cons c whole => cases fraction <;> exact ⟨c, _, rfl, whole_digits c List.mem_cons_self⟩

theorem IsName.begins {text : Text} (h : IsName text) :
    ∃ c rest, text = c :: rest ∧ Token.Kind.letters.Begins c := by
  obtain ⟨⟨c, hc, hl⟩, -⟩ := h
  cases text with
  | nil => cases hc
  | cons c' rest =>
    cases hc
    exact ⟨c, rest, rfl, hl⟩

namespace Token.Spells

variable {t : Token} {text : Text}

/-- The first character of a token shows its kind. -/
theorem begins (h : t.Spells text) : ∃ c rest, text = c :: rest ∧ t.kind.Begins c := by
  cases h with
  | number l => exact l.begins
  | name v => exact v.isName.begins
  | function isName named => exact isName.begins
  | keyword keyword letters spelled =>
    obtain ⟨hk, hw⟩ := kind_of_keyword keyword
    cases text with
    | nil => exact absurd spelled.symm hw
    | cons c rest => exact ⟨c, rest, rfl, hk ▸ letters c List.mem_cons_self⟩
  | sign sign =>
    obtain ⟨hk, c, rest, ht, hc⟩ := begins_of_sign sign
    exact ⟨c, rest, ht, hk ▸ hc⟩

theorem sign_eq (h : t.Spells text) (hk : t.kind = .sign) : t.sign? = some text := by
  cases h with
  | sign sign => exact sign
  | keyword keyword => simp [(kind_of_keyword keyword).1] at hk
  | _ => cases hk

end Token.Spells

namespace Spelled

variable {t : Token} {ts : List Token} {text : Text}

theorem dropWhile_of_nil (h : Spelled [] text) : text.dropWhile isBlank = [] := by
  cases h with
  | nil blank =>
    have h : (text ++ []).dropWhile isBlank = [] := dropWhile_run blank nofun
    rwa [List.append_nil] at h

theorem dropWhile_of_cons (h : Spelled (t :: ts) text) :
    ∃ word rest, text.dropWhile isBlank = word ++ rest ∧ t.Spells word ∧ t.Apart ts rest ∧
      Spelled ts rest := by
  cases h with
  | @cons blanks word rest _ _ blank spells apart others =>
    refine ⟨word, rest, ?_, spells, apart, others⟩
    obtain ⟨c, tail, rfl, hc⟩ := spells.begins
    rw [List.append_assoc]
    exact dropWhile_run blank (by simpa using hc.not_isBlank)

theorem dropWhile (h : Spelled ts text) : Spelled ts (text.dropWhile isBlank) := by
  have none : ∀ c ∈ ([] : Text), isBlank c = true := nofun
  cases ts with
  | nil =>
    rw [h.dropWhile_of_nil]
    exact .nil none
  | cons t ts =>
    obtain ⟨word, rest, ht, spells, apart, others⟩ := h.dropWhile_of_cons
    rw [ht]
    exact .cons none spells apart others

theorem begins (h : Spelled ts text) {c : Char} (hc : c ∈ text.head?) :
    isBlank c = true ∨ ∃ t ∈ ts.head?, t.kind.Begins c ∧ ∃ tail, t.Spells (c :: tail) := by
  cases h with
  | nil blank => exact .inl (blank c (List.mem_of_mem_head? hc))
  | @cons blanks word rest t ts blank spells apart others =>
    cases blanks with
    | cons blank' blanks =>
      cases hc
      exact .inl (blank _ List.mem_cons_self)
    | nil =>
      obtain ⟨c', tail, rfl, hb⟩ := spells.begins
      cases hc
      exact .inr ⟨t, rfl, hb, tail, spells⟩

theorem begins_dropWhile (h : Spelled ts text) {c : Char}
    (hc : c ∈ (text.dropWhile isBlank).head?) : ∃ t ∈ ts.head?, t.kind.Begins c := by
  cases ts with
  | nil =>
    rw [h.dropWhile_of_nil] at hc
    cases hc
  | cons t ts =>
    obtain ⟨word, rest, hr, spells, -, -⟩ := h.dropWhile_of_cons
    obtain ⟨c', tail, rfl, hb⟩ := spells.begins
    rw [hr] at hc
    cases hc
    exact ⟨t, rfl, hb⟩

theorem head_ne (h : Spelled ts text) {sign : Char} (hs : Token.Kind.sign.Begins sign)
    (hts : ∀ t ∈ ts.head?, t.initial? ≠ some sign) : ∀ c ∈ text.head?, c ≠ sign := by
  rintro c hc rfl
  rcases h.begins hc with hb | ⟨t, ht, hb, tail, spells⟩
  · simp [hs.not_isBlank] at hb
  · refine hts t ht ?_
    rw [Token.initial?, spells.sign_eq (hb.unique hs)]
    rfl

end Spelled

end NumberedBasic
