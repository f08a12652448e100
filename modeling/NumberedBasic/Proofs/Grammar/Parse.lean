import NumberedBasic.Proofs.Grammar.Tree

/-! # Parses of expressions

A parse is a tree of the grammar that keeps the words it was read from. Any word that is
no function may name a variable, even one that begins like `not`, since only the start of a
negation is looked at for that keyword.
-/

namespace NumberedBasic

open Text

def Sign.words : Sign → List Text
  | absent => []
  | plus => [['+']]
  | minus => [['-']]

/-- The trees of the grammar with their words. -/
inductive Parse : Nonterminal → Type where
  | operand {r : Rank} (t : Parse (.phrase r.operand)) : Parse (.phrase (.chain r))
  | binary {r : Rank} (left : Parse (.phrase (.chain r))) (o : Operator) (rank : o.rank = r)
      (word : Text) (spells : (Token.operator o).Spells word) (right : Parse (.phrase r.operand)) :
      Parse (.phrase (.chain r))
  | plain (t : Parse (.phrase .comparison)) : Parse (.phrase .negation)
  | opposite (word : Text) (spells : Token.not.Spells word) (t : Parse (.phrase .comparison)) :
      Parse (.phrase .negation)
  | single (t : Parse (.phrase .arithmetic)) : Parse (.phrase .comparison)
  | related (left : Parse (.phrase .arithmetic)) (r : Relation)
      (right : Parse (.phrase .arithmetic)) : Parse (.phrase .comparison)
  | number (s : Sign) (l : Literal) : Parse (.phrase .factor)
  | name (s : Sign) (word : Text) (isName : IsName word)
      (free : Builtin.ofName? (lower word) = none) : Parse (.phrase .factor)
  | call (s : Sign) (b : Builtin) (word : Text) (spells : (Token.function b).Spells word)
      (arguments : Parse .arguments) : Parse (.phrase .factor)
  | group (s : Sign) (t : Parse (.phrase .expression)) : Parse (.phrase .factor)
  | bare : Parse .arguments
  | empty : Parse .arguments
  | listed (items : Parse .items) : Parse .arguments
  | last (t : Parse (.phrase .expression)) : Parse .items
  | next (t : Parse (.phrase .expression)) (others : Parse .items) : Parse .items

namespace Parse

/-- The words of a parse from left to right. -/
def words : {n : Nonterminal} → Parse n → List Text
  | _, operand t => t.words
  | _, binary left _ _ word _ right => left.words ++ word :: right.words
  | _, plain t => t.words
  | _, opposite word _ t => word :: t.words
  | _, single t => t.words
  | _, related left r right => left.words ++ r.sign :: right.words
  | _, number s l => s.words ++ [l.text]
  | _, name s word _ _ => s.words ++ [word]
  | _, call s _ word _ arguments => s.words ++ word :: arguments.words
  | _, group s t => s.words ++ ['('] :: (t.words ++ [[')']])
  | _, bare => []
  | _, empty => [['('], [')']]
  | _, listed items => ['('] :: (items.words ++ [[')']])
  | _, last t => t.words
  | _, next t others => t.words ++ [','] :: others.words

def value : {n : Nonterminal} → Parse n → Valuation n.Value
  | _, operand t => t.value
  | _, binary left o _ _ _ right => do
    let a ← left.value
    let b ← right.value
    o.value a b
  | _, plain t => t.value
  | _, opposite _ _ t => do
    let a ← t.value
    return if a.isZero then (1 : Number).neg else 0
  | _, single t => t.value
  | _, related left r right => do
    let a ← left.value
    let b ← right.value
    return if r.holds a b then (1 : Number).neg else 0
  | _, number s l => return s.apply (Number.ofLiteral l.text)
  | _, name s word _ _ => return s.apply (← Valuation.lookup (lower word))
  | _, call _ b _ _ arguments => do Valuation.call b (← arguments.value)
  | _, group s t => return s.apply (← t.value)
  | _, bare => return []
  | _, empty => return []
  | _, listed items => items.value
  | _, last t => return [← t.value]
  | _, next t others => do
    let first ← t.value
    return first :: (← others.value)

def lastOperand {r : Rank} : Parse (.phrase (.chain r)) → Parse (.phrase r.operand)
  | operand t => t
  | binary _ _ _ _ _ right => right

/-- The comparison that may stand behind `not`. -/
def comparison : Parse (.phrase .negation) → Parse (.phrase .comparison)
  | plain t => t
  | opposite _ _ t => t

def lastComparison (t : Parse (.phrase .expression)) : Parse (.phrase .comparison) :=
  let conjunction : Parse (.phrase (.chain .conjunction)) := t.lastOperand
  let negation : Parse (.phrase .negation) := conjunction.lastOperand
  negation.comparison

/-- The comparison has its relation already. -/
def IsRelated : Parse (.phrase .comparison) → Prop
  | single _ => False
  | related _ _ _ => True

end Parse

/-- The text is made of the words in their order, with blanks or nothing between them. -/
inductive Spaced : List Text → Text → Prop where
  | nil {blanks : Text} (blank : ∀ c ∈ blanks, isBlank c = true) : Spaced [] blanks
  | cons {blanks word rest : Text} {words : List Text} (blank : ∀ c ∈ blanks, isBlank c = true)
      (others : Spaced words rest) : Spaced (word :: words) (blanks ++ word ++ rest)

namespace Spaced

variable {words words' : List Text} {text text' blanks word : Text}

theorem prepend (blank : ∀ c ∈ blanks, isBlank c = true) (h : Spaced words text) :
    Spaced words (blanks ++ text) := by
  have both {blanks' : Text} (blank' : ∀ c ∈ blanks', isBlank c = true) :
      ∀ c ∈ blanks ++ blanks', isBlank c = true := by
    intro c hc
    rcases List.mem_append.mp hc with hc | hc
    · exact blank c hc
    · exact blank' c hc
  cases h with
  | nil blank' => exact .nil (both blank')
  | cons blank' others => simpa only [List.append_assoc] using cons (both blank') others

theorem append (h : Spaced words text) (h' : Spaced words' text') :
    Spaced (words ++ words') (text ++ text') := by
  induction h with
  | nil blank => exact h'.prepend blank
  | cons blank _ ih => simpa only [List.append_assoc, List.cons_append] using cons blank ih

theorem single (blank : ∀ c ∈ blanks, isBlank c = true) (word : Text) :
    Spaced [word] (blanks ++ word) := by
  have h : Spaced [word] (blanks ++ word ++ []) := .cons blank (.nil (List.forall_mem_nil _))
  rwa [List.append_nil] at h

theorem length_le (h : Spaced words text) (hw : word ∈ words) : word.length ≤ text.length := by
  induction h with
  | nil => cases hw
  | cons blank others ih =>
    simp only [List.length_append]
    rcases List.mem_cons.mp hw with rfl | hw
    · omega
    · have := ih hw
      omega

end Spaced

/-- A parse has a word to read, unless it stands for arguments that were left out. -/
theorem Parse.exists_word {n : Nonterminal} (t : Parse n) (hn : n ≠ .arguments) :
    ∃ word ∈ t.words, 0 < word.length := by
  have nonempty {t : Token} {word : Text} (h : t.Spells word) : 0 < word.length := by
    obtain ⟨c, rest, rfl, -⟩ := h.begins
    simp
  induction t with
  | operand t ih => exact ih nofun
  | binary left o rank word spells right => exact ⟨word, by simp [words], nonempty spells⟩
  | plain t ih => exact ih nofun
  | opposite word spells t => exact ⟨word, by simp [words], nonempty spells⟩
  | single t ih => exact ih nofun
  | related left r right ih =>
    obtain ⟨word, hw, hl⟩ := ih nofun
    exact ⟨word, by simp [words, hw], hl⟩
  | number s l => exact ⟨l.text, by simp [words], nonempty (.number l)⟩
  | name s word isName =>
    obtain ⟨c, rest, hw, -⟩ := isName.begins
    exact ⟨word, by simp [words], by simp [hw]⟩
  | call s b word spells => exact ⟨word, by simp [words], nonempty spells⟩
  | group s t => exact ⟨['('], by simp [words], by simp⟩
  | bare | empty | listed => exact absurd rfl hn
  | last t ih => exact ih nofun
  | next t others => exact ⟨[','], by simp [words], by simp⟩

end NumberedBasic
