import NumberedBasic.Proofs.Block.Line
import NumberedBasic.Proofs.Grammar.Alone
import NumberedBasic.Proofs.Grammar.Parse

/-! # Wordings of statements

A statement is a keyword in any letter case and words behind it. Blanks may stand everywhere
between the words and need not stand anywhere, except where a letter would make the keyword go on.
-/

namespace NumberedBasic

open Text

namespace Spaced

variable {word text : Text} {words : List Text}

theorem bare (word : Text) : Spaced [word] word :=
  single (List.forall_mem_nil _) word

theorem dropWhile_of_nil (h : Spaced [] text) : text.dropWhile isBlank = [] := by
  cases h with
  | nil blank =>
    have all : (text ++ []).dropWhile isBlank = [] := dropWhile_run blank nofun
    rwa [List.append_nil] at all

theorem tight (words : List Text) : Spaced words words.flatten := by
  induction words with
  | nil => exact .nil (List.forall_mem_nil _)
  | cons word words ih => exact .cons (List.forall_mem_nil _) ih

theorem dropWhile_of_cons {first : Char} (h : Spaced ((first :: word) :: words) text)
    (dark : isBlank first = false) :
    ∃ rest, text.dropWhile isBlank = first :: (word ++ rest) ∧ Spaced words rest := by
  cases h with
  | @cons blanks _ rest _ blank others =>
    refine ⟨rest, ?_, others⟩
    rw [List.append_assoc]
    exact dropWhile_run blank (by simpa using dark)

theorem dropWhile {first : Char} (h : Spaced ((first :: word) :: words) text)
    (dark : isBlank first = false) :
    Spaced ((first :: word) :: words) (text.dropWhile isBlank) := by
  obtain ⟨rest, ahead, others⟩ := h.dropWhile_of_cons dark
  rw [ahead]
  exact .cons (List.forall_mem_nil _) others

theorem of_dropWhile (h : Spaced words (text.dropWhile isBlank)) : Spaced words text := by
  have all := h.prepend (List.all_eq_true.mp (List.all_takeWhile (l := text)))
  rwa [List.takeWhile_append_dropWhile] at all

theorem length_flatten_le (h : Spaced words text) : words.flatten.length ≤ text.length := by
  induction h with
  | nil => exact Nat.zero_le _
  | cons blank others ih =>
    simp only [List.flatten_cons, List.length_append]
    omega

end Spaced

namespace Cursor

variable {c : Cursor} {word : Text} {words : List Text} {sign first : Char}

theorem atEnd_of_spaced (h : Spaced [] c.rest) : c.skipBlanks.rest = [] ∧ c.atEnd.1 = true := by
  have none : c.skipBlanks.rest = [] := h.dropWhile_of_nil
  simp [atEnd, none]

theorem literal_of_spaced (h : Spaced ([sign] :: words) c.rest) (dark : isBlank sign = false) :
    ∃ d, c.literal [sign] = (true, d) ∧ Spaced words d.rest := by
  obtain ⟨rest, ahead, others⟩ := h.dropWhile_of_cons dark
  have ahead : c.skipBlanks.rest = sign :: rest := ahead
  refine ⟨c.skipBlanks.advance 1, ?_, ?_⟩
  · simp [literal, ahead]
  · simpa [advance, ahead] using others

theorem string_of_head (other : ∀ first ∈ c.skipBlanks.rest.head?, first ≠ quote) :
    c.string = (.ok none, c.skipBlanks) := by
  unfold string
  dsimp only
  split
  · rfl
  · rename_i first rest ahead
    rw [if_neg (other first (by rw [ahead]; rfl))]

theorem string_of_spaced {content : Text} (plain : quote ∉ content)
    (h : Spaced ((quote :: (content ++ [quote])) :: words) c.rest) :
    ∃ d, c.string = (.ok (some content), d) ∧ Spaced words d.rest := by
  obtain ⟨rest, ahead, others⟩ := h.dropWhile_of_cons (by decide +kernel)
  have ahead : c.skipBlanks.rest = quote :: (content ++ quote :: rest) := by
    refine Eq.trans (b := quote :: (content ++ [quote] ++ rest)) ahead ?_
    rw [List.append_assoc, List.singleton_append]
  have inside : ∀ c ∈ content, (c != quote) = true := fun c hc => by
    rw [bne_iff_ne]
    exact fun same => plain (same ▸ hc)
  have run : (content ++ quote :: rest).takeWhile (· != quote) = content :=
    takeWhile_run inside (by rintro _ ⟨⟩; decide)
  have shorter : content.length < (content ++ quote :: rest).length := by simp
  refine ⟨c.skipBlanks.advance (content.length + 2), ?_, ?_⟩
  · simp only [string, ahead, if_true, run, if_pos shorter]
  · simpa [advance, ahead] using others

end Cursor

theorem Eval.scanStrictly_of_eq {α : Type} {matcher : Cursor → Except Cause α × Cursor} {a : α}
    {c d : Cursor} (h : matcher c = (.ok a, d)) (context : Context) (generator : Generator)
    (room : Nat) :
    scanStrictly matcher context ⟨c, generator, room⟩ = .ok a ⟨d, generator, room⟩ := by
  simp only [scanStrictly, h]

namespace Statement

theorem execute_of_selects {m : Machine} {c : Cursor} {room : Nat} {k : Option Keyword}
    {r : Reading} (h : select m.context ⟨c, m.generator, room⟩ = .ok k r) :
    execute ⟨m, c, room⟩ = perform k ⟨{ m with generator := r.generator }, r.cursor, r.room⟩ := by
  rw [execute_eq]
  exact Exec.bind_of_ok (Exec.evaluate_of_ok (s := ⟨m, c, room⟩) h) _

/-- The line is a keyword with words behind it. -/
inductive Says (k : Keyword) (words : List Text) : Text → Prop where
  | intro {blanks word rest : Text} (blank : ∀ c ∈ blanks, isBlank c = true)
      (letters : ∀ c ∈ word, isLetter c = true) (spelled : lower word = k.spelling)
      (apart : ∀ c ∈ rest.head?, isLetter c = false) (spaced : Spaced words rest) :
      Says k words (blanks ++ word ++ rest)

theorem ofWord?_spelling (k : Keyword) : Keyword.ofWord? k.spelling = some k := by
  cases k <;> decide

theorem spelling_ne_nil (k : Keyword) : k.spelling ≠ [] := by
  cases k <;> decide

/-- The letters of a keyword are read up to the first character that is no letter. -/
theorem keyword_of_run {k : Keyword} {blanks word rest : Text}
    (blank : ∀ c ∈ blanks, isBlank c = true) (letters : ∀ c ∈ word, isLetter c = true)
    (spelled : lower word = k.spelling) (apart : ∀ c ∈ rest.head?, isLetter c = false)
    (context : Context) (g : Generator) (room : Nat) :
    keyword context ⟨.start (blanks ++ word ++ rest), g, room⟩ =
      .ok k ⟨⟨blanks.length + word.length, rest⟩, g, room⟩ := by
  have nonempty : word ≠ [] := by
    rintro rfl
    exact spelling_ne_nil k spelled.symm
  have head : ∀ c ∈ (word ++ rest).head?, isBlank c = false := by
    obtain ⟨first, others, rfl⟩ := List.exists_cons_of_ne_nil nonempty
    rintro _ ⟨⟩
    exact not_isBlank_of_isNameChar (isNameChar_of_isLetter (letters first List.mem_cons_self))
  have skip : (Cursor.start (blanks ++ word ++ rest)).skipBlanks =
      ⟨blanks.length, word ++ rest⟩ := by
    simp only [Cursor.skipBlanks, Cursor.skipWhile, Cursor.start, List.append_assoc,
      takeWhile_run blank head, dropWhile_run blank head, Nat.zero_add]
  have run : (word ++ rest).takeWhile isLetter = word := takeWhile_run letters apart
  have behind : Cursor.skipWhile ⟨blanks.length, word ++ rest⟩ isLetter =
      ⟨blanks.length + word.length, rest⟩ := by
    simp only [Cursor.skipWhile, run, dropWhile_run letters apart]
  refine Block.keyword_of_word ?_ (ofWord?_spelling k)
  rw [skip, Cursor.word_of_run run nonempty, behind, spelled]

namespace Says

variable {k : Keyword} {words : List Text} {line : Text}

/-- A blank may always stand behind the keyword. -/
theorem of_blank {word text : Text} (letters : word.all isLetter = true)
    (spelled : lower word = k.spelling) (spaced : Spaced words text) :
    Says k words (word ++ ' ' :: text) := by
  have blank : ∀ c ∈ [' '], isBlank c = true := List.all_eq_true.mp (by decide +kernel)
  have apart : ∀ c ∈ (' ' :: text).head?, isLetter c = false := by
    rintro _ ⟨⟩
    decide +kernel
  have line : Says k words ([] ++ word ++ ' ' :: text) :=
    .intro nofun (List.all_eq_true.mp letters) spelled apart (spaced.prepend blank)
  exact line

theorem keyword (h : Says k words line) : ∃ c, Spaced words c.rest ∧
    ∀ context generator room, keyword context ⟨.start line, generator, room⟩ =
      .ok k ⟨c, generator, room⟩ := by
  cases h with
  | @intro blanks word rest blank letters spelled apart spaced =>
    exact ⟨⟨_, rest⟩, spaced, keyword_of_run blank letters spelled apart⟩

variable (condition : k ≠ .condition)

include condition

theorem select (h : Says k words line) : ∃ c, Spaced words c.rest ∧ ∀ context generator room,
    select context ⟨.start line, generator, room⟩ = .ok (some k) ⟨c, generator, room⟩ := by
  obtain ⟨c, spaced, keyword⟩ := h.keyword
  exact ⟨c, spaced, fun context generator room =>
    Block.select_of_keyword (keyword context generator room) condition⟩

/-- Executing the line is executing the statement in front of its words. -/
theorem execute_eq (h : Says k words line) : ∃ c, Spaced words c.rest ∧
    ∀ m, execute (.start m line) = perform (some k) ⟨m, c, m.room + 14⟩ := by
  obtain ⟨c, spaced, select⟩ := h.select condition
  exact ⟨c, spaced, fun m => execute_of_selects (select m.context m.generator (m.room + 14))⟩

end Says

section Names

theorem isName_letter {c : Char} (h : isLetter c = true) : IsName [c] :=
  ⟨⟨c, rfl, h⟩, List.forall_mem_singleton.mpr (isNameChar_of_isLetter h)⟩

variable (context : Context) (g : Generator) {room : Nat} {c : Cursor} {words : List Text}
  {spelling first : Text} {others : List Text}

theorem not_isNameChar_of_spaced {rest : Text} (spaced : Spaced words rest)
    (parts : ∀ word ∈ words.head?, word = [',']) : ∀ c ∈ rest.head?, isNameChar c = false := by
  cases spaced with
  | nil blank =>
    exact fun c hc => not_isNameChar_of_isBlank (blank c (List.mem_of_mem_head? hc))
  | @cons blanks word _ _ blank others =>
    obtain rfl : word = [','] := parts word rfl
    rw [List.append_assoc]
    refine forall_head?_append (fun c hc => ?_) ?_
    · exact not_isNameChar_of_isBlank (blank c (List.mem_of_mem_head? hc))
    · rintro _ ⟨⟩
      decide +kernel

theorem name_of_spaced (isName : IsName spelling) (spaced : Spaced (spelling :: words) c.rest)
    (parts : ∀ word ∈ words.head?, word = [',']) : ∃ d,
    Eval.name context ⟨c, g, room⟩ = .ok (lower spelling) ⟨d, g, room⟩ ∧ Spaced words d.rest := by
  obtain ⟨letter, others, rfl, begins⟩ := isName.begins
  obtain ⟨rest, ahead, behind⟩ := spaced.dropWhile_of_cons begins.not_isBlank
  have ahead : c.skipBlanks = ⟨c.skipBlanks.column, letter :: others ++ rest⟩ :=
    congrArg (Cursor.mk c.skipBlanks.column) ahead
  have found := Cursor.identifier_of_name isName ahead (not_isNameChar_of_spaced behind parts)
  refine ⟨⟨c.skipBlanks.column + (letter :: others).length, rest⟩, ?_, behind⟩
  simp only [Eval.name, Eval.scanStrictly, Cursor.demandIdentifier, found]

theorem separatedBy_of_spaced (legal : ∀ name ∈ first :: others, IsName name)
    (spaced : Spaced ((first :: others).intersperse [',']) c.rest) : ∃ d,
    Eval.separatedBy [','] Eval.name context ⟨c, g, room⟩ =
      .ok ((first :: others).map lower) ⟨d, g, room⟩ := by
  obtain ⟨hf, ho⟩ := List.forall_mem_cons.mp legal
  rw [Eval.separatedBy_eq (List.cons_ne_nil _ _) Eval.name_advances]
  induction others generalizing first c with
  | nil =>
    obtain ⟨d, last, behind⟩ := name_of_spaced context g hf spaced (by rintro _ ⟨⟩)
    have none : d.skipBlanks.rest = [] := (Cursor.atEnd_of_spaced behind).1
    have stopped : Eval.literal [','] context ⟨d, g, room⟩ = .ok false ⟨d.skipBlanks, g, room⟩ :=
      Eval.scan_of_eq (Cursor.literal_of_head (by rw [none]; rintro _ ⟨⟩))
    exact ⟨_, (Eval.bind_of_ok last _).trans ((Eval.bind_of_ok stopped _).trans rfl)⟩
  | cons second others ih =>
    obtain ⟨hs, hr⟩ := List.forall_mem_cons.mp ho
    rw [List.intersperse_cons_cons] at spaced
    obtain ⟨d, head, behind⟩ := name_of_spaced context g hf spaced
      (by rintro _ ⟨⟩; rfl)
    obtain ⟨e, comma, behind⟩ := Cursor.literal_of_spaced behind (by decide +kernel)
    obtain ⟨d', further⟩ := ih ho behind hs hr
    have comma : Eval.literal [','] context ⟨d, g, room⟩ = .ok true ⟨e, g, room⟩ :=
      Eval.scan_of_eq comma
    refine ⟨d', (Eval.bind_of_ok head _).trans ((Eval.bind_of_ok comma _).trans ?_)⟩
    rw [if_pos rfl, Eval.separatedBy_eq (List.cons_ne_nil _ _) Eval.name_advances]
    exact (Eval.bind_of_ok further _).trans rfl

def inputWords (prompt : Option Text) (names : List Text) : List Text :=
  (prompt.elim [] fun p => [Cursor.quote :: (p ++ [Cursor.quote]), [',']]) ++
    names.intersperse [',']

theorem inputList_of_spaced {prompt : Option Text} (plain : ∀ p ∈ prompt, Cursor.quote ∉ p)
    (legal : ∀ name ∈ first :: others, IsName name)
    (spaced : Spaced (inputWords prompt (first :: others)) c.rest) : ∃ d,
    inputList context ⟨c, g, room⟩ =
      .ok (prompt.getD [], (first :: others).map lower) ⟨d, g, room⟩ := by
  cases prompt with
  | none =>
    obtain ⟨words, words_eq⟩ : ∃ words, (first :: others).intersperse [','] = first :: words := by
      cases others <;> exact ⟨_, rfl⟩
    have spaced : Spaced ((first :: others).intersperse [',']) c.rest := spaced
    obtain ⟨letter, name, rfl, begins⟩ := (legal first List.mem_cons_self).begins
    rw [words_eq] at spaced
    obtain ⟨rest, ahead, -⟩ := spaced.dropWhile_of_cons begins.not_isBlank
    have behind : Spaced ((letter :: name) :: words) c.skipBlanks.rest :=
      spaced.dropWhile begins.not_isBlank
    rw [← words_eq] at behind
    have other : ∀ x ∈ c.skipBlanks.rest.head?, x ≠ Cursor.quote := by
      have ahead : c.skipBlanks.rest = letter :: (name ++ rest) := ahead
      have begins : isLetter letter = true := begins
      rw [ahead]
      rintro _ ⟨⟩ rfl
      revert begins
      decide +kernel
    obtain ⟨d, names⟩ := separatedBy_of_spaced context g legal behind
    have string := Eval.scanStrictly_of_eq (Cursor.string_of_head other) context g room
    exact ⟨d, (Eval.bind_of_ok string _).trans ((Eval.bind_of_ok names _).trans rfl)⟩
  | some p =>
    obtain ⟨d, string, behind⟩ := Cursor.string_of_spaced (plain p rfl) spaced
    obtain ⟨e, comma, behind⟩ := Cursor.literal_of_spaced behind (by decide +kernel)
    obtain ⟨f, names⟩ := separatedBy_of_spaced context g legal behind
    have string := Eval.scanStrictly_of_eq string context g room
    have comma : Eval.literal [','] context ⟨d, g, room⟩ = .ok true ⟨e, g, room⟩ :=
      Eval.scan_of_eq comma
    exact ⟨f, (Eval.bind_of_ok string _).trans <| (Eval.bind_of_ok comma _).trans <|
      (Eval.bind_of_ok names _).trans rfl⟩

end Names

def outcome? {ε σ α : Type} : EStateM.Result ε σ α → Option (α × σ)
  | .ok a s => some (a, s)
  | .error _ _ => none

theorem outcome?_eq_some_iff {ε σ α : Type} {result : EStateM.Result ε σ α} {a : α} {s : σ} :
    outcome? result = some (a, s) ↔ result = .ok a s := by
  cases result <;> simp [outcome?]

theorem outcome?_eq_none_iff {ε σ α : Type} {result : EStateM.Result ε σ α} :
    outcome? result = none ↔ ∃ cause s, result = .error cause s := by
  cases result <;> simp [outcome?]

end Statement

end NumberedBasic
