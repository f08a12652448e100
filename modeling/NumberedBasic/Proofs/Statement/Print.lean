import NumberedBasic.Proofs.Evaluation.Continuation
import NumberedBasic.Proofs.Grammar.Sound
import NumberedBasic.Proofs.Statement.Wording

/-! # Printed lists

Strings and expressions are printed one behind the other, whatever stands between them. Each is what
it is on its own, and they are evaluated from left to right. A list with a failure, or with a comma
at its end, writes nothing.
-/

namespace NumberedBasic

open Text

/-- The words behind a text in a line are ahead of it when it is evaluated there. -/
theorem Cursor.extends_of_spaced {text : Text} {words : List Text} {c : Cursor}
    (h : Spaced (text :: words) c.rest)
    (parts : ∀ word ∈ words.head?, word = [','] ∨ word = [';']) :
    ∃ tail, (∀ first ∈ tail.head?, words.head? = some [first]) ∧ Parting tail ∧
      Spaced words tail ∧ (start text).Extends tail c := by
  obtain ⟨line, line_eq⟩ : ∃ line, c.rest = line := ⟨_, rfl⟩
  rw [line_eq] at h
  cases h with
  | @cons blanks _ behind _ blank others =>
    have extends_ {blanks' tail : Text} (blank' : ∀ b ∈ blanks', isBlank b = true)
        (behind_eq : behind = blanks' ++ tail) (parting : Parting tail) :
        (start text).Extends tail c := by
      have there : (start text).Extends tail ⟨0, text ++ (blanks' ++ tail)⟩ :=
        .of_rest parting blank' rfl
      refine there.of_ahead ?_
      change c.rest.dropWhile isBlank = (text ++ (blanks' ++ tail)).dropWhile isBlank
      rw [line_eq, behind_eq, List.append_assoc, List.dropWhile_append_of_pos blank]
    cases others with
    | nil blank' =>
      have nothing : Parting [] := by rintro _ ⟨⟩
      exact ⟨[], by rintro _ ⟨⟩, nothing, .nil (List.forall_mem_nil _),
        extends_ blank' (List.append_nil _).symm nothing⟩
    | @cons blanks' word rest words blank' others =>
      obtain ⟨sign, rfl, either⟩ : ∃ sign, word = [sign] ∧ (sign = ',' ∨ sign = ';') := by
        rcases parts word rfl with rfl | rfl
        · exact ⟨',', rfl, .inl rfl⟩
        · exact ⟨';', rfl, .inr rfl⟩
      have parting : Parting (sign :: rest) := by
        rintro _ ⟨⟩
        exact either
      have ahead : Spaced ([sign] :: words) ([] ++ [sign] ++ rest) :=
        .cons (List.forall_mem_nil _) others
      refine ⟨sign :: rest, ?_, parting, ahead,
        extends_ blank' (List.append_assoc blanks' [sign] rest) parting⟩
      rintro _ ⟨⟩
      rfl

namespace Eval

theorem bind_of_same {α β : Type} {context : Context} {r r' : Reading} {e e' : Eval α}
    (h : e context r = e' context r') (f : α → Eval β) :
    (e >>= f) context r = (e' >>= f) context r' := by
  cases he : e context r with
  | ok a s => rw [bind_of_ok he, bind_of_ok (h.symm.trans he)]
  | error cause s => rw [bind_of_error he, bind_of_error (h.symm.trans he)]

end Eval

namespace Statement

/-- A string or the text of an expression. -/
inductive Printable where
  | string (content : Text)
  | expression (text : Text)

def Printable.word : Printable → Text
  | string content => Cursor.quote :: (content ++ [Cursor.quote])
  | expression text => text

inductive Separator where
  | comma
  | semicolon
  deriving DecidableEq

def Separator.word : Separator → Text
  | comma => [',']
  | semicolon => [';']

/-- One or more printables, each with a separator behind it; the last one may lack it. -/
inductive PrintList where
  | last (p : Printable) (ending : Option Separator)
  | more (p : Printable) (s : Separator) (others : PrintList)

namespace PrintList

def first : PrintList → Printable
  | last p _ => p
  | more p _ _ => p

def next : PrintList → Option Separator
  | last _ ending => ending
  | more _ s _ => some s

def words : PrintList → List Text
  | last p ending => p.word :: ending.toList.map Separator.word
  | more p s others => p.word :: s.word :: others.words

def isOpen : PrintList → Bool
  | last _ ending => ending = some .semicolon
  | more _ s others => s = .semicolon || others.isOpen

def separators : PrintList → Nat
  | last _ ending => ending.toList.length
  | more _ _ others => others.separators + 1

end PrintList

/-- What a printable writes, and the random numbers behind it. An expression is evaluated on its
own, up to its end. -/
inductive Writes (context : Context) (room : Nat) : Printable → Generator → Text → Generator → Prop
  | string {content : Text} (plain : Cursor.quote ∉ content) (g : Generator) :
      Writes context room (.string content) g content g
  | expression {text : Text} {g g' : Generator} {value : Number} {c : Cursor} {room' : Nat}
      (evaluates : Eval.expressionBelow 1 context ⟨.start text, g, room⟩ =
        .ok value ⟨c, g', room'⟩)
      (ended : c.rest = []) : Writes context room (.expression text) g value.text g'

/-- An expression, and no string, fails on its own. -/
inductive Fails (context : Context) (room : Nat) : Printable → Generator → Prop
  | expression {text : Text} {g : Generator} {cause : Cause} {s : Reading}
      (other : ∀ first ∈ (text.dropWhile isBlank).head?, first ≠ Cursor.quote)
      (fails : Eval.expressionBelow 1 context ⟨.start text, g, room⟩ = .error cause s) :
      Fails context room (.expression text) g

/-- The evaluation of an expression passes a comma behind it, as one between the arguments of a
call that is still open. -/
inductive TakesComma (context : Context) (room : Nat) : Printable → Generator → Prop
  | expression {text : Text} {g : Generator}
      (passed : ((Eval.expressionBelow 1).stop context
        ⟨.start (text ++ [',']), g, room⟩).cursor.rest = []) :
      TakesComma context room (.expression text) g

/-- What a list writes, without the end of the line. -/
inductive Printed (context : Context) (room : Nat) : PrintList → Generator → Text → Generator → Prop
  | last {p : Printable} {g g' : Generator} {text : Text} {ending : Option Separator}
      (writes : Writes context room p g text g') (closed : ending ≠ some .comma) :
      Printed context room (.last p ending) g text g'
  | more {p : Printable} {g g' g'' : Generator} {text text' : Text} {s : Separator}
      {others : PrintList} (writes : Writes context room p g text g')
      (printed : Printed context room others g' text' g'') :
      Printed context room (.more p s others) g (text ++ text') g''

/-- The first printable of a list fails where it stands. Blanks at the end of a list are none, and
a call that is open before a comma takes the printables behind the comma as its arguments. -/
inductive Breaks (context : Context) (room : Nat) : PrintList → Generator → Prop
  | last {p : Printable} {g : Generator} {ending : Option Separator}
      (fails : Fails context room p g)
      (present : ending = none → p.word.dropWhile isBlank ≠ []) :
      Breaks context room (.last p ending) g
  | more {p : Printable} {g : Generator} {s : Separator} {others : PrintList}
      (fails : Fails context room p g) (parted : s = .comma → ¬TakesComma context room p g) :
      Breaks context room (.more p s others) g

/-- The first failure of a list, which may be a comma at its end. -/
inductive Spoiled (context : Context) (room : Nat) : PrintList → Generator → Prop
  | first {l : PrintList} {g : Generator} (breaks : Breaks context room l g) :
      Spoiled context room l g
  | comma {p : Printable} {g g' : Generator} {text : Text}
      (writes : Writes context room p g text g') :
      Spoiled context room (.last p (some .comma)) g
  | later {p : Printable} {g g' : Generator} {text : Text} {s : Separator} {others : PrintList}
      (writes : Writes context room p g text g') (spoiled : Spoiled context room others g') :
      Spoiled context room (.more p s others) g

variable {context : Context} {room : Nat} {c : Cursor} {g g' : Generator} {words : List Text}
  {text : Text} {p : Printable}

theorem printable_of_ended (context : Context) (g : Generator) (room : Nat)
    (ended : c.skipBlanks.rest = []) :
    ∃ cause s, printable context ⟨c, g, room⟩ = .error cause s := by
  have string :=
    Eval.scanStrictly_of_eq (Cursor.string_of_head (by rw [ended]; nofun)) context g room
  have nothing : ∀ first ∈ c.skipBlanks.skipBlanks.rest.head?, first = Cursor.quote := by
    rw [c.skipBlanks_skipBlanks, ended]
    rintro _ ⟨⟩
  obtain ⟨cause, s, fails⟩ := Eval.expressionBelow_of_head context g room nothing 1
  exact ⟨cause, s, (Eval.bind_of_ok string _).trans (Eval.bind_of_error fails _)⟩

theorem printable_skipBlanks :
    printable context ⟨c.skipBlanks, g, room⟩ = printable context ⟨c, g, room⟩ := by
  refine Eval.bind_of_same ?_ _
  simp only [Eval.scanStrictly, Cursor.string, c.skipBlanks_skipBlanks]

theorem other_of_evaluates {r : Reading} {value : Number}
    (evaluates : Eval.expressionBelow 1 context ⟨.start text, g, room⟩ = .ok value r) :
    ∀ first ∈ (text.dropWhile isBlank).head?, first ≠ Cursor.quote := by
  rintro first hf rfl
  have quoted : ∀ first ∈ (Cursor.start text).skipBlanks.rest.head?, first = Cursor.quote :=
    fun first hf' => Option.some.inj (hf'.symm.trans hf)
  obtain ⟨cause, s, fails⟩ := Eval.expressionBelow_of_head context g room quoted 1
  cases evaluates.symm.trans fails

theorem printable_of_other {tail : Text}
    (other : ∀ first ∈ (text.dropWhile isBlank).head?, first ≠ Cursor.quote)
    (parting : Parting tail) (ahead : (Cursor.start text).Extends tail c) :
    printable context ⟨c, g, room⟩ = (do
      return String.ofList (← Eval.expressionBelow 1).text) context ⟨c.skipBlanks, g, room⟩ := by
  have head : ∀ x ∈ c.skipBlanks.rest.head?, x ≠ Cursor.quote := by
    obtain ⟨blanks, blank, ahead⟩ := ahead
    rw [ahead]
    refine forall_head?_append other (forall_head?_append (fun x hx => ?_) fun x hx => ?_)
    · rintro rfl
      exact absurd (blank _ (List.mem_of_mem_head? hx)) (by decide +kernel)
    · rintro rfl
      exact absurd (parting _ hx) (by decide)
  exact Eval.bind_of_ok (Eval.scanStrictly_of_eq (Cursor.string_of_head head) context g room) _

theorem Separator.either {next : Option Separator} (parts : words.head? = next.map Separator.word) :
    ∀ word ∈ words.head?, word = [','] ∨ word = [';'] := by
  rw [parts]
  rintro _ hw
  obtain ⟨separator, -, rfl⟩ := Option.map_eq_some_iff.mp hw
  cases separator
  · exact .inl rfl
  · exact .inr rfl

theorem Separator.eq_comma {next : Option Separator}
    (h : next.map Separator.word = some [',']) : next = some .comma := by
  obtain ⟨separator, rfl, word⟩ := Option.map_eq_some_iff.mp h
  cases separator with
  | comma => rfl
  | semicolon => cases word

section Words

variable {next : Option Separator} (spaced : Spaced (p.word :: words) c.rest)
  (parts : words.head? = next.map Separator.word)

include spaced parts

theorem Writes.printable (h : Writes context room p g text g') : ∃ d,
    printable context ⟨c, g, room⟩ = .ok (String.ofList text) ⟨d, g', room⟩ ∧
    Spaced words d.rest := by
  cases h with
  | string plain =>
    obtain ⟨d, string, spaced⟩ := Cursor.string_of_spaced plain spaced
    have string := Eval.scanStrictly_of_eq string context g room
    exact ⟨d, (Eval.bind_of_ok string _).trans rfl, spaced⟩
  | @expression spelling _ _ value e room' evaluates ended =>
    have other := other_of_evaluates evaluates
    obtain rfl : room' = room := Eval.expressionBelow_room evaluates
    obtain ⟨tail, -, parting, spaced, ahead⟩ :=
      Cursor.extends_of_spaced spaced (Separator.either parts)
    have there := ahead.of_ahead (congrArg Cursor.rest c.skipBlanks_skipBlanks)
    obtain ⟨d, evaluates, further⟩ :=
      (Eval.expressionBelow_continues 1).of_ok evaluates parting there
    refine ⟨d, ?_, ?_⟩
    · rw [printable_of_other other parting ahead]
      exact (Eval.bind_of_ok evaluates _).trans rfl
    · have none : e.skipBlanks.rest = [] := congrArg (List.dropWhile isBlank) ended
      have left : d.rest.dropWhile isBlank = tail := further.at_end none
      exact (left ▸ spaced).of_dropWhile

theorem Fails.printable (h : Fails context room p g)
    (comma : next = some .comma → words = [Separator.comma.word] ∨ ¬TakesComma context room p g) :
    ∃ cause s, printable context ⟨c, g, room⟩ = .error cause s := by
  cases h with
  | @expression spelling _ cause s other fails =>
    obtain ⟨tail, head, parting, behind, ahead⟩ :=
      Cursor.extends_of_spaced spaced (Separator.either parts)
    have there := ahead.of_ahead (congrArg Cursor.rest c.skipBlanks_skipBlanks)
    have comma : ∀ rest, tail = ',' :: rest → (∀ b ∈ rest, isBlank b = true) ∨
        ∃ d, (Cursor.start spelling).Extends [','] d ∧
          ((Eval.expressionBelow 1).stop context ⟨d, g, room⟩).cursor.rest ≠ [] := by
      rintro rest rfl
      rcases comma (Separator.eq_comma (parts.symm.trans (head ',' rfl))) with rfl | open_
      · obtain ⟨rest', ahead', ended⟩ := behind.dropWhile_of_cons (by decide +kernel)
        cases ahead'
        exact .inl (List.dropWhile_eq_nil_iff.mp ended.dropWhile_of_nil)
      · refine .inr ⟨.start (spelling ++ [',']), ?_, fun passed => open_ (.expression passed)⟩
        exact .of_rest (.comma []) (List.forall_mem_nil _) rfl
    obtain ⟨cause', s', fails⟩ :=
      (Eval.expressionBelow_continues 1).of_error fails parting there comma
    refine ⟨cause', s', ?_⟩
    rw [printable_of_other other parting ahead]
    exact Eval.bind_of_error fails _

theorem Writes.not_ended (h : Writes context room p g text g') : c.skipBlanks.rest ≠ [] := by
  intro ended
  obtain ⟨d, writes, -⟩ := h.printable spaced parts
  obtain ⟨cause, s, fails⟩ := printable_of_ended context g room ended
  cases writes.symm.trans fails

theorem Fails.not_ended (h : Fails context room p g)
    (present : next = none → p.word.dropWhile isBlank ≠ []) : c.skipBlanks.rest ≠ [] := by
  cases h with
  | expression other =>
    obtain ⟨tail, -, -, behind, blanks, -, ahead⟩ :=
      Cursor.extends_of_spaced spaced (Separator.either parts)
    intro ended
    rw [ended] at ahead
    obtain ⟨blank, others⟩ := List.append_eq_nil_iff.mp ahead.symm
    obtain ⟨-, rfl⟩ := List.append_eq_nil_iff.mp others
    cases next with
    | none => exact present rfl blank
    | some s =>
      obtain ⟨words, rfl⟩ := List.head?_eq_some_iff.mp parts
      cases s
      · obtain ⟨rest, none, -⟩ := behind.dropWhile_of_cons (by decide +kernel)
        cases none
      · obtain ⟨rest, none, -⟩ := behind.dropWhile_of_cons (by decide +kernel)
        cases none

end Words

section Lists

variable {l : PrintList} {items : Nat} {written : String} {isOpen : Bool}

def printFrom (items : Nat) (written : String) (isOpen : Bool) : Eval (String × Bool) := do
  printFurther items (written ++ (← printable)) isOpen

theorem words_eq (l : PrintList) : ∃ words, l.words = l.first.word :: words ∧
    words.head? = l.next.map Separator.word ∧ l.separators ≤ words.flatten.length := by
  have one (s : Separator) : s.word.length = 1 := by cases s <;> rfl
  induction l with
  | last p ending =>
    cases ending with
    | none => exact ⟨[], rfl, rfl, Nat.le_refl 0⟩
    | some s => exact ⟨[s.word], rfl, rfl, by simp [PrintList.separators, one]⟩
  | more p s others ih =>
    obtain ⟨words, words_eq, -, le⟩ := ih
    refine ⟨s.word :: others.words, rfl, rfl, ?_⟩
    simp only [PrintList.separators, words_eq, List.flatten_cons, List.length_append, one]
    omega

theorem anyOf_of_spaced {s : Separator} (h : Spaced (s.word :: words) c.rest) :
    ∃ d, Cursor.anyOf [[','], [';']] c = (some s.word, d) ∧ Spaced words d.rest := by
  cases s with
  | comma =>
    obtain ⟨d, found, others⟩ := Cursor.literal_of_spaced h (by decide +kernel)
    exact ⟨d, by simp only [Cursor.anyOf, found, Separator.word], others⟩
  | semicolon =>
    obtain ⟨rest, ahead, others⟩ := h.dropWhile_of_cons (by decide +kernel)
    have ahead : c.skipBlanks.rest = ';' :: rest := ahead
    have missing : c.literal [','] = (false, c.skipBlanks) := Cursor.literal_of_head (by
      rw [ahead]
      rintro _ ⟨⟩
      decide)
    have found : c.skipBlanks.literal [';'] = (true, c.skipBlanks.advance 1) := by
      simp [Cursor.literal, c.skipBlanks_skipBlanks, ahead]
    refine ⟨c.skipBlanks.advance 1, ?_, ?_⟩
    · simp only [Cursor.anyOf, missing, found, Separator.word]
    · simpa [Cursor.advance, ahead] using others

theorem printFurther_of_ended (ended : c.skipBlanks.rest = []) : ∃ d,
    printFurther items written isOpen context ⟨c, g, room⟩ =
      .ok (written, isOpen) ⟨d, g, room⟩ := by
  cases items with
  | zero => exact ⟨c, rfl⟩
  | succ items =>
    have missing : Cursor.anyOf [[','], [';']] c = (none, c.skipBlanks) := by
      have nothing : ∀ sign : Char, ∀ first ∈ c.skipBlanks.rest.head?, first ≠ sign := by
        rw [ended]
        rintro _ _ ⟨⟩
      have settled := c.skipBlanks_skipBlanks
      have semicolon : c.skipBlanks.literal [';'] = (false, c.skipBlanks) := by
        rw [Cursor.literal_of_head (settled.symm ▸ nothing ';'), settled]
      simp only [Cursor.anyOf, Cursor.literal_of_head (nothing ','), semicolon]
    exact ⟨c.skipBlanks, (Eval.bind_of_ok (Eval.scan_of_eq missing) _).trans rfl⟩

theorem printFurther_of_separator {s : Separator} (h : Spaced (s.word :: words) c.rest) :
    ∃ d, Spaced words d.rest ∧ (d.skipBlanks.rest ≠ [] →
      printFurther (items + 1) written isOpen context ⟨c, g, room⟩ =
        printFrom items written (isOpen || s = .semicolon) context ⟨d, g, room⟩) := by
  obtain ⟨d, found, others⟩ := anyOf_of_spaced h
  refine ⟨d, others, fun more => (Eval.bind_of_ok (Eval.scan_of_eq found) _).trans ?_⟩
  cases s with
  | comma => simp [Separator.word, printFrom]
  | semicolon =>
    have notEnd : Eval.atEnd context ⟨d, g, room⟩ = .ok false ⟨d.skipBlanks, g, room⟩ :=
      Eval.scan_of_eq (Prod.ext (by simpa [Cursor.atEnd] using more) rfl)
    have behind : printFrom items written true context ⟨d.skipBlanks, g, room⟩ =
        printFrom items written true context ⟨d, g, room⟩ :=
          Eval.bind_of_same printable_skipBlanks _
    rw [decide_eq_true rfl, Bool.or_true, ← behind]
    exact Eval.bind_of_ok notEnd _

theorem printFurther_of_semicolon (h : Spaced [Separator.semicolon.word] c.rest) : ∃ d,
    printFurther (items + 1) written isOpen context ⟨c, g, room⟩ =
      .ok (written, true) ⟨d, g, room⟩ := by
  obtain ⟨d, found, others⟩ := anyOf_of_spaced h
  have ended : Eval.atEnd context ⟨d, g, room⟩ = .ok true ⟨d.skipBlanks, g, room⟩ :=
    Eval.scan_of_eq (Prod.ext (Cursor.atEnd_of_spaced others).2 rfl)
  exact ⟨d.skipBlanks, (Eval.bind_of_ok (Eval.scan_of_eq found) _).trans
    ((Eval.bind_of_ok ended _).trans rfl)⟩

theorem printFurther_of_comma (h : Spaced [Separator.comma.word] c.rest) : ∃ cause s,
    printFurther (items + 1) written isOpen context ⟨c, g, room⟩ = .error cause s := by
  obtain ⟨d, found, others⟩ := anyOf_of_spaced h
  obtain ⟨cause, s, fails⟩ :=
    printable_of_ended context g room (Cursor.atEnd_of_spaced others).1
  exact ⟨cause, s, (Eval.bind_of_ok (Eval.scan_of_eq found) _).trans (Eval.bind_of_error fails _)⟩

theorem Breaks.printable (h : Breaks context room l g) (spaced : Spaced l.words c.rest) :
    c.skipBlanks.rest ≠ [] ∧ ∃ cause s, printable context ⟨c, g, room⟩ = .error cause s := by
  cases h with
  | @last p g ending fails present =>
    have parts : (ending.toList.map Separator.word).head? = ending.map Separator.word := by
      cases ending <;> rfl
    exact ⟨fails.not_ended spaced parts present, fails.printable spaced parts fun comma =>
      .inl (by rw [comma]; rfl)⟩
  | @more p g s others fails parted =>
    have parts : (s.word :: others.words).head? = (some s).map Separator.word := rfl
    exact ⟨fails.not_ended spaced parts nofun, fails.printable spaced parts fun comma =>
      .inr (parted (Option.some.inj comma))⟩

def Tries (context : Context) (room : Nat) (l : PrintList) (g : Generator) : Prop :=
  (∃ text g', Writes context room l.first g text g') ∨ Breaks context room l g

theorem Tries.not_ended (h : Tries context room l g) (spaced : Spaced l.words c.rest) :
    c.skipBlanks.rest ≠ [] := by
  rcases h with ⟨text, g', writes⟩ | breaks
  · obtain ⟨words, words_eq, parts, -⟩ := words_eq l
    rw [words_eq] at spaced
    exact writes.not_ended spaced parts
  · exact (breaks.printable spaced).1

theorem Printed.tries (h : Printed context room l g text g') : Tries context room l g := by
  cases h with
  | last writes => exact .inl ⟨_, _, writes⟩
  | more writes => exact .inl ⟨_, _, writes⟩

theorem Spoiled.tries (h : Spoiled context room l g) : Tries context room l g := by
  cases h with
  | first breaks => exact .inr breaks
  | comma writes => exact .inl ⟨_, _, writes⟩
  | later writes => exact .inl ⟨_, _, writes⟩

/-- With a bound on the separators, all printables are written one behind the other. -/
theorem Printed.printFrom (h : Printed context room l g text g') (spaced : Spaced l.words c.rest)
    (bound : l.separators ≤ items) : ∃ d, printFrom items written isOpen context ⟨c, g, room⟩ =
      .ok (written ++ String.ofList text, isOpen || l.isOpen) ⟨d, g', room⟩ := by
  induction h generalizing c items written isOpen with
  | @last p g g' text ending writes closed =>
    have parts : (ending.toList.map Separator.word).head? = ending.map Separator.word := by
      cases ending <;> rfl
    obtain ⟨d, first, behind⟩ := writes.printable spaced parts
    have step : printFrom items written isOpen context ⟨c, g, room⟩ =
      printFurther items (written ++ String.ofList text) isOpen context ⟨d, g', room⟩ :=
      Eval.bind_of_ok first _
    rw [step]
    cases ending with
    | none =>
      obtain ⟨e, done⟩ := printFurther_of_ended (Cursor.atEnd_of_spaced behind).1
      exact ⟨e, by rw [done, PrintList.isOpen, decide_eq_false nofun, Bool.or_false]⟩
    | some s =>
      cases s with
      | comma => exact absurd rfl closed
      | semicolon =>
        have one : 1 ≤ items := bound
        obtain ⟨items, rfl⟩ := Nat.exists_eq_add_of_le' one
        obtain ⟨e, done⟩ := printFurther_of_semicolon behind
        exact ⟨e, by rw [done, PrintList.isOpen, decide_eq_true rfl, Bool.or_true]⟩
  | @more p g g' g'' text text' s others writes printed ih =>
    have parts : (s.word :: others.words).head? = (some s).map Separator.word := rfl
    obtain ⟨d, first, behind⟩ := writes.printable spaced parts
    obtain ⟨items, rfl⟩ := Nat.exists_eq_add_of_le' (Nat.le_of_add_left_le bound)
    obtain ⟨e, spaced, step⟩ := printFurther_of_separator behind
    obtain ⟨f, done⟩ := ih spaced (Nat.le_of_succ_le_succ bound)
    refine ⟨f, (Eval.bind_of_ok first _).trans ?_⟩
    rw [step (printed.tries.not_ended spaced), done, PrintList.isOpen, Bool.or_assoc,
      String.ofList_append, String.append_assoc]

theorem Spoiled.printFrom (h : Spoiled context room l g) (spaced : Spaced l.words c.rest)
    (bound : l.separators ≤ items) :
    ∃ cause s, printFrom items written isOpen context ⟨c, g, room⟩ = .error cause s := by
  induction h generalizing c items written isOpen with
  | @first l g breaks =>
    obtain ⟨-, cause, s, fails⟩ := breaks.printable spaced
    exact ⟨cause, s, Eval.bind_of_error fails _⟩
  | comma writes =>
    have parts : [Separator.comma.word].head? = (some .comma).map Separator.word := rfl
    obtain ⟨d, first, behind⟩ := writes.printable spaced parts
    have one : 1 ≤ items := bound
    obtain ⟨items, rfl⟩ := Nat.exists_eq_add_of_le' one
    obtain ⟨cause, s, fails⟩ := printFurther_of_comma behind
    exact ⟨cause, s, (Eval.bind_of_ok first _).trans fails⟩
  | @later p g g' text s others writes spoiled ih =>
    have parts : (s.word :: others.words).head? = (some s).map Separator.word := rfl
    obtain ⟨d, first, behind⟩ := writes.printable spaced parts
    obtain ⟨items, rfl⟩ := Nat.exists_eq_add_of_le' (Nat.le_of_add_left_le bound)
    obtain ⟨e, spaced, step⟩ := printFurther_of_separator behind
    obtain ⟨cause, s, fails⟩ := ih spaced (Nat.le_of_succ_le_succ bound)
    refine ⟨cause, s, (Eval.bind_of_ok first _).trans ?_⟩
    rw [step (spoiled.tries.not_ended spaced), fails]

/-- A list is its printables and the end of the line, unless it is kept open. -/
theorem printList_eq (tries : Tries context room l g) (spaced : Spaced l.words c.rest) :
    ∃ items, l.separators ≤ items ∧ printList context ⟨c, g, room⟩ = (do
      let (written, isOpen) ← printFrom items "" false
      return if isOpen then written else written ++ "\n") context ⟨c, g, room⟩ := by
  have more := tries.not_ended spaced
  have notEnd : Eval.atEnd context ⟨c, g, room⟩ = .ok false ⟨c.skipBlanks, g, room⟩ :=
    Eval.scan_of_eq (Prod.ext (by simpa [Cursor.atEnd] using more) rfl)
  rcases tries with ⟨text, g', writes⟩ | breaks
  · obtain ⟨words, words_eq, parts, le⟩ := words_eq l
    rw [words_eq] at spaced
    obtain ⟨d, first, behind⟩ := writes.printable spaced parts
    refine ⟨d.rest.length, le.trans behind.length_flatten_le, ?_⟩
    have same : printFurther d.rest.length (String.ofList text) false context ⟨d, g', room⟩ =
        printFrom d.rest.length "" false context ⟨c, g, room⟩ := by
      rw [printFrom, Eval.bind_of_ok first, String.empty_append]
    have first := printable_skipBlanks.trans first
    exact (Eval.bind_of_ok notEnd _).trans <| (Eval.bind_of_ok first _).trans <|
      Eval.bind_of_same same _
  · obtain ⟨-, cause, s, fails⟩ := breaks.printable spaced
    have none : printFrom l.separators "" false context ⟨c, g, room⟩ = .error cause s :=
      Eval.bind_of_error fails _
    refine ⟨l.separators, Nat.le_refl _, ?_⟩
    rw [Eval.bind_of_error none]
    exact (Eval.bind_of_ok notEnd _).trans (Eval.bind_of_error (printable_skipBlanks.trans fails) _)

theorem printList_of_printed (h : Printed context room l g text g')
    (spaced : Spaced l.words c.rest) :
    ∃ d, printList context ⟨c, g, room⟩ =
      .ok (String.ofList text ++ if l.isOpen then "" else "\n") ⟨d, g', room⟩ := by
  obtain ⟨items, bound, list⟩ := printList_eq h.tries spaced
  obtain ⟨d, done⟩ := h.printFrom spaced bound
  refine ⟨d, list.trans ((Eval.bind_of_ok done _).trans ?_)⟩
  rw [Bool.false_or, String.empty_append]
  cases l.isOpen <;> simp

theorem printList_of_spoiled (h : Spoiled context room l g) (spaced : Spaced l.words c.rest) :
    ∃ cause s, printList context ⟨c, g, room⟩ = .error cause s := by
  obtain ⟨items, bound, list⟩ := printList_eq h.tries spaced
  obtain ⟨cause, s, fails⟩ := h.printFrom spaced bound
  exact ⟨cause, s, list.trans (Eval.bind_of_error fails _)⟩

end Lists

section Executed

variable {m : Machine} {l : PrintList} {line : Text} (wording : Says .print l.words line)

include wording

theorem execute_print : ∃ c, Spaced l.words c.rest ∧
    execute (.start m line) = print ⟨m, c, m.room + 14⟩ := by
  have unconditional : Keyword.print ≠ .condition := by decide
  obtain ⟨c, spaced, execute_eq⟩ := wording.execute_eq unconditional
  exact ⟨c, spaced, execute_eq m⟩

theorem execute_print_of_printed {text : Text} {g : Generator}
    (printed : Printed m.context (m.room + 14) l m.generator text g) :
    ∃ c, execute (.start m line) = .ok () ⟨Machine.write { m with generator := g }
      (String.ofList text ++ if l.isOpen then "" else "\n"), c, m.room + 14⟩ := by
  obtain ⟨c, spaced, execute_eq⟩ := execute_print wording
  obtain ⟨d, list⟩ := printList_of_printed printed spaced
  have evaluated := Exec.evaluate_of_ok (s := ⟨m, c, m.room + 14⟩) list
  exact ⟨d, execute_eq.trans ((Exec.bind_of_ok evaluated _).trans rfl)⟩

theorem execute_print_of_spoiled (spoiled : Spoiled m.context (m.room + 14) l m.generator) :
    ∃ cause g c room,
      execute (.start m line) = .error cause ⟨{ m with generator := g }, c, room⟩ := by
  obtain ⟨c, spaced, execute_eq⟩ := execute_print wording
  obtain ⟨cause, r, fails⟩ := printList_of_spoiled spoiled spaced
  have evaluated := Exec.evaluate_of_error (s := ⟨m, c, m.room + 14⟩) fails
  exact ⟨cause, r.generator, r.cursor, r.room,
    execute_eq.trans (Exec.bind_of_error evaluated _)⟩

end Executed

/-- A list is written as a whole, with the end of the line unless a semicolon is in it. With a
failure or a comma at its end it writes nothing. -/
theorem print_writes_list {m : Machine} {l : PrintList} {line : Text}
    (wording : Says .print l.words line) :
    (∀ text g, Printed m.context (m.room + 14) l m.generator text g →
      ∃ c, execute (.start m line) = .ok () ⟨Machine.write { m with generator := g }
        (String.ofList text ++ if l.isOpen then "" else "\n"), c, m.room + 14⟩) ∧
    (Spoiled m.context (m.room + 14) l m.generator → ∃ cause g c room,
      execute (.start m line) = .error cause ⟨{ m with generator := g }, c, room⟩) := by
  constructor
  · exact fun text g printed => execute_print_of_printed wording printed
  · exact fun spoiled => execute_print_of_spoiled wording spoiled

/-- A comma in a string parts nothing, and an unknown name spoils a list. -/
theorem list_printed_and_list_spoiled :
    let m := (Machine.fresh 0 0 (.ofInput [])).assign ['x'] 0
    (∃ c, execute (.start m (ofString "print \"a,b\"; x")) =
      .ok () ⟨m.write "a,b0", c, 14⟩) ∧
    ∃ cause g c room, execute (.start m (ofString "PRINT \"a\",y")) =
      .error cause ⟨{ m with generator := g }, c, room⟩ := by
  intro m
  constructor
  · let l : PrintList := .more (.string ['a', ',', 'b']) .semicolon (.last (.expression ['x']) none)
    let x : VariableName := ⟨['x'], ⟨⟨'x', rfl, by decide +kernel⟩,
      List.all_eq_true.mp (by decide +kernel)⟩, by decide +kernel, by decide +kernel⟩
    have stops : Stops [] := by rintro _ ⟨⟩
    have writes : Writes m.context 14 (.expression ['x']) m.generator (0 : Number).text
        m.generator := by
      have held : m.context.variables.get? (lower x.spelling) = some 0 := rfl
      have zero := Eval.expression_alone stops held 0 m.generator (Nat.le_refl (13 + 1))
      exact .expression zero rfl
    have digit : (0 : Number).text = ['0'] := by decide +kernel
    have printed : Printed m.context 14 l m.generator (['a', ',', 'b'] ++ ['0'])
        m.generator := by
      rw [← digit]
      exact .more (.string (by decide) _) (.last writes nofun)
    have spaced : Spaced l.words (['"', 'a', ',', 'b', '"'] ++ ([';'] ++ ([' '] ++ ['x']))) :=
      (Spaced.bare _).append ((Spaced.bare [';']).append (.single
        (List.all_eq_true.mp (by decide +kernel)) ['x']))
    have wording : Says .print l.words (ofString "print" ++ ' ' :: _) :=
      .of_blank (by decide +kernel) (by decide +kernel) spaced
    exact (print_writes_list wording).1 _ _ printed
  · let l : PrintList := .more (.string ['a']) .comma (.last (.expression ['y']) none)
    have unheld : (outcome? (Eval.expressionBelow 1 m.context
        ⟨.start ['y'], m.generator, 14⟩)).isNone = true := by
      decide +kernel
    obtain ⟨cause, s, unknown⟩ := outcome?_eq_none_iff.mp (Option.isNone_iff_eq_none.mp unheld)
    have spaced : Spaced l.words (['"', 'a', '"'] ++ ([','] ++ ['y'])) :=
      (Spaced.bare _).append ((Spaced.bare [',']).append (.bare ['y']))
    have wording : Says .print l.words (ofString "PRINT" ++ ' ' :: _) :=
      .of_blank (by decide +kernel) (by decide +kernel) spaced
    have other : ∀ first ∈ (['y'].dropWhile isBlank).head?, first ≠ Cursor.quote := by
      rw [List.dropWhile_cons_of_neg (by decide +kernel)]
      rintro _ ⟨⟩
      decide
    have fails : Fails m.context 14 (.expression ['y']) m.generator :=
      .expression other unknown
    have breaks : Breaks m.context 14 (.last (.expression ['y']) none) m.generator :=
      .last fails fun _ => by decide +kernel
    exact (print_writes_list wording).2 (.later (.string (by decide) _) (.first breaks))

/-- A call that is open takes what is behind a comma, and in a printed list there is room for fewer
calls than for an expression on its own. -/
theorem comma_within_call_and_lack_of_room :
    (let m := { Machine.fresh 0 0 (.ofInput []) with room := 9 }
    let l : PrintList := .more (.expression (ofString "max(1")) .comma
      (.last (.expression (ofString "2)")) none)
    Says .print l.words (ofString "PRINT max(1,2)") ∧
    Fails m.context (m.room + 14) l.first m.generator ∧
    ∃ s, execute (.start m (ofString "PRINT max(1,2)")) = .ok () s ∧
      s.machine.console.output = "2\n") ∧
    let m := { Machine.fresh 0 0 (.ofInput []) with room := 7 }
    let l : PrintList := .last (.expression (ofString "(1)")) none
    Says .print l.words (ofString "PRINT (1)") ∧
    (∃ value r, Eval.expression m.context ⟨.start (ofString "(1)"), m.generator, m.room + 14⟩ =
      .ok value r ∧ r.cursor.rest = []) ∧
    ∃ cause s, execute (.start m (ofString "PRINT (1)")) = .error cause s := by
  refine ⟨?_, ?_⟩
  · intro m l
    have spaced : Spaced l.words (ofString "max(1" ++ ([','] ++ ofString "2)")) :=
      (Spaced.bare _).append ((Spaced.bare [',']).append (.bare _))
    have wording : Says .print l.words (ofString "PRINT" ++ ' ' :: _) :=
      .of_blank (by decide +kernel) (by decide +kernel) spaced
    have unheld : (outcome? (Eval.expressionBelow 1 m.context
        ⟨.start (ofString "max(1"), m.generator, m.room + 14⟩)).isNone = true := by
      decide +kernel
    obtain ⟨cause, s, open_⟩ := outcome?_eq_none_iff.mp (Option.isNone_iff_eq_none.mp unheld)
    have other : ∀ first ∈ ((ofString "max(1").dropWhile isBlank).head?, first ≠ Cursor.quote := by
      rw [show ofString "max(1" = 'm' :: ofString "ax(1" by decide +kernel,
        List.dropWhile_cons_of_neg (by decide +kernel)]
      rintro _ ⟨⟩
      decide
    have done : (outcome? (execute (.start m (ofString "PRINT max(1,2)")))).map
        (·.2.machine.console.output) = some "2\n" := by
      decide +kernel
    obtain ⟨⟨_, s'⟩, executed, output⟩ := Option.map_eq_some_iff.mp done
    exact ⟨wording, .expression other open_, s', outcome?_eq_some_iff.mp executed, output⟩
  · intro m l
    have wording : Says .print l.words (ofString "PRINT" ++ ' ' :: _) :=
      .of_blank (by decide +kernel) (by decide +kernel) (.bare _)
    have alone : (outcome? (Eval.expression m.context
        ⟨.start (ofString "(1)"), m.generator, m.room + 14⟩)).map (·.2.cursor.rest) = some [] := by
      decide +kernel
    have unheld : (outcome? (execute (.start m (ofString "PRINT (1)")))).isNone = true := by
      decide +kernel
    obtain ⟨⟨value, r⟩, evaluated, ended⟩ := Option.map_eq_some_iff.mp alone
    exact ⟨wording, ⟨value, r, outcome?_eq_some_iff.mp evaluated, ended⟩,
      outcome?_eq_none_iff.mp (Option.isNone_iff_eq_none.mp unheld)⟩

end Statement

end NumberedBasic
