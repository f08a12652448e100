import NumberedBasic.Proofs.Grammar.Alone

/-! # Expressions in a longer line

An expression is the same in a line that goes on with a comma or a semicolon behind it: no matcher
reaches for one of them. Only a call whose parenthesis is still open takes the comma, as one between
its arguments, and such a text is no expression on its own.
-/

namespace NumberedBasic

open Text

/-- Nothing follows, or a sign that parts printables. -/
def Parting (rest : Text) : Prop :=
  ∀ c ∈ rest.head?, c = ',' ∨ c = ';'

theorem Parting.comma (rest : Text) : Parting (',' :: rest) := by
  rintro _ ⟨⟩
  exact .inl rfl

namespace Cursor

def Trails (c : Char) : Prop :=
  isBlank c = true ∨ c = ',' ∨ c = ';'

namespace Trails

variable {c : Char} (h : Trails c)

include h

theorem not_isNameChar : isNameChar c = false := by
  rcases h with blank | rfl | rfl
  · exact not_isNameChar_of_isBlank blank
  · decide +kernel
  · decide +kernel

theorem not_isLetter : isLetter c = false := by
  rw [Bool.eq_false_iff]
  intro letter
  simpa [isNameChar_of_isLetter letter] using h.not_isNameChar

theorem not_isDigit : isDigit c = false := by
  rw [Bool.eq_false_iff]
  intro digit
  simpa [isNameChar_of_isDigit digit] using h.not_isNameChar

theorem not_mem {signs : Text} (plain : signs.all fun c => !isBlank c && c != ',' && c != ';') :
    c ∉ signs := by
  intro mem
  have other := List.all_eq_true.mp plain c mem
  rcases h with blank | rfl | rfl
  · simp [blank] at other
  · simp at other
  · simp at other

end Trails

theorem plain_of_sign {sign : Char} (h : sign ∈ ['+', '-', '*', '/', '(', ')']) :
    [sign].all fun c => !isBlank c && c != ',' && c != ';' := by
  have plain : ['+', '-', '*', '/', '(', ')'].all
      (fun c => !isBlank c && c != ',' && c != ';') = true := by
    decide +kernel
  simpa using List.all_eq_true.mp plain sign h

/-- Blanks apart, the second cursor has the rest of the first one ahead and a tail behind it. -/
def Extends (tail : Text) (c c' : Cursor) : Prop :=
  ∃ blanks, (∀ b ∈ blanks, isBlank b = true) ∧
    c'.skipBlanks.rest = c.skipBlanks.rest ++ (blanks ++ tail)

variable {tail : Text} {c c' : Cursor}

namespace Extends

theorem of_rest (parting : Parting tail) {blanks : Text} (blank : ∀ b ∈ blanks, isBlank b = true)
    (h : c'.rest = c.rest ++ (blanks ++ tail)) : c.Extends tail c' := by
  have dark : ∀ x ∈ tail.head?, isBlank x = false := by
    intro x hx
    obtain rfl | rfl := parting x hx <;> decide +kernel
  by_cases none : c.rest.dropWhile isBlank = []
  · refine ⟨[], nofun, ?_⟩
    have all : ∀ b ∈ c.rest ++ blanks, isBlank b = true := by
      rw [List.forall_mem_append]
      exact ⟨List.dropWhile_eq_nil_iff.mp none, blank⟩
    change c'.rest.dropWhile isBlank = c.rest.dropWhile isBlank ++ _
    rw [h, none, ← List.append_assoc, dropWhile_run all dark, List.nil_append, List.nil_append]
  · refine ⟨blanks, blank, ?_⟩
    change c'.rest.dropWhile isBlank = c.rest.dropWhile isBlank ++ _
    rw [h, List.dropWhile_append, if_neg (by simpa using none)]

theorem of_ahead {d : Cursor} (h : c.Extends tail c')
    (same : d.skipBlanks.rest = c'.skipBlanks.rest) : c.Extends tail d := by
  obtain ⟨blanks, blank, ahead⟩ := h
  exact ⟨blanks, blank, same.trans ahead⟩

theorem skipBlanks (h : c.Extends tail c') : c.skipBlanks.Extends tail c'.skipBlanks := by
  obtain ⟨blanks, blank, ahead⟩ := h
  refine ⟨blanks, blank, ?_⟩
  rwa [c.skipBlanks_skipBlanks, c'.skipBlanks_skipBlanks]

/-- What stands behind the rest of the first cursor. -/
theorem exists_behind (h : c.Extends tail c') (parting : Parting tail) : ∃ behind,
    c'.skipBlanks.rest = c.skipBlanks.rest ++ behind ∧ (∀ x ∈ behind.head?, Trails x) ∧
      ∀ d d' : Cursor, d'.rest = d.rest ++ behind → d.Extends tail d' := by
  obtain ⟨blanks, blank, ahead⟩ := h
  refine ⟨blanks ++ tail, ahead, ?_, fun d d' same => .of_rest parting blank same⟩
  intro x hx
  cases blanks with
  | nil => exact .inr (parting x hx)
  | cons b blanks =>
    obtain rfl : b = x := by simpa using hx
    exact .inl (blank b List.mem_cons_self)

theorem at_end (h : c.Extends tail c') (ended : c.skipBlanks.rest = []) :
    c'.skipBlanks.rest = tail := by
  obtain ⟨blanks, blank, ahead⟩ := h
  rw [ended, List.nil_append] at ahead
  cases blanks with
  | nil => exact ahead
  | cons b blanks =>
    have dark := c'.skipBlanks_settled b (by rw [ahead]; rfl)
    simp [blank b List.mem_cons_self] at dark

end Extends

/-- The matcher finds the same in both lines, and leaves the tail ahead. -/
def Continues {α : Type} (matcher : Cursor → α × Cursor) : Prop :=
  ∀ ⦃tail : Text⦄ ⦃c c' : Cursor⦄, Parting tail → c.Extends tail c' →
    (matcher c').1 = (matcher c).1 ∧ (matcher c).2.Extends tail (matcher c').2

theorem advance_append {behind : Text} (h : c'.rest = c.rest ++ behind) {count : Nat}
    (le : count ≤ c.rest.length) : (c'.advance count).rest = (c.advance count).rest ++ behind := by
  simp only [advance, h]
  exact List.drop_append_of_le_length le

theorem Extends.literal {expected : Text} (h : c.Extends tail c') (parting : Parting tail)
    (same : expected.isPrefixOf c'.skipBlanks.rest = expected.isPrefixOf c.skipBlanks.rest) :
    (c'.literal expected).1 = (c.literal expected).1 ∧
      (c.literal expected).2.Extends tail (c'.literal expected).2 := by
  obtain ⟨behind, ahead, -, extends_of⟩ := h.exists_behind parting
  unfold Cursor.literal
  dsimp only
  rw [same]
  split
  · rename_i found
    have le := (List.isPrefixOf_iff_prefix.mp found).length_le
    exact ⟨rfl, extends_of _ _ (advance_append ahead le)⟩
  · exact ⟨rfl, h.skipBlanks⟩

theorem literal_continues {expected : Text}
    (plain : expected.all fun c => !isBlank c && c != ',' && c != ';') :
    Continues (literal expected) := by
  intro tail c c' parting h
  obtain ⟨behind, ahead, trails, -⟩ := h.exists_behind parting
  refine h.literal parting ?_
  rw [ahead]
  exact isPrefixOf_append_of_head fun x hx => (trails x hx).not_mem plain

theorem Extends.sign {sign : Char} (h : c.Extends tail c') (parting : Parting tail)
    (more : c.skipBlanks.rest ≠ []) : (c'.literal [sign]).1 = (c.literal [sign]).1 ∧
      (c.literal [sign]).2.Extends tail (c'.literal [sign]).2 := by
  obtain ⟨behind, ahead, -, -⟩ := h.exists_behind parting
  obtain ⟨first, others, hc⟩ := List.exists_cons_of_ne_nil more
  refine h.literal parting ?_
  rw [ahead, hc, List.cons_append, List.isPrefixOf_cons_cons, List.isPrefixOf_cons_cons,
    List.isPrefixOf_nil_left, List.isPrefixOf_nil_left]

theorem relation_continues : Continues relation := by
  intro tail c c' parting h
  obtain ⟨behind, ahead, trails, extends_of⟩ := h.exists_behind parting
  have same : (fun r : Relation => r.sign.isPrefixOf c'.skipBlanks.rest) =
      fun r => r.sign.isPrefixOf c.skipBlanks.rest := by
    funext r
    rw [ahead]
    refine isPrefixOf_append_of_head fun x hx => (trails x hx).not_mem ?_
    cases r <;> decide +kernel
  unfold relation
  dsimp only
  rw [same]
  split
  · rename_i found
    have begins := List.find?_some found
    have le := (List.isPrefixOf_iff_prefix.mp begins).length_le
    exact ⟨rfl, extends_of _ _ (advance_append ahead le)⟩
  · exact ⟨rfl, h.skipBlanks⟩

theorem identifier_continues : Continues identifier := by
  intro tail c c' parting h
  obtain ⟨behind, ahead, trails, extends_of⟩ := h.exists_behind parting
  have outside : ∀ x ∈ behind.head?, isNameChar x = false :=
    fun x hx => (trails x hx).not_isNameChar
  have first : c'.skipBlanks.rest.head?.any isLetter = c.skipBlanks.rest.head?.any isLetter := by
    rw [ahead]
    cases c.skipBlanks.rest with
    | nil =>
      cases behind with
      | nil => rfl
      | cons x behind => exact (trails x rfl).not_isLetter
    | cons x rest => rfl
  have run : c'.skipBlanks.rest.takeWhile isNameChar = c.skipBlanks.rest.takeWhile isNameChar := by
    rw [ahead, takeWhile_append_of_head outside]
  unfold identifier
  dsimp only
  rw [first, run]
  split
  · refine ⟨rfl, extends_of _ _ ?_⟩
    simp only [skipWhile, ahead]
    exact dropWhile_append_of_head outside
  · exact ⟨rfl, h.skipBlanks⟩

theorem number_continues : Continues number := by
  intro tail c c' parting h
  obtain ⟨behind, ahead, trails, extends_of⟩ := h.exists_behind parting
  have outside : ∀ x ∈ behind.head?, isDigit x = false ∧ x ≠ '.' := by
    refine fun x hx => ⟨(trails x hx).not_isDigit, fun point => ?_⟩
    have other : x ∉ ['.'] := (trails x hx).not_mem (by decide +kernel)
    exact other (by simp [point])
  obtain ⟨whole, rest, both, inside, ends⟩ := exists_run isDigit c.skipBlanks.rest
  have both' : c'.skipBlanks.rest = whole ++ (rest ++ behind) := by
    rw [ahead, both, List.append_assoc]
  have ends' := forall_head?_append ends fun x hx => (outside x hx).1
  by_cases none : whole = []
  · have run : c.skipBlanks.rest.takeWhile isDigit = [] := by
      rw [both, takeWhile_run inside ends, none]
    have run' : c'.skipBlanks.rest.takeWhile isDigit = [] := by
      rw [both', takeWhile_run inside ends', none]
    simp only [number, run, run', true_and]
    exact h.skipBlanks
  by_cases point : ∃ after, rest = '.' :: after
  · obtain ⟨after, rfl⟩ := point
    obtain ⟨digits, rest, rfl, inside', ends⟩ := exists_run isDigit after
    have ends' := forall_head?_append ends fun x hx => (outside x hx).1
    obtain ⟨found, left⟩ := number_fraction (by rw [both, List.append_assoc]; rfl) none inside
      inside' ends
    obtain ⟨found', left'⟩ := number_fraction (by rw [both']; simp) none inside inside' ends'
    exact ⟨found'.trans found.symm, extends_of _ _ (by rw [left, left'])⟩
  · have stops : ∀ x ∈ rest.head?, isDigit x = false ∧ x ≠ '.' := by
      refine fun x hx => ⟨ends x hx, ?_⟩
      rintro rfl
      exact point (List.head?_eq_some_iff.mp hx)
    obtain ⟨found, left⟩ := number_whole both none inside stops
    obtain ⟨found', left'⟩ := number_whole both' none inside (forall_head?_append stops outside)
    exact ⟨found'.trans found.symm, extends_of _ _ (by rw [left, left'])⟩

theorem keyword_continues (expected : Text) : Continues (keyword expected) := by
  intro tail c c' parting h
  obtain ⟨behind, ahead, trails, extends_of⟩ := h.exists_behind parting
  have outside : ∀ x ∈ behind.head?, isLetter x = false := fun x hx => (trails x hx).not_isLetter
  have run : c'.skipBlanks.rest.takeWhile isLetter = c.skipBlanks.rest.takeWhile isLetter := by
    rw [ahead, takeWhile_append_of_head outside]
  have others : (c'.skipBlanks.skipWhile isLetter).rest =
      (c.skipBlanks.skipWhile isLetter).rest ++ behind := by
    simp only [skipWhile, ahead]
    exact dropWhile_append_of_head outside
  by_cases none : c.skipBlanks.rest.takeWhile isLetter = []
  · simp only [keyword, word_none none, word_none (run.trans none), true_and]
    exact h
  · simp only [keyword, word_of_run rfl none, word_of_run run none]
    split
    · exact ⟨rfl, extends_of _ _ others⟩
    · exact ⟨rfl, h⟩

theorem Continues.orElse {α : Type} {matcher : Cursor → Bool × Cursor}
    {other : Cursor → Option α × Cursor} (continues : Continues matcher) (value : α)
    (others : Continues other) : Continues fun c =>
      match matcher c with
      | (true, d) => (some value, d)
      | (false, d) => other d := by
  intro tail c c' parting h
  obtain ⟨same, further⟩ := continues parting h
  rcases hm : matcher c with ⟨found, d⟩
  rcases hm' : matcher c' with ⟨found', d'⟩
  rw [hm, hm'] at same further
  obtain rfl : found' = found := same
  cases found' with
  | true => simpa only [hm, hm', true_and] using further
  | false => simpa only [hm, hm'] using others parting further

theorem none_continues {α : Type} : Continues fun c => ((none : Option α), c) :=
  fun _ _ _ _ h => ⟨rfl, h⟩

theorem logical_continues (operator : Operator) (expected : Text) :
    Continues (logical operator expected) :=
  (keyword_continues expected).orElse operator none_continues

theorem eitherSign_continues {first second : Char × Operator}
    (h : first.1 ∈ ['+', '-', '*', '/', '(', ')'])
    (h' : second.1 ∈ ['+', '-', '*', '/', '(', ')']) : Continues (eitherSign first second) :=
  (literal_continues (plain_of_sign h)).orElse first.2
    ((literal_continues (plain_of_sign h')).orElse second.2 none_continues)

end Cursor

namespace Eval

variable {α β : Type} {context : Context} {r : Reading} {tail : Text}

inductive Kept (tail : Text) :
    EStateM.Result Cause Reading α → EStateM.Result Cause Reading α → Prop
  | ok (a : α) {c c' : Cursor} (g : Generator) (room : Nat) (extends_ : c.Extends tail c') :
      Kept tail (.ok a ⟨c, g, room⟩) (.ok a ⟨c', g, room⟩)
  | error (cause cause' : Cause) (s s' : Reading) : Kept tail (.error cause s) (.error cause' s')

namespace Kept

variable {x y : EStateM.Result Cause Reading α} {s : Reading}

theorem of_ok {a : α} (h : Kept tail (.ok a s) y) :
    ∃ c', y = .ok a ⟨c', s.generator, s.room⟩ ∧ s.cursor.Extends tail c' := by
  cases h with
  | ok a g room extends_ => exact ⟨_, rfl, extends_⟩

theorem of_error {cause : Cause}
    (h : Kept tail (.error cause s : EStateM.Result Cause Reading α) y) :
    ∃ cause' s', y = .error cause' s' := by
  cases h with
  | error cause cause' s s' => exact ⟨cause', s', rfl⟩

end Kept

/-- From a reading on, the evaluation is kept in every longer line; or it fails at the end of its
own line, where it would take a comma as one between the arguments of a call. Then it fails as well
where nothing is behind the comma. -/
inductive ContinuesAt (e : Eval α) (context : Context) (r : Reading) : Prop
  | kept (always : ∀ ⦃tail c'⦄, Parting tail → r.cursor.Extends tail c' →
      Kept tail (e context r) (e context ⟨c', r.generator, r.room⟩))
  | cut {cause : Cause} {s : Reading} (fails : e context r = .error cause s)
      (parted : ∀ ⦃tail c'⦄, Parting tail → tail.head? ≠ some ',' → r.cursor.Extends tail c' →
        Kept tail (e context r) (e context ⟨c', r.generator, r.room⟩))
      (taken : ∀ ⦃tail c'⦄, r.cursor.Extends (',' :: tail) c' →
        (e.stop context ⟨c', r.generator, r.room⟩).cursor.rest.length ≤ tail.length)
      (ended : ∀ ⦃tail c'⦄, (∀ b ∈ tail, isBlank b = true) → r.cursor.Extends (',' :: tail) c' →
        ∃ cause s, e context ⟨c', r.generator, r.room⟩ = .error cause s)

/-- The evaluation moves forward, and it does the same in a longer line. -/
structure Continues (e : Eval α) : Prop where
  advances : e.Advances
  within : ∀ context r, e.ContinuesAt context r

theorem stop_bind {e : Eval α} {f : α → Eval β} (advances : ∀ a, (f a).Advances) :
    (e.stop context r).Leads ((e >>= f).stop context r) := by
  cases h : e context r with
  | ok a s =>
    have first : e.stop context r = s := by simp only [stop, h]
    have both : (e >>= f).stop context r = (f a).stop context s := by
      simp only [stop, bind_of_ok h]
    rw [first, both]
    exact advances a context s
  | error cause s =>
    have first : e.stop context r = s := by simp only [stop, h]
    have both : (e >>= f).stop context r = s := by simp only [stop, bind_of_error h]
    rw [first, both]
    exact .refl s

theorem ContinuesAt.bind {e : Eval α} {f : α → Eval β} (he : e.ContinuesAt context r)
    (advances : ∀ a, (f a).Advances)
    (hf : ∀ a s, e context r = .ok a s → (f a).ContinuesAt context s) :
    (e >>= f).ContinuesAt context r := by
  cases he with
  | kept always =>
    cases he : e context r with
    | error cause s =>
      refine .kept fun tail c' parting extends_ => ?_
      obtain ⟨cause', s', he'⟩ := (he ▸ always parting extends_).of_error
      rw [bind_of_error he, bind_of_error he']
      exact .error cause cause' s s'
    | ok a s =>
      have first : ∀ ⦃tail c'⦄, Parting tail → r.cursor.Extends tail c' → ∃ d',
          e context ⟨c', r.generator, r.room⟩ = .ok a ⟨d', s.generator, s.room⟩ ∧
            s.cursor.Extends tail d' :=
        fun tail c' parting extends_ => (he ▸ always parting extends_).of_ok
      rcases hf a s he with others | ⟨fails, parted, taken, ended⟩
      · refine .kept fun tail c' parting extends_ => ?_
        obtain ⟨d', he', further⟩ := first parting extends_
        rw [bind_of_ok he, bind_of_ok he']
        exact others parting further
      · apply ContinuesAt.cut ((bind_of_ok he f).trans fails)
        · intro tail c' parting other extends_
          obtain ⟨d', he', further⟩ := first parting extends_
          rw [bind_of_ok he, bind_of_ok he']
          exact parted parting other further
        · intro tail c' extends_
          obtain ⟨d', he', further⟩ := first (.comma tail) extends_
          simpa only [stop, bind_of_ok he'] using taken further
        · intro tail c' blank extends_
          obtain ⟨d', he', further⟩ := first (.comma tail) extends_
          rw [bind_of_ok he']
          exact ended blank further
  | cut fails parted taken ended =>
    apply ContinuesAt.cut (bind_of_error fails f)
    · intro tail c' parting other extends_
      obtain ⟨cause', s', fails'⟩ := (fails ▸ parted parting other extends_).of_error
      rw [bind_of_error fails, bind_of_error fails']
      exact .error _ cause' _ s'
    · intro tail c' extends_
      exact (stop_bind advances).cursor.length_le.trans (taken extends_)
    · intro tail c' blank extends_
      obtain ⟨cause', s', fails'⟩ := ended blank extends_
      exact ⟨cause', s', bind_of_error fails' f⟩

theorem ContinuesAt.scan {matcher : Cursor → α × Cursor}
    (continues : ∀ ⦃tail c'⦄, Parting tail → r.cursor.Extends tail c' →
      (matcher c').1 = (matcher r.cursor).1 ∧ (matcher r.cursor).2.Extends tail (matcher c').2) :
    (scan matcher).ContinuesAt context r := by
  refine .kept fun tail c' parting extends_ => ?_
  obtain ⟨same, further⟩ := continues parting extends_
  unfold Eval.scan
  dsimp only
  rw [same]
  exact .ok _ r.generator r.room further

namespace Continues

variable {e : Eval α} {f : α → Eval β}

theorem bind (he : e.Continues) (hf : ∀ a, (f a).Continues) : (e >>= f).Continues where
  advances := he.advances.bind fun a => (hf a).advances
  within context r := (he.within context r).bind (fun a => (hf a).advances) fun a s _ =>
    (hf a).within context s

theorem pure (a : α) : (pure a : Eval α).Continues :=
  ⟨.pure a, fun _ r => .kept fun _ _ _ extends_ => .ok a r.generator r.room extends_⟩

theorem throw (cause : Cause) : (throw cause : Eval α).Continues :=
  ⟨.throw cause, fun _ _ => .kept fun _ _ _ _ => .error cause cause _ _⟩

theorem ite {p : Prop} [Decidable p] {e' : Eval α} (he : e.Continues) (he' : e'.Continues) :
    (if p then e else e').Continues := by
  split
  · exact he
  · exact he'

theorem scan {matcher : Cursor → α × Cursor} (reaches : ∀ c : Cursor, c.Reaches (matcher c).2)
    (continues : Cursor.Continues matcher) : (scan matcher).Continues :=
  ⟨scan_advances reaches, fun _ _ => .scan fun _ _ parting extends_ => continues parting extends_⟩

theorem of_ok (he : e.Continues) {a : α} {s : Reading} {c' : Cursor} (h : e context r = .ok a s)
    (parting : Parting tail) (extends_ : r.cursor.Extends tail c') :
    ∃ d', e context ⟨c', r.generator, r.room⟩ = .ok a ⟨d', s.generator, s.room⟩ ∧
      s.cursor.Extends tail d' := by
  rcases he.within context r with always | ⟨fails, -, -⟩
  · exact (h ▸ always parting extends_).of_ok
  · cases h.symm.trans fails

/-- A failure is one in every longer line where a comma is not taken, or is taken for nothing. -/
theorem of_error (he : e.Continues) {cause : Cause} {s : Reading} {c' : Cursor}
    (h : e context r = .error cause s) (parting : Parting tail)
    (extends_ : r.cursor.Extends tail c')
    (comma : ∀ rest, tail = ',' :: rest → (∀ b ∈ rest, isBlank b = true) ∨
      ∃ d, r.cursor.Extends [','] d ∧ (e.stop context ⟨d, r.generator, r.room⟩).cursor.rest ≠ []) :
    ∃ cause' s', e context ⟨c', r.generator, r.room⟩ = .error cause' s' := by
  rcases he.within context r with always | ⟨-, parted, taken, ended⟩
  · exact (h ▸ always parting extends_).of_error
  · by_cases head : tail.head? = some ','
    · obtain ⟨rest, rfl⟩ := List.head?_eq_some_iff.mp head
      rcases comma rest rfl with blank | ⟨d, there, left⟩
      · exact ended blank extends_
      · exact absurd (List.eq_nil_of_length_eq_zero (Nat.le_zero.mp (taken there))) left
    · exact (h ▸ parted parting head extends_).of_error

end Continues

section Steps

theorem failNear_continues (cause : Text → Cause) : (failNear cause : Eval α).Continues :=
  ⟨failNear_advances cause, fun _ _ => .kept fun _ _ _ _ => .error _ _ _ _⟩

theorem require_continues (found : Bool) (cause : Text → Cause) :
    (require found cause).Continues :=
  .ite (.pure ()) (failNear_continues cause)

theorem valueOf?_continues (name : Text) : (valueOf? name).Continues :=
  ⟨valueOf?_advances name, fun _ r => .kept fun _ _ _ extends_ => .ok _ r.generator r.room extends_⟩

theorem ofExcept_continues (x : Except Cause α) : (ofExcept x).Continues := by
  cases x with
  | ok a => exact .pure a
  | error cause => exact .throw cause

theorem call_continues (b : Builtin) (arguments : List Number) : (call b arguments).Continues := by
  refine ⟨call_advances b arguments, fun context r => .kept fun tail c' parting extends_ => ?_⟩
  unfold call
  dsimp only
  split
  · exact .ok _ _ _ extends_
  · exact .error _ _ _ _

/-- A failure on every line is one in a longer line. -/
theorem fails_continues {e : Eval α} (advances : e.Advances)
    (fails : ∀ context r, ∃ cause s, e context r = .error cause s) : e.Continues := by
  refine ⟨advances, fun context r => .kept fun tail c' _ _ => ?_⟩
  obtain ⟨cause, s, failed⟩ := fails context r
  obtain ⟨cause', s', failed'⟩ := fails context ⟨c', r.generator, r.room⟩
  rw [failed, failed']
  exact .error cause cause' s s'

theorem byRoom_continues {e : Nat → Eval α} (continues : ∀ room, (e room).Continues) :
    (byRoom e).Continues :=
  { advances := byRoom_advances fun room => (continues room).advances
    within := fun context r => by
      rcases (continues r.room).within context r with always | ⟨fails, parted, taken, ended⟩
      · exact .kept always
      · exact .cut fails parted taken ended }

theorem literal_continues {sign : Char} (h : sign ∈ ['+', '-', '*', '/', '(', ')']) :
    (literal [sign]).Continues :=
  .scan (fun c => c.literal_reaches [sign]) (Cursor.literal_continues (Cursor.plain_of_sign h))

end Steps

section Heads

variable (context : Context) (g : Generator) (room : Nat) {c : Cursor}
  (other : ∀ first ∈ c.skipBlanks.rest.head?, first = Cursor.quote)

include other

theorem factor_of_head (nesting : Nesting) : factor nesting context ⟨c, g, room⟩ =
    .error (.expressionExpected c.skipBlanks.rest) ⟨c.skipBlanks, g, room⟩ := by
  have settled := c.skipBlanks_skipBlanks
  have differs {sign : Char} (h : sign ≠ Cursor.quote) :
      ∀ first ∈ c.skipBlanks.rest.head?, first ≠ sign :=
    fun first hf same => h (same ▸ other first hf)
  have sign : sign context ⟨c, g, room⟩ = .ok false ⟨c.skipBlanks, g, room⟩ :=
    sign_of_head fun first hf => ⟨differs (by decide) first hf, differs (by decide) first hf⟩
  have number : c.skipBlanks.number = (none, c.skipBlanks) := by
    have none : c.skipBlanks.rest.takeWhile isDigit = [] := takeWhile_eq_nil fun first hf => by
      rw [other first hf]
      decide +kernel
    simp only [Cursor.number, settled, none]
  have identifier : c.skipBlanks.identifier = (none, c.skipBlanks) := by
    have none : c.skipBlanks.rest.head?.any isLetter = false := by
      rw [Option.any_eq_false]
      intro first hf
      rw [other first hf]
      decide +kernel
    simp only [Cursor.identifier, settled, none, Bool.false_eq_true, if_false]
  have parenthesis : c.skipBlanks.literal ['('] = (false, c.skipBlanks) := by
    rw [Cursor.literal_of_head (settled.symm ▸ differs (by decide)), settled]
  exact (bind_of_ok sign _).trans <| (bind_of_ok (scan_of_eq number) _).trans <|
    (bind_of_ok (scan_of_eq identifier) _).trans <|
      (bind_of_ok (scan_of_eq parenthesis) _).trans rfl

theorem disjunction_of_head (nesting : Nesting) :
    ∃ cause s, disjunction nesting context ⟨c, g, room⟩ = .error cause s := by
  have missing : c.keyword ['n', 'o', 't'] = (false, c) := by
    have none : c.skipBlanks.rest.takeWhile isLetter = [] := takeWhile_eq_nil fun first hf => by
      rw [other first hf]
      decide +kernel
    simp only [Cursor.keyword, Cursor.word_none none]
  have comparison : comparison nesting context ⟨c, g, room⟩ = _ :=
    bind_of_error
      (bind_of_error (bind_of_error (factor_of_head context g room other nesting) _) _) _
  have negation : negation nesting context ⟨c, g, room⟩ = _ :=
    (bind_of_ok (scan_of_eq missing) _).trans comparison
  exact ⟨_, _, bind_of_error (bind_of_error negation _) _⟩

theorem expressionWithin_of_head (calls : Nat) :
    ∃ cause s, expressionWithin calls context ⟨c, g, room⟩ = .error cause s :=
  expressionWithin_induction (P := fun e => ∃ cause s, e context ⟨c, g, room⟩ = .error cause s)
    ⟨_, _, rfl⟩ (exists_breakOff_eq _ _ _) (fun _ _ => exists_breakOff_eq _ _ _)
    (fun nesting _ => disjunction_of_head context g room other nesting) calls

theorem expressionBelow_of_head (calls : Nat) :
    ∃ cause s, expressionBelow calls context ⟨c, g, room⟩ = .error cause s :=
  expressionWithin_of_head context g room other _

end Heads

def Demanding (e : Eval α) : Prop :=
  ∀ context g room (c : Cursor), c.skipBlanks.rest = [] →
    ∃ cause s, e context ⟨c, g, room⟩ = .error cause s

theorem disjunction_demanding (nesting : Nesting) : (disjunction nesting).Demanding := by
  intro context g room c ended
  refine disjunction_of_head context g room ?_ nesting
  rw [ended]
  rintro _ ⟨⟩

theorem fails_demanding {e : Eval α}
    (fails : ∀ context r, ∃ cause s, e context r = .error cause s) :
    e.Demanding :=
  fun context g room c _ => fails context ⟨c, g, room⟩

section Chains

variable {operator : Cursor → Option Operator × Cursor} {operand : Eval Number}
  (consumes : Cursor.Consumes operator) (found : Cursor.Continues operator)
  (continues : operand.Continues)

include consumes found continues

theorem extend?_continues (left : Number) : (extend? operator operand left).Continues := by
  refine Continues.bind (.scan consumes.reaches found) fun operation => ?_
  cases operation with
  | none => exact .pure none
  | some o =>
    exact continues.bind fun right => (ofExcept_continues _).bind fun value => .pure (some value)

theorem chainAll_continues (left : Number) : (chainAll operator operand left).Continues := by
  have forward (left : Number) : (chainAll operator operand left).Advances :=
    remaining_advances.bind fun count =>
      chainFrom_advances consumes.reaches continues.advances count left
  refine ⟨forward left, fun context r => ?_⟩
  -- Every round passes at least an operator.
  induction length : r.cursor.rest.length using Nat.strong_induction_on generalizing left r with
  | _ length ih =>
    rw [chainAll_eq consumes continues.advances]
    refine ((extend?_continues consumes found continues left).within context r).bind
      (fun value => ?_) fun value s he => ?_
    · cases value with
      | none => exact .pure left
      | some value => exact forward value
    · cases value with
      | none => exact (Continues.pure left).within context s
      | some value =>
        have shorter := extend?_shortens consumes continues.advances he
        exact ih _ (length ▸ shorter) value s rfl

theorem chain_continues : (chain operator operand).Continues := by
  rw [chain_eq consumes continues.advances]
  exact continues.bind (chainAll_continues consumes found continues)

end Chains

section Lists

variable {nested : Eval Number}

theorem closeParenthesis_continues : closeParenthesis.Continues :=
  (literal_continues (by decide)).bind fun found => require_continues found _

theorem sign_continues : sign.Continues :=
  (literal_continues (by decide)).bind fun _ => .ite (.pure true)
    (((literal_continues (by decide)).bind fun _ => .pure _).bind fun _ => .pure false)

theorem closeParenthesis_of_head {c : Cursor} {g : Generator} {room : Nat}
    (differs : ∀ first ∈ c.skipBlanks.rest.head?, first ≠ ')') :
    closeParenthesis context ⟨c, g, room⟩ =
      .error (.missingParenthesis c.skipBlanks.rest) ⟨c.skipBlanks, g, room⟩ := by
  have missing : literal [')'] context ⟨c, g, room⟩ = .ok false ⟨c.skipBlanks, g, room⟩ :=
    scan_of_eq (Cursor.literal_of_head differs)
  exact bind_of_ok missing _

/-- At the end of its own line an open call fails; in a longer line a comma goes on with it. -/
theorem open_continues {γ : Type} {next : Eval γ} (advances : next.Advances)
    (demanding : next.Demanding) (value : γ) (ended : r.cursor.skipBlanks.rest = []) :
    ContinuesAt (do
      if ← literal [','] then next
      else
        closeParenthesis
        return value) context r := by
  have fails (c : Cursor) (other : ∀ first ∈ c.skipBlanks.rest.head?, first ≠ ',' ∧ first ≠ ')') :
      ∃ cause s, (do
        if ← literal [','] then next
        else
          closeParenthesis
          return value) context ⟨c, r.generator, r.room⟩ = .error cause s := by
    have missing : literal [','] context ⟨c, r.generator, r.room⟩ =
        .ok false ⟨c.skipBlanks, r.generator, r.room⟩ :=
      scan_of_eq (Cursor.literal_of_head fun first hf => (other first hf).1)
    refine ⟨_, _, (bind_of_ok missing _).trans (bind_of_error (closeParenthesis_of_head ?_) _)⟩
    rw [c.skipBlanks_skipBlanks]
    exact fun first hf => (other first hf).2
  obtain ⟨cause, s, alone⟩ := fails r.cursor (by rw [ended]; nofun)
  have found {tail : Text} {c' : Cursor} (extends_ : r.cursor.Extends (',' :: tail) c') :
      ∃ d, d.rest = tail ∧ literal [','] context ⟨c', r.generator, r.room⟩ =
        .ok true ⟨d, r.generator, r.room⟩ := by
    have ahead : c'.skipBlanks.rest = ',' :: tail := extends_.at_end ended
    exact ⟨c'.skipBlanks.advance 1, by simp [Cursor.advance, ahead],
      scan_of_eq (by simp [Cursor.literal, ahead])⟩
  apply ContinuesAt.cut alone
  · intro tail c' parting other extends_
    obtain ⟨cause', s', parted⟩ := fails c' (by
      rw [extends_.at_end ended]
      intro first hf
      obtain rfl | rfl := parting first hf
      · exact absurd hf other
      · decide)
    rw [alone, parted]
    exact .error cause cause' s s'
  · intro tail c' extends_
    obtain ⟨d, rfl, comma⟩ := found extends_
    have le := (advances context ⟨d, r.generator, r.room⟩).cursor.length_le
    simpa only [stop, bind_of_ok comma, if_true] using le
  · intro tail c' blank extends_
    obtain ⟨d, rfl, comma⟩ := found extends_
    have none : d.skipBlanks.rest = [] := List.dropWhile_eq_nil_iff.mpr blank
    obtain ⟨cause', s', fails'⟩ := demanding context r.generator r.room d none
    exact ⟨cause', s', (bind_of_ok comma _).trans fails'⟩

def closed {γ : Type} (nested : Eval Number) (f : List Number → γ) : Eval γ := do
  let values ← separatedBy [','] nested
  closeParenthesis
  return f values

variable (continues : nested.Continues)

include continues

theorem closed_eq {γ : Type} (f : List Number → γ) : closed nested f = (do
    let first ← nested
    if ← literal [','] then closed nested fun values => f (first :: values)
    else
      closeParenthesis
      return f [first]) := by
  rw [closed, separatedBy_eq (List.cons_ne_nil _ _) continues.advances]
  simp only [bind_assoc]
  congr 1
  funext first
  congr 1
  funext found
  cases found <;> simp [closed]

theorem closed_advances {γ : Type} (f : List Number → γ) : (closed nested f).Advances :=
  (separatedBy_advances _ continues.advances).bind fun values =>
    closeParenthesis_advances.bind fun _ => .pure (f values)

variable (demanding : nested.Demanding)

include demanding

theorem closed_demanding {γ : Type} (f : List Number → γ) : (closed nested f).Demanding := by
  intro context g room c ended
  obtain ⟨cause, s, fails⟩ := demanding context g room c ended
  rw [closed_eq continues]
  exact ⟨cause, s, bind_of_error fails _⟩

theorem closed_continues {γ : Type} (f : List Number → γ) : (closed nested f).Continues := by
  refine ⟨closed_advances continues f, fun context r => ?_⟩
  induction length : r.cursor.rest.length using Nat.strong_induction_on generalizing f r with
  | _ length ih =>
    rw [closed_eq continues]
    have rest (first : Number) (found : Bool) : (if found = true then
        closed nested fun values => f (first :: values) else (do
          closeParenthesis
          return f [first])).Advances :=
      .ite (closed_advances continues _) (closeParenthesis_advances.bind fun _ => .pure _)
    refine (continues.within context r).bind (fun first => (literal_advances _).bind (rest first))
      fun first s he => ?_
    have le := (continues.advances.of_ok he).cursor.length_le
    by_cases ended : s.cursor.skipBlanks.rest = []
    · exact open_continues (closed_advances continues _) (closed_demanding continues demanding _) _
        ended
    · have comma : (literal [',']).ContinuesAt context s :=
        .scan fun _ _ parting extends_ => extends_.sign parting ended
      refine comma.bind (rest first) fun found t hl => ?_
      cases found with
      | false => exact (closeParenthesis_continues.bind fun _ => .pure _).within context t
      | true =>
        have shorter := literal_shortens (List.cons_ne_nil _ _) hl
        exact ih _ (by omega) _ t rfl

end Lists

section Levels

variable {nesting : Nesting}

theorem arguments_continues (continues : nesting.argument.Continues)
    (demanding : nesting.argument.Demanding) : (arguments nesting).Continues := by
  refine (literal_continues (by decide)).bind fun _ => .ite ?_ (.pure [])
  refine (literal_continues (by decide)).bind fun _ => .ite (.pure []) ?_
  exact closed_continues continues demanding id

theorem named_continues (continues : nesting.argument.Continues)
    (demanding : nesting.argument.Demanding) (negative : Bool) (name : Text) :
    (named nesting negative name).Continues := by
  unfold named
  split
  · exact .ite ((arguments_continues continues demanding).bind fun values =>
      call_continues _ values) (.throw _)
  · refine (valueOf?_continues name).bind fun value => ?_
    cases value with
    | none => exact .throw _
    | some value => exact .pure _

variable (continues : nesting.All Continues) (demanding : nesting.argument.Demanding)

include continues demanding

theorem factor_continues : (factor nesting).Continues := by
  refine sign_continues.bind fun negative =>
    Continues.bind (.scan Cursor.number_reaches Cursor.number_continues) fun token => ?_
  cases token with
  | some token => exact .pure _
  | none =>
    refine Continues.bind (.scan Cursor.identifier_reaches Cursor.identifier_continues)
      fun name => ?_
    cases name with
    | some name => exact named_continues continues.argument demanding negative name
    | none =>
      refine (literal_continues (by decide)).bind fun _ => .ite ?_ (failNear_continues _)
      exact continues.group.bind fun value => closeParenthesis_continues.bind fun _ => .pure _

theorem arithmetic_continues : (arithmetic nesting).Continues :=
  chain_continues (Cursor.eitherSign_consumes _ _)
    (Cursor.eitherSign_continues (by decide) (by decide))
    (chain_continues (Cursor.eitherSign_consumes _ _)
      (Cursor.eitherSign_continues (by decide) (by decide))
      (factor_continues continues demanding))

theorem comparison_continues : (comparison nesting).Continues := by
  have sum := arithmetic_continues continues demanding
  refine sum.bind fun left =>
    Continues.bind (.scan Cursor.relation_reaches Cursor.relation_continues) fun relation => ?_
  cases relation with
  | none => exact .pure left
  | some relation => exact sum.bind fun right => .pure _

theorem negation_continues : (negation nesting).Continues := by
  have inner := comparison_continues continues demanding
  exact Continues.bind (.scan (fun c => c.keyword_reaches _) (Cursor.keyword_continues _)) fun _ =>
    .ite (inner.bind fun _ => .pure _) inner

theorem disjunction_continues : (disjunction nesting).Continues :=
  chain_continues (Cursor.logical_consumes _ _) (Cursor.logical_continues _ _)
    (chain_continues (Cursor.logical_consumes _ _) (Cursor.logical_continues _ _)
      (negation_continues continues demanding))

end Levels

/-- What stands in parentheses demands a value, beside doing the same in a longer line. -/
theorem expressionWithin_continues (calls : Nat) : (expressionWithin calls).Continues := by
  let Inner (e : Eval Number) : Prop := e.Continues ∧ e.Demanding
  have broken {operand : Eval Unit} (advances : operand.Advances) : Inner (breakOff operand) :=
    ⟨fails_continues (breakOff_advances advances) (exists_breakOff_eq operand),
      fails_demanding (exists_breakOff_eq operand)⟩
  have inner : Inner (expressionWithin calls) := by
    refine expressionWithin_induction ?_ (broken (.pure _)) (fun nesting all => broken ?_)
      (fun nesting all => ⟨?_, disjunction_demanding nesting⟩) calls
    · exact ⟨.throw _, fails_demanding fun _ _ => ⟨_, _, rfl⟩⟩
    · exact (factor_advances ⟨all.group.1.advances, all.argument.1.advances⟩).bind fun _ =>
        .pure _
    · exact disjunction_continues ⟨all.group.1, all.argument.1⟩ all.argument.2
  exact inner.1

theorem expressionBelow_continues (calls : Nat) : (expressionBelow calls).Continues :=
  byRoom_continues fun _ => expressionWithin_continues _

end Eval

end NumberedBasic
