import NumberedBasic.Proofs.Cursor.Piece
import NumberedBasic.Proofs.Evaluation.Draws
import NumberedBasic.Proofs.Grammar.Enclosure

/-! # Ends of evaluations and nested statements

Every evaluation ends on its line, behind its start if it has a value, and has only drawn random
numbers for calls that it has passed. What it nests stands within parentheses, and a statement
behind a condition stands behind the start of the conditional one. So a line is all that bounds the
rounds of a level and the depth of what is nested in it.
-/

namespace NumberedBasic

open Text

namespace Execution

/-- From the first point to the second one an evaluation has led along the line. The machine is the
same, apart from random numbers drawn behind a name of their function. -/
structure Passed (line : Text) (s t : Execution) : Prop where
  isOn : t.cursor.IsOn line
  forward : s.cursor.column ≤ t.cursor.column
  draws : ∃ piece draws, s.cursor.Passes piece t.cursor ∧
    t.machine = { s.machine with generator := s.machine.generator.drawn draws } ∧
      (draws = 0 ∨ piece.Contains Builtin.rnd.name)

variable {line : Text} {s : Execution} {r : Reading}

theorem Passed.of_accounts (on : s.cursor.IsOn line) (h : s.reading.Accounts r) :
    Passed line s (s.moved r) := by
  obtain ⟨piece, draws, passes, drawn, named⟩ := h
  have reaches : s.cursor.Reaches r.cursor := ⟨piece, passes⟩
  refine ⟨on.of_reaches reaches, reaches.column_le, piece, draws, passes, ?_, named⟩
  rw [moved, drawn]
  rfl

end Execution

namespace Eval

variable {α : Type}

/-- The evaluation has a value, of which the property holds, or it fails. In both cases it has
passed a piece of the line. -/
def Ends (e : Eval α) (line : Text) (s : Execution) (property : α → Execution → Prop) : Prop :=
  (∃ a t, Exec.evaluate e s = .ok a t ∧ s.Passed line t ∧ property a t) ∨
    ∃ cause t, Exec.evaluate e s = .error cause t ∧ s.Passed line t

variable {line : Text} {s : Execution}

theorem Accountable.ends {e : Eval α} (accountable : e.Accountable) (on : s.cursor.IsOn line)
    {property : α → Execution → Prop}
    (holds : ∀ a r, e s.context s.reading = .ok a r → property a (s.moved r)) :
    e.Ends line s property := by
  cases h : e s.context s.reading with
  | ok a r =>
    exact .inl ⟨a, s.moved r, Exec.evaluate_of_ok h, .of_accounts on (accountable.of_ok h),
      holds a r h⟩
  | error cause r =>
    exact .inr ⟨cause, s.moved r, Exec.evaluate_of_error h,
      .of_accounts on (accountable.of_error h)⟩

theorem Sound.column_lt {n : Nonterminal} {e : Eval n.Value} {ends : Parse n → Text → Prop}
    (sound : Sound e ends) (hn : n ≠ .arguments) {context : Context} {r r' : Reading}
    {a : n.Value} (h : e context r = .ok a r') : r.cursor.column < r'.cursor.column := by
  obtain ⟨t, ⟨⟨text, passes, spaced⟩, -, -⟩, -⟩ := sound h
  obtain ⟨word, hw, nonempty⟩ := t.exists_word hn
  have longer := spaced.length_le hw
  have column := passes.2
  omega

theorem expressionWithin_ends (calls : Nat) (on : s.cursor.IsOn line) :
    (expressionWithin calls).Ends line s fun _ t => s.cursor.column < t.cursor.column :=
  (expressionWithin_accountable calls).ends on fun _ _ h =>
    (expressionWithin_sound calls).column_lt nofun h

theorem read_ends (calls : Nat) (p : Phrase) (on : s.cursor.IsOn line) :
    (p.read (nestingWithin calls)).Ends line s fun _ t => s.cursor.column < t.cursor.column := by
  have advances := nestingWithin_all expressionWithin_advances calls
  have accountable := nestingWithin_all expressionWithin_accountable calls
  obtain ⟨ends, sound⟩ := read_sound (nestingWithin_sound calls) p
  exact (read_accountable advances accountable p).ends on fun _ _ h => sound.column_lt nofun h

theorem arguments_ends (calls : Nat) (on : s.cursor.IsOn line) :
    (arguments (nestingWithin calls)).Ends line s fun values t =>
      if (s.cursor.literal ['(']).1 then s.cursor.column < t.cursor.column
      else values = [] ∧ t.cursor = s.cursor.skipBlanks := by
  have accountable := (nestingWithin_all expressionWithin_accountable calls).argument
  refine (arguments_accountable accountable).ends on fun values r h => ?_
  have advances := (nestingWithin_all expressionWithin_advances calls).argument
  obtain ⟨opened, t, read, h⟩ := bind_eq_ok_iff.mp h
  obtain ⟨read, -⟩ := scan_eq_ok_iff.mp read
  have found : (s.cursor.literal ['(']).1 = opened := congrArg Prod.fst read
  have behind : (s.cursor.literal ['(']).2 = t.cursor := congrArg Prod.snd read
  cases opened with
  | false =>
    cases h
    rw [if_neg (by simp [found])]
    exact ⟨rfl, behind.symm.trans (Cursor.literal_not_found found)⟩
  | true =>
    rw [if_pos found]
    have inside : (do
        if ← literal [')'] then return []
        let values ← separatedBy [','] (nestingWithin calls).argument
        closeParenthesis
        return values : Eval (List Number)).Advances :=
      (literal_advances _).bind fun closed => .ite (.pure []) <|
        (separatedBy_advances _ advances).bind fun values =>
          closeParenthesis_advances.bind fun _ => .pure values
    have shorter := Cursor.literal_shortens (c := s.cursor) (by simp) found
    rw [behind] at shorter
    have first : s.cursor.column < t.cursor.column :=
      (behind ▸ s.cursor.literal_reaches ['(']).column_lt shorter
    exact Nat.lt_of_lt_of_le first (inside.of_ok h).cursor.column_le

end Eval

namespace Exec

variable {α β : Type} {s : Execution}

/-- Two executions agree at a point if their parts agree where they get to. -/
theorem bind_congr_at {x y : Exec α} {f f' : α → Exec β} (hx : x s = y s)
    (hf : ∀ a t, x s = .ok a t → f a t = f' a t) : (x >>= f) s = (y >>= f') s := by
  cases h : x s with
  | ok a t => rw [bind_of_ok h, bind_of_ok (hx.symm.trans h), hf a t h]
  | error cause t => rw [bind_of_error h, bind_of_error (hx.symm.trans h)]

end Exec

namespace Statement

variable {line : Text} {s t : Execution}

/-- The second point is that of the statement nested in the one at the first point: what the outer
one does depends on what the nested one does there. -/
def Begins (nested : Exec Unit) (s t : Execution) : Prop :=
  ∃ other : Exec Unit, (∀ u, u ≠ t → other u = nested u) ∧
    (do body other (← keyword) : Exec Unit) s ≠ (do body nested (← keyword) : Exec Unit) s

def Admits (s t : Execution) : Prop :=
  ∃ u, Exec.evaluate keyword s = .ok .condition u ∧ Exec.evaluate holds u = .ok true t

theorem body_congr {nested other : Exec Unit}
    (agree : ∀ t, Admits s t → other t = nested t) :
    (do body other (← keyword) : Exec Unit) s = (do body nested (← keyword) : Exec Unit) s := by
  refine Exec.bind_congr_at rfl fun k u read => ?_
  by_cases condition : k = .condition
  · subst condition
    simp only [body, conditional_eq]
    refine Exec.bind_congr_at rfl fun holding t held => ?_
    cases holding with
    | false => rfl
    | true => exact agree t ⟨u, read, held⟩
  · rw [body_of_ne_condition condition, body_of_ne_condition condition]

/-- The statement behind a condition that holds is the only one that is nested. -/
theorem begins_iff (nested : Exec Unit) : Begins nested s t ↔ Admits s t := by
  constructor
  · rintro ⟨other, same, differs⟩
    by_contra elsewhere
    refine differs (body_congr fun u admits => same u ?_)
    rintro rfl
    exact elsewhere admits
  · rintro ⟨u, read, held⟩
    classical
    have reached (x : Exec Unit) : (do body x (← keyword) : Exec Unit) s = x t := by
      refine (Exec.bind_of_ok read _).trans ?_
      simp only [body, conditional_eq]
      exact Exec.bind_of_ok held _
    obtain ⟨cause, differs⟩ := Eval.exists_other_error (nested t) t
    refine ⟨fun u => if u = t then .error cause u else nested u,
      fun u elsewhere => if_neg elsewhere, fun same => differs ?_⟩
    exact (reached nested).symm.trans (same.symm.trans ((reached _).trans (if_pos rfl)))

theorem keyword_column_lt {context : Context} {r r' : Reading} {k : Keyword}
    (h : keyword context r = .ok k r') : r.cursor.column < r'.cursor.column := by
  obtain ⟨_, s, skipped, h⟩ := Eval.bind_eq_ok_iff.mp h
  obtain ⟨word, t, read, h⟩ := Eval.bind_eq_ok_iff.mp h
  have before : r.cursor.Reaches s.cursor := (Eval.skipBlanks_advances.of_ok skipped).cursor
  obtain ⟨read, -⟩ := Eval.scan_eq_ok_iff.mp read
  cases word with
  | none => cases h
  | some word =>
    have reaches : s.cursor.Reaches t.cursor := by simpa [read] using s.cursor.word_reaches
    have shorter := Cursor.word_shortens (congrArg Prod.fst read)
    rw [read] at shorter
    have passed := reaches.column_lt shorter
    have start := before.column_le
    cases found : Keyword.ofWord? word with
    | none =>
      simp only [found] at h
      cases h
    | some k' =>
      simp only [found] at h
      cases h
      omega

theorem keyword_accountable : keyword.Accountable := by
  refine (Eval.Accountable.scan Cursor.skipBlanks_reaches).bind fun _ =>
    (Eval.Accountable.scan Cursor.word_reaches).bind fun word => ?_
  cases word with
  | none => exact Eval.failNear_accountable _
  | some word =>
    dsimp only
    split
    · exact .pure _
    · exact .throw _

theorem holds_accountable : holds.Accountable := by
  have condition : Eval.expression.Accountable :=
    Eval.byRoom_accountable fun _ => Eval.expressionWithin_accountable _
  exact condition.bind fun _ =>
    (Eval.Accountable.scan fun c => c.keyword_reaches _).bind fun found =>
      (Eval.require_accountable found _).bind fun _ =>
        Eval.descend_accountable.bind fun _ => .pure _

/-- A condition that holds has had the room of an expression, and takes some of it. -/
theorem holds_room {context : Context} {r r' : Reading} {holding : Bool}
    (h : holds context r = .ok holding r') : 13 ≤ r.room ∧ r'.room = r.room - 2 := by
  obtain ⟨value, s, evaluated, h⟩ := Eval.bind_eq_ok_iff.mp h
  obtain ⟨found, t, read, h⟩ := Eval.bind_eq_ok_iff.mp h
  obtain ⟨_, u, required, h⟩ := Eval.bind_eq_ok_iff.mp h
  obtain ⟨-, rfl⟩ := Eval.require_eq_ok_iff.mp required
  have kept : s.room = r.room := Eval.expressionBelow_room evaluated
  have still := (Eval.scan_eq_ok_iff.mp read).2.room
  cases h
  exact ⟨(Eval.expressionWithin_ok evaluated).1, by rw [still, kept]⟩

theorem keyword_room {context : Context} {r r' : Reading} {k : Keyword}
    (h : keyword context r = .ok k r') : r'.room = r.room := by
  obtain ⟨_, s, skipped, h⟩ := Eval.bind_eq_ok_iff.mp h
  obtain ⟨word, t, read, h⟩ := Eval.bind_eq_ok_iff.mp h
  have before := (Eval.scan_eq_ok_iff.mp skipped).2.room
  have behind := (Eval.scan_eq_ok_iff.mp read).2.room
  cases word with
  | none => cases h
  | some word =>
    cases found : Keyword.ofWord? word with
    | none => simp [found] at h
    | some k' =>
      simp only [found] at h
      cases h
      exact behind.trans before

namespace Admits

theorem passed (h : Admits s t) (on : s.cursor.IsOn line) :
    s.Passed line t ∧ s.cursor.column < t.cursor.column := by
  obtain ⟨u, read, held⟩ := h
  obtain ⟨r, first, rfl⟩ := Exec.evaluate_eq_ok_iff.mp read
  obtain ⟨r', second, rfl⟩ := Exec.evaluate_eq_ok_iff.mp held
  have accounts : s.reading.Accounts r' :=
    (keyword_accountable.of_ok first).trans (holds_accountable.of_ok second)
  have keyword_passed : s.cursor.column < r.cursor.column := keyword_column_lt first
  have forward : r.cursor.column ≤ r'.cursor.column :=
    (holds_advances.of_ok second).cursor.column_le
  exact ⟨.of_accounts on accounts, Nat.lt_of_lt_of_le keyword_passed forward⟩

theorem shortens (h : Admits s t) (on : s.cursor.IsOn line) :
    t.cursor.rest.length < s.cursor.rest.length := by
  obtain ⟨passed, later⟩ := h.passed on
  obtain ⟨piece, draws, ⟨rest, column⟩, -⟩ := passed.draws
  rw [rest, List.length_append]
  omega

theorem room_lt (h : Admits s t) : t.room < s.room := by
  obtain ⟨u, read, held⟩ := h
  obtain ⟨r, first, rfl⟩ := Exec.evaluate_eq_ok_iff.mp read
  obtain ⟨r', second, rfl⟩ := Exec.evaluate_eq_ok_iff.mp held
  have kept : r.room = s.room := keyword_room first
  obtain ⟨enough, less⟩ : 13 ≤ r.room ∧ r'.room = r.room - 2 := holds_room second
  have moved : ((s.moved r).moved r').room = r'.room := rfl
  omega

end Admits

/-- A limit above the number of characters ahead or above the room does not matter. -/
theorem executeWithin_congr {limit limit' : Nat} (on : s.cursor.IsOn line)
    (h : min s.cursor.rest.length s.room < limit) (h' : min s.cursor.rest.length s.room < limit') :
    executeWithin limit s = executeWithin limit' s := by
  induction limit generalizing limit' s with
  | zero => omega
  | succ limit ih =>
    obtain ⟨limit', rfl⟩ : ∃ n, limit' = n + 1 := ⟨limit' - 1, by omega⟩
    refine body_congr fun t admits => ?_
    have shorter := admits.shortens on
    have less := admits.room_lt
    exact ih (admits.passed on).1.isOn (by omega) (by omega)

end Statement

namespace Eval

open Statement

def Nests (calls : Nat) (context : Context) (r s : Reading) : Prop :=
  Begins arguments (nestingWithin calls) context r s ∨
    ∃ p : Phrase, Begins (fun nesting => p.read nesting) (nestingWithin calls) context r s

theorem Nests.opens {calls : Nat} {context : Context} {r s : Reading}
    (h : Nests calls context r s) : r.cursor.Opens s.cursor := by
  rcases h with begins | ⟨p, begins⟩
  · exact begins.opens fun _ _ =>
      arguments_coincide (nestingWithin_sound calls).argument.2.balances
  · exact begins.opens fun _ => read_nestingWithin_coincide calls p

/-- Wherever evaluation starts on a line, each level ends on it, behind its start if it has a value,
and has changed nothing but random numbers, for calls that it has passed. Nested evaluations begin
within parentheses, and a nested statement begins behind the start of the outer one. So neither the
room, if it is enough for the parentheses ahead, nor the limits on the rounds of a level and on the
depth of conditions matter, if these exceed what is ahead. -/
theorem levels_end (machine : Machine) (passed ahead : Text) (room calls : Nat) :
    let s : Execution := ⟨machine, ⟨passed.length, ahead⟩, room⟩
    let line := passed ++ ahead
    let nesting := nestingWithin calls
    (expressionWithin calls).Ends line s (fun _ t => s.cursor.column < t.cursor.column) ∧
    (∀ p : Phrase, (p.read nesting).Ends line s fun _ t => s.cursor.column < t.cursor.column) ∧
    ((arguments nesting).Ends line s fun values t =>
      if (s.cursor.literal ['(']).1 then s.cursor.column < t.cursor.column
      else values = [] ∧ t.cursor = s.cursor.skipBlanks) ∧
    (∀ r, Nests calls s.context s.reading r → s.cursor.Opens r.cursor ∧
      ∀ count, Nest s.context count r → count < ahead.count '(') ∧
    (∀ calls', 9 * ahead.count '(' + 13 ≤ calls → 9 * ahead.count '(' + 13 ≤ calls' →
      expressionWithin calls s.context s.reading = expressionWithin calls' s.context s.reading) ∧
    (∀ (k : Rank) (rounds : Nat) (left : Number), ahead.length ≤ rounds →
      chainFrom k.operator (k.operand.read nesting) rounds left s.context s.reading =
        chainAll k.operator (k.operand.read nesting) left s.context s.reading) ∧
    (∀ rounds, ahead.length ≤ rounds →
      further (literal [',']) nesting.argument rounds s.context s.reading =
        further (literal [',']) nesting.argument ahead.length s.context s.reading) ∧
    (∀ limit t, Statement.Begins (executeWithin limit) s t →
      s.Passed line t ∧ s.cursor.column < t.cursor.column) ∧
    ∀ limit, min ahead.length room < limit → executeWithin limit s = execute s := by
  intro s line nesting
  have on : s.cursor.IsOn line := by
    simp [s, line, Cursor.IsOn]
  have advances : nesting.All Advances := nestingWithin_all expressionWithin_advances calls
  refine ⟨expressionWithin_ends calls on, fun p => read_ends calls p on, arguments_ends calls on,
    fun r nests => ⟨nests.opens, fun count nest => ?_⟩,
    fun calls' h h' => expressionWithin_congr h h', fun k rounds left h => ?_, fun rounds h => ?_,
    fun limit t begins => ?_, fun limit h => executeWithin_congr on h ?_⟩
  · exact Nat.lt_of_le_of_lt nest.count_le nests.opens.count_lt
  · exact chainFrom_eq k.consumes (Phrase.read_advances advances _) h (Nat.le_refl _)
  · exact further_eq (by simp) advances.argument h (Nat.le_refl _)
  · exact ((begins_iff _).mp begins).passed on
  · exact Nat.lt_succ_of_le (Nat.min_le_right _ _)

end Eval

end NumberedBasic
