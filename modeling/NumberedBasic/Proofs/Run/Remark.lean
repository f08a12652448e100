import Mathlib.Data.List.Forall2
import NumberedBasic.Proofs.Run.Correspondence
import NumberedBasic.Proofs.Text.Line

/-! # Remarks

A remark that is added to a program does nothing. The run with it takes one more turn whenever
it comes to the remark, and all places behind the remark are one further on.
-/

namespace NumberedBasic

theorem Keyword.begins_trim (k : Keyword) (text : Text) : k.begins text.trim = k.begins text := by
  have word {c c' : Cursor}
      (same : c.rest.takeWhile Text.isLetter = c'.rest.takeWhile Text.isLetter) :
      c.word.1 = c'.word.1 := by
    unfold Cursor.word
    rw [same]
    split <;> rfl
  have blank (c : Char) (h : Text.isBlank c = true) : Text.isLetter c = false := by
    rw [Bool.eq_false_iff]
    intro letter
    cases (Text.not_isBlank_of_isNameChar (Text.isNameChar_of_isLetter letter)).symm.trans h
  have starts : text.trim.dropWhile Text.isBlank = text.trim := text.trimStart_trim
  refine congrArg (· == some k.spelling) (word ?_)
  change (text.trim.dropWhile Text.isBlank).takeWhile Text.isLetter = _
  rw [starts, Text.takeWhile_trim blank]
  rfl

namespace Frame

def unplaced : Frame Nat → Frame Unit
  | subroutine _ => subroutine ()
  | repetition _ => repetition ()
  | count step limit _ => count step limit ()

end Frame

section Tables

variable {n : Int} {text : Text}

theorem Table.exists_keys_place {entries : List (Int × Text)} (absent : entries.lookup n = none) :
    ∃ before after, entries.map (·.1) = before ++ after ∧
      (place n text entries).map (·.1) = before ++ n :: after := by
  fun_induction place n text entries with
  | case1 => exact ⟨[], [], rfl, rfl⟩
  | case2 first rest => exact ⟨[], first.1 :: rest.map (·.1), rfl, rfl⟩
  | case3 first rest hc =>
    have same : n = first.1 := Std.LawfulEqOrd.eq_of_compare hc
    rw [same, List.lookup_cons_self] at absent
    cases absent
  | case4 first rest hc ih =>
    have differ : n ≠ first.1 := by
      intro same
      simp [same, Std.ReflCmp.compare_self] at hc
    rw [lookup_cons_of_ne differ] at absent
    obtain ⟨before, after, keys, keys'⟩ := ih absent
    exact ⟨first.1 :: before, after, congrArg (first.1 :: ·) keys, congrArg (first.1 :: ·) keys'⟩

theorem Program.exists_lineNumbers_store {p : Program} (absent : p.get? n = none) (text : Text) :
    ∃ before after, p.lineNumbers = before ++ after ∧
      (p.store n text).lineNumbers = before ++ n :: after :=
  Table.exists_keys_place absent

/-- Positions for the same line, where the second table has one more line at the index. It may
be passed or still come. -/
def Shifted (index k k' : Nat) : Prop :=
  k ≤ index ∧ k' = k ∨ index ≤ k ∧ k' = k + 1

section Shifts

variable {before after : List Int} {k k' : Nat}

theorem Shifted.getElem?_eq (h : Shifted before.length k k') (other : k' ≠ before.length) :
    (before ++ after)[k]? = (before ++ n :: after)[k']? := by
  rcases h with ⟨low, rfl⟩ | ⟨high, rfl⟩
  · have within : k' < before.length := by omega
    rw [List.getElem?_append_left within, List.getElem?_append_left within]
  · rw [List.getElem?_append_right high, List.getElem?_append_right (Nat.le_add_right_of_le high),
      Nat.sub_add_comm high, List.getElem?_cons_succ]

theorem Shifted.rel_idxOf? {line : Int} (other : line ≠ n) :
    Option.Rel (Shifted before.length) ((before ++ after).idxOf? line)
      ((before ++ n :: after).idxOf? line) := by
  have passed : (n == line) = false := beq_false_of_ne other.symm
  simp only [List.idxOf?, List.findIdx?_append, List.findIdx?_cons, passed]
  cases hb : before.findIdx? (· == line) with
  | some k =>
    have within := (List.findIdx?_eq_some_iff_findIdx_eq.mp hb).1
    exact .some (.inl ⟨within.le, rfl⟩)
  | none =>
    cases after.findIdx? (· == line) with
    | none => exact .none
    | some k => exact .some (.inr ⟨Nat.le_add_left .., Nat.add_right_comm ..⟩)

end Shifts

end Tables

namespace Correspondence

def added (n : Int) (index : Nat) : Correspondence where
  folding := .exact
  place := Shifted index
  aim line := line ≠ n

variable {C : Correspondence}

theorem Frames.unplaced_eq {frame frame' : Frame Nat} (h : C.Frames frame frame') :
    frame.unplaced = frame'.unplaced := by
  cases h <;> rfl

theorem map_unplaced_eq {stack stack' : ControlStack Nat} (h : List.Forall₂ C.Frames stack stack') :
    stack.map Frame.unplaced = stack'.map Frame.unplaced := by
  induction h with
  | nil => rfl
  | cons frames _ ih => rw [List.map_cons, List.map_cons, frames.unplaced_eq, ih]

end Correspondence

theorem Folding.eq_of_failures {failure failure' : Option Failure}
    (h : Option.Rel (Folding.Failures .exact) failure failure') : failure = failure' := by
  cases h with
  | none => rfl
  | @some failure failure' same =>
    obtain ⟨k, line, column⟩ := failure
    obtain ⟨cause, rfl, rfl⟩ := same
    dsimp only at cause
    rw [cause_exact, cause_exact] at cause
    rw [cause]

namespace Machine

open Correspondence

variable {before after : List Int} {n : Int} {m m' final : Machine} {failure : Option Failure}
  {count : Nat}

/-- Both machines run the same lines, and the second one a remark besides. -/
structure Remarked (before after : List Int) (n : Int) (m m' : Machine) : Prop where
  machines : (added n before.length).Untimed m m'
  address : m.address = before ++ after
  address' : m'.address = before ++ n :: after
  absent : n ∉ before ++ after
  lines : ∀ number ≠ n, m.program.get? number = m'.program.get? number
  remark : ∃ text, m'.program.get? n = some text ∧ Keyword.remark.begins text = true

namespace Remarked

variable (h : Remarked before after n m m')

include h

/-- The positions are for the same line unless the second machine comes to the remark. -/
theorem next?_eq (other : m'.position ≠ before.length) : m.next? = m'.next? := by
  have place : Shifted before.length m.position m'.position := h.machines.position
  have halted : m.halted = m'.halted := h.machines.halted
  have reached : (before ++ after)[m.position]? = (before ++ n :: after)[m'.position]? :=
    place.getElem?_eq other
  simp only [next?, halted, h.address, h.address', reached]

theorem ne_of_next? {number : Int} (next : number ∈ m.next?) : number ≠ n := by
  obtain ⟨-, reached⟩ := next?_eq_some_iff.mp next
  rintro rfl
  exact h.absent (h.address ▸ List.mem_of_getElem? reached)

theorem position_of_next? (next : n ∈ m'.next?) :
    m.position = before.length ∧ m'.position = before.length := by
  have place : Shifted before.length m.position m'.position := h.machines.position
  by_cases other : m'.position = before.length
  · refine ⟨?_, other⟩
    unfold Shifted at place
    omega
  · exact absurd rfl (h.ne_of_next? (h.next?_eq other ▸ next))

theorem pass (next : n ∈ m'.next?) :
    m'.step = .going (m'.taken n) ∧ Remarked before after n m (m'.taken n) ∧
      n ∉ (m'.taken n).next? := by
  obtain ⟨text, stored, remark⟩ := h.remark
  obtain ⟨position, position'⟩ := h.position_of_next? next
  obtain ⟨errors, ht⟩ := m'.exists_taken_eq n
  have passed : Remarked before after n m (m'.taken n) := by
    have place : Shifted before.length m.position (m'.position + 1) := by
      unfold Shifted
      omega
    rw [ht]
    exact { h with machines := { h.machines with position := place } }
  refine ⟨step_remark next stored remark, passed, fun again => ?_⟩
  have position'' := (passed.position_of_next? again).2
  rw [ht] at position''
  exact absurd position''.symm (position' ▸ Nat.ne_of_lt m'.position.lt_succ_self)

/-- Past the remark, both machines come to the same lines. -/
theorem catch_up : ∃ m'', (∀ count, ∃ more, turns more m' = turns count m'') ∧
    Remarked before after n m m'' ∧ n ∉ m''.next? := by
  by_cases next : n ∈ m'.next?
  · obtain ⟨turn, passed, other⟩ := h.pass next
    exact ⟨_, fun count => ⟨count + 1, turns_of_going turn⟩, passed, other⟩
  · exact ⟨m', fun count => ⟨count, rfl⟩, h, next⟩

/-- A machine that stands at the remark without coming to it is halted, and so are both. -/
theorem halted_of_position (other : n ∉ m'.next?) (position : m'.position = before.length) :
    m.next? = none ∧ m'.next? = none := by
  have halted : m.halted = m'.halted := h.machines.halted
  have reached : m'.address[m'.position]? = some n := by
    rw [h.address', position, List.getElem?_append_right le_rfl, Nat.sub_self]
    rfl
  have stopped : m'.halted = true := by
    rw [← Bool.not_eq_false]
    exact fun going => other (next?_eq_some_iff.mpr ⟨going, reached⟩)
  exact ⟨by rw [next?, halted, stopped]; rfl, by rw [next?, stopped]; rfl⟩

theorem step (other : n ∉ m'.next?) (unaimed : n ∉ m.aim?)
    (timeless : ∀ number, ∀ text ∈ m.program.get? number, Statement.Timeless text) :
    (added n before.length).Turns m.step m'.step := by
  have lines (number : Int) (next : number ∈ m.next?) :
      m.program.get? number = m'.program.get? number := h.lines number (h.ne_of_next? next)
  have place : Shifted before.length m.position m'.position := h.machines.position
  refine h.machines.step ?_ (fun number next => ?_) (fun number next => ?_)
    (fun number next => ?_) fun line aimed same => unaimed (same ▸ aimed)
  · by_cases position : m'.position = before.length
    · obtain ⟨ended, ended'⟩ := h.halted_of_position other position
      exact ended.trans ended'.symm
    · exact h.next?_eq position
  · have position : m'.position ≠ before.length := by
      intro position
      cases (h.halted_of_position other position).1.symm.trans next
    change Shifted before.length (m.position + 1) (m'.position + 1)
    unfold Shifted at *
    omega
  · rw [← lines number next]
    cases m.program.get? number with
    | none => exact .none
    | some text => exact .some rfl
  · rw [← lines number next]
    exact timeless number

theorem going {m₁ m₁' : Machine} (turn : m.step = .going m₁) (turn' : m'.step = .going m₁')
    (machines : (added n before.length).Untimed m₁ m₁') : Remarked before after n m₁ m₁' := by
  obtain ⟨program, address, -⟩ := m.step_fixed
  obtain ⟨program', address', -⟩ := m'.step_fixed
  rw [turn] at program address
  rw [turn'] at program' address'
  refine ⟨machines, address.trans h.address, address'.trans h.address', h.absent, ?_, ?_⟩
  · exact program.symm ▸ program'.symm ▸ h.lines
  · exact program'.symm ▸ h.remark

/-- A run that ends also ends with the remark, unless it jumps to it. -/
theorem exists_turns (unaimed : n ∉ m.aims count)
    (timeless : ∀ number, ∀ text ∈ m.program.get? number, Statement.Timeless text)
    (run : turns count m = some (final, failure)) :
    ∃ count' final', turns count' m' = some (final', failure) ∧
      (added n before.length).Untimed final final' := by
  induction count generalizing m m' with
  | zero => cases run
  | succ count ih =>
    obtain ⟨m'', caught, h, other⟩ := h.catch_up
    have turns := h.step other (fun aimed => unaimed (mem_aims_of_aim? aimed)) timeless
    generalize turn : m.step = t at turns
    generalize turn' : m''.step = t' at turns
    cases turns with
    | ended machines failures =>
      rw [turns_of_ended turn] at run
      cases run
      obtain ⟨more, ends⟩ := caught 1
      rw [turns_of_ended turn', ← Folding.eq_of_failures failures] at ends
      exact ⟨more, _, ends, machines⟩
    | going machines =>
      rw [turns_of_going turn] at run
      rw [aims_of_going count turn] at unaimed
      have fixed := (going_fixed turn).1
      obtain ⟨count', final', ends, final⟩ := ih (h.going turn turn' machines)
        (fun aimed => unaimed (List.mem_append_right _ aimed)) (fixed ▸ timeless) run
      obtain ⟨more, same⟩ := caught (count' + 1)
      exact ⟨more, final', same.trans ((turns_of_going turn').trans ends), final⟩

end Remarked

section Starts

variable {text : Text}

theorem exists_remarked (absent : m.program.get? n = none)
    (remark : Keyword.remark.begins text = true) (program : m'.program = m.program.store n text)
    («variables» : m'.variables = m.variables) (generator : m'.generator = m.generator)
    (room : m'.room = m.room) (input : m'.console.input = m.console.input)
    (output : m'.console.output = m.console.output) :
    ∃ before after, Remarked before after n m.restarted m'.restarted := by
  obtain ⟨before, after, keys, keys'⟩ := Program.exists_lineNumbers_store absent text
  obtain ⟨errors, hm⟩ := m.exists_restarted_eq
  obtain ⟨errors', hm'⟩ := m'.exists_restarted_eq
  have outside : n ∉ before ++ after := by
    rw [← keys]
    intro stored
    obtain ⟨line, hl, rfl⟩ := List.mem_map.mp stored
    cases absent.symm.trans ((Table.get?_eq_some_iff _ _ _).mpr hl)
  have finish : Shifted before.length (before ++ after).length (before ++ n :: after).length := by
    simp only [Shifted, List.length_append, List.length_cons]
    omega
  rw [hm, hm', program, keys, keys']
  refine ⟨before, after, ?_, rfl, rfl, outside, fun number other => ?_, text.trim, ?_, ?_⟩
  · exact
      { «variables» := «variables».symm
        stack := .nil
        position := .inl ⟨Nat.zero_le _, rfl⟩
        finish := finish
        aim := fun line other => Shifted.rel_idxOf? other
        halted := rfl
        running := rfl
        generator := generator.symm
        clock := rfl
        room := room.symm
        input := input.symm
        output := congrArg (Folding.string .exact) output.symm }
  · exact ((Table.get?_insert _ _ _ _).trans (if_neg other)).symm
  · exact (Table.get?_insert _ _ _ _).trans (if_pos rfl)
  · rwa [Keyword.begins_trim]

end Starts

/-- A remark that is added to a program, and that no jump or call in the run names, does not
change what the run comes to. -/
theorem remark_inert {m m' final : Machine} {n : Int} {text : Text} {count : Nat}
    {failure : Option Failure} (absent : m.program.get? n = none)
    (remark : Keyword.remark.begins text = true) (program : m'.program = m.program.store n text)
    (timeless : ∀ line ∈ m.program.entries, Statement.Timeless line.2)
    («variables» : m'.variables = m.variables) (generator : m'.generator = m.generator)
    (room : m'.room = m.room) (input : m'.console.input = m.console.input)
    (output : m'.console.output = m.console.output)
    (run : m.runFor count = some (final, failure)) (unaimed : n ∉ m.restarted.aims count) :
    ∃ count' final', m'.runFor count' = some (final', failure) ∧
      final'.console.output = final.console.output ∧ final'.variables = final.variables ∧
      final'.console.input = final.console.input ∧ final'.generator = final.generator ∧
      final'.stack.map Frame.unplaced = final.stack.map Frame.unplaced ∧
      final'.halted = final.halted := by
  obtain ⟨before, after, remarked⟩ :=
    exists_remarked absent remark program «variables» generator room input output
  obtain ⟨errors, hm⟩ := m.exists_restarted_eq
  have still : ∀ number, ∀ text ∈ m.restarted.program.get? number, Statement.Timeless text := by
    rw [hm]
    exact fun number text stored =>
      timeless (number, text) ((Table.get?_eq_some_iff _ _ _).mp stored)
  obtain ⟨count', final', run', machines⟩ := remarked.exists_turns unaimed still run
  have written : final'.console.output = final.console.output := by
    have same : Folding.text .exact _ = Folding.text .exact _ := machines.output
    rw [Folding.text_exact, Folding.text_exact] at same
    exact (String.toList_injective same).symm
  exact ⟨count', final', run', written, machines.variables.symm, machines.input.symm,
    machines.generator.symm, (map_unplaced_eq machines.stack).symm, machines.halted.symm⟩

/-- A remark where a loop begins again. The run fails at the same line as it does without. -/
theorem remark_within_loop :
    let m := (((((fresh 0 0 (.ofInput [])).storeLine 10
      ['F', 'O', 'R', ' ', 'I', '=', '1', ' ', 'T', 'O', ' ', '2']).storeLine 20
      ['G', 'O', 'S', 'U', 'B', ' ', '4', '0']).storeLine 30
      ['N', 'E', 'X', 'T', ' ', 'I']).storeLine 40 ['P', 'R', 'I', 'N', 'T', ' ', 'I']).storeLine 50
      ['R', 'E', 'T', 'U', 'R', 'N']
    let text := [' ', 'r', 'e', 'm', ' ', 'T', 'I', 'M', 'E', 'R']
    let m' := { m.storeLine 15 text with clock := 7 }
    ∃ count' final' failure, m'.runFor count' = some (final', some failure) ∧
      failure.line = 50 ∧ final'.console.output = "1\n2\n3\n" ∧ final'.stack = [] := by
  intro m text m'
  have program : m'.program = m.program.store 15 text := rfl
  have unread : ∀ line ∈ m.program.entries, ∀ n ≤ line.2.length,
      Cursor.readsClock ⟨n, line.2.drop n⟩ = false := by decide +kernel
  have ends : (m.runFor 11).map (fun o => (o.2.map (·.line), o.1.console.output,
      o.1.stack.isEmpty)) = some (some 50, "1\n2\n3\n", true) := by
    decide +kernel
  obtain ⟨⟨final, failure⟩, run, result⟩ := Option.map_eq_some_iff.mp ends
  simp only [Prod.mk.injEq, List.isEmpty_iff] at result
  obtain ⟨failed, output, stack⟩ := result
  obtain ⟨failure, rfl, line⟩ := Option.map_eq_some_iff.mp failed
  obtain ⟨count', final', run', output', -, -, -, stack', -⟩ :=
    remark_inert (by decide +kernel) (by decide +kernel) program
      (fun line hl => .of_start (Cursor.timeless_start (unread line hl))) rfl rfl rfl rfl rfl run
      (by decide +kernel)
  refine ⟨count', final', failure, run', line, output'.trans output, ?_⟩
  rw [stack] at stack'
  exact List.map_eq_nil_iff.mp stack'

end Machine

end NumberedBasic
