import NumberedBasic.Proofs.Statement.Effect

/-! # What plain statements see of a machine

Statements that neither jump nor stop nor touch the control stack read and change
the data of a machine only. They do the same on every machine with the same data.
-/

namespace NumberedBasic

structure Data where
  «variables» : Variables
  generator : Generator
  clock : Clock
  room : Nat
  input : Text
  output : String

namespace Machine

def data (m : Machine) : Data :=
  ⟨m.variables, m.generator, m.clock, m.room, m.console.input, m.console.output⟩

def holding (m : Machine) (d : Data) : Machine :=
  { m with
    «variables» := d.variables
    generator := d.generator
    clock := d.clock
    room := d.room
    console := { m.console with input := d.input, output := d.output } }

@[simp] theorem data_holding (m : Machine) (d : Data) : (m.holding d).data = d := rfl

end Machine

namespace Exec

variable {α β : Type}

def carry (m : Machine) : EStateM.Result Cause Execution α → EStateM.Result Cause Execution α
  | .ok a s => .ok a { s with machine := m.holding s.machine.data }
  | .error cause s => .error cause { s with machine := m.holding s.machine.data }

/-- From a place, the execution depends on the data of a machine and changes nothing else. -/
def LocalAt (x : Exec α) (c : Cursor) (room : Nat) : Prop :=
  ∀ (m m' : Machine) (d : Data), x ⟨m.holding d, c, room⟩ = carry m (x ⟨m'.holding d, c, room⟩)

def Local (x : Exec α) : Prop :=
  ∀ c room, x.LocalAt c room

theorem LocalAt.bind {x : Exec α} {f : α → Exec β} {c : Cursor} {room : Nat}
    (hx : x.LocalAt c room) (hf : ∀ a m m' c' room', x ⟨m, c, room⟩ = .ok a ⟨m', c', room'⟩ →
      (f a).LocalAt c' room') :
    (x >>= f).LocalAt c room := by
  intro m m' d
  have hm := hx m m' d
  have hm' := hx m' m' d
  cases h : x ⟨m'.holding d, c, room⟩ with
  | error cause s =>
    rw [h] at hm
    rw [bind_of_error hm, bind_of_error h]
    rfl
  | ok a s =>
    obtain ⟨m₁, c', room'⟩ := s
    rw [h] at hm hm'
    -- the first part has left the rest of the machine alone
    have kept : m'.holding m₁.data = m₁ := by
      simpa [carry] using hm'.symm
    have hl := hf a _ _ c' room' h m m' m₁.data
    rw [bind_of_ok hm, bind_of_ok h]
    exact hl.trans (by rw [kept])

theorem Local.bind {x : Exec α} {f : α → Exec β} (hx : x.Local) (hf : ∀ a, (f a).Local) :
    (x >>= f).Local :=
  fun c room => (hx c room).bind fun a _ _ c' room' _ => hf a c' room'

theorem Local.evaluate (e : Eval α) : (evaluate e).Local := by
  intro c room m m' d
  cases h : e ⟨d.variables, d.clock.now⟩ ⟨c, d.generator, room⟩ with
  | ok a r =>
    have hm : Exec.evaluate e ⟨m.holding d, c, room⟩ = .ok a _ := evaluate_of_ok h
    have hm' : Exec.evaluate e ⟨m'.holding d, c, room⟩ = .ok a _ := evaluate_of_ok h
    rw [hm, hm']
    rfl
  | error cause r =>
    have hm : Exec.evaluate e ⟨m.holding d, c, room⟩ = .error cause _ := evaluate_of_error h
    have hm' : Exec.evaluate e ⟨m'.holding d, c, room⟩ = .error cause _ := evaluate_of_error h
    rw [hm, hm']
    rfl

theorem Local.pure (a : α) : (pure a : Exec α).Local :=
  fun _ _ _ _ _ => rfl

theorem Local.ofExcept (x : Except Cause α) : (ofExcept x).Local := by
  cases x <;> exact fun _ _ _ _ _ => rfl

theorem Local.change {f : Machine → Machine}
    (hf : ∀ m m' d, f (Machine.holding m d) = m.holding (f (Machine.holding m' d)).data) :
    (change f).Local := by
  intro c room m m' d
  rw [change_apply, change_apply]
  exact congrArg (fun machine => EStateM.Result.ok () (Execution.mk machine c room)) (hf m m' d)

end Exec

/-- Statements that neither jump nor stop and have no part in the control stack. -/
def Keyword.isPlain : Keyword → Bool
  | .assign | .remark | .print | .input => true
  | _ => false

namespace Statement

open Exec

/-- All that the line can select is plain, behind any conditions. -/
def Plain (text : Text) : Prop :=
  ∀ context generator room k r,
    select context ⟨.start text, generator, room⟩ = .ok (some k) r → k.isPlain = true

theorem Plain.of_selected {text : Text} {context : Context} {g : Generator} {room : Nat}
    {k : Keyword} (h : selected context ⟨.start text, g, room⟩ = some k)
    (hk : k.isPlain = true) : Plain text := by
  obtain ⟨r, hr⟩ := selected_eq_some_iff.mp h
  intro context' g' room' k' r' h'
  have start : (⟨.start text, g, room⟩ : Reading).cursor =
      (⟨.start text, g', room'⟩ : Reading).cursor := rfl
  have same : k = k' := select_alike start hr h'
  rwa [← same]

theorem assign_local : assign.Local :=
  (Local.evaluate _).bind fun _ => (Local.evaluate _).bind fun _ =>
    (Local.evaluate _).bind fun _ => .change fun _ _ _ => rfl

theorem print_local : print.Local :=
  (Local.evaluate _).bind fun _ => .change fun _ _ _ => rfl

theorem ask_local (prompt : Text) : (ask prompt).Local :=
  fun _ _ _ _ _ => rfl

theorem input_local : input.Local := by
  refine (Local.evaluate _).bind fun _ => (ask_local _).bind fun _ =>
    (Local.ofExcept _).bind fun values => .change fun m m' d => ?_
  induction values generalizing d with
  | nil => rfl
  | cons value values ih => exact ih { d with «variables» := d.variables.insert value.1 value.2 }

theorem perform_local {k : Keyword} (h : k.isPlain = true) : (perform (some k)).Local := by
  cases k with
  | assign => exact assign_local
  | remark => exact Local.evaluate Eval.skipLine
  | print => exact print_local
  | input => exact input_local
  | _ => cases h

/-- A plain line does the same wherever its data are found. -/
theorem Plain.execute_local {text : Text} (h : Plain text) (room : Nat) :
    execute.LocalAt (.start text) room := by
  rw [execute_eq]
  refine (Local.evaluate _ _ room).bind fun k m m' c' room' hs => ?_
  obtain ⟨r, hr, -⟩ := evaluate_eq_ok_iff.mp hs
  cases k with
  | none => exact Local.pure () c' room'
  | some k => exact perform_local (h _ _ _ k r hr) c' room'

end Statement

end NumberedBasic
