import NumberedBasic.Proofs.Run.Turn
import NumberedBasic.Proofs.Statement.Failure
import NumberedBasic.Proofs.Text.Line

/-! # Coherent machines

The table of a run, the position in it and the frames on the stack fit together in
every session, although they outlive runs that stop or fail: the table and the stack
are only ever replaced at once, and a frame is pushed with a position of the table.
-/

namespace NumberedBasic

namespace Machine

/-- The table is ordered and has a place for the position and for all frames; no counted
loop stands still, and the program is made of numbered, trimmed lines. -/
structure Coherent (m : Machine) : Prop where
  ascending : m.address.Pairwise (· < ·)
  position_le : m.position ≤ m.address.length
  frame_le : ∀ frame ∈ m.stack, frame.position ≤ m.address.length
  moves : ∀ step limit position, .count step limit position ∈ m.stack → step.isZero = false
  number_nonneg : ∀ line ∈ m.program.entries, 0 ≤ line.1
  text_trimmed : ∀ line ∈ m.program.entries, line.2.trim = line.2

namespace Coherent

variable {m m' : Machine}

theorem of_eq (h : m.Coherent) (address : m'.address = m.address)
    (position : m'.position = m.position) (stack : m'.stack = m.stack)
    (program : m'.program = m.program) : m'.Coherent := by
  obtain ⟨h₁, h₂, h₃, h₄, h₅, h₆⟩ := h
  constructor
  all_goals simpa only [address, position, stack, program]

theorem assign (h : m.Coherent) (name : Text) (value : Number) : (m.assign name value).Coherent :=
  h.of_eq rfl rfl rfl rfl

theorem assignAll (h : m.Coherent) (values : List (Text × Number)) :
    (values.foldl (fun m v => m.assign v.1 v.2) m).Coherent := by
  induction values generalizing m with
  | nil => exact h
  | cons value values ih => exact ih (h.assign value.1 value.2)

theorem goTo (h : m.Coherent) {position : Nat} (hp : position ≤ m.address.length) :
    Coherent { m with position } :=
  { h with position_le := hp }

theorem push (h : m.Coherent) (frame : Frame Nat) (hp : frame.position ≤ m.address.length)
    (hm : ∀ step limit position, frame = .count step limit position → step.isZero = false) :
    Coherent { m with stack := frame :: m.stack } where
  __ := h
  frame_le := List.forall_mem_cons.mpr ⟨hp, h.frame_le⟩
  moves step limit position hf := by
    rcases List.mem_cons.mp hf with hf | hf
    · exact hm step limit position hf.symm
    · exact h.moves step limit position hf

theorem drop (h : m.Coherent) {frame : Frame Nat} {stack : ControlStack Nat}
    (top : m.stack = frame :: stack) : Coherent { m with stack } where
  __ := h
  frame_le f hf := h.frame_le f (top ▸ List.mem_cons_of_mem _ hf)
  moves step limit position hf := h.moves step limit position (top ▸ List.mem_cons_of_mem _ hf)

theorem top_le (h : m.Coherent) {frame : Frame Nat} {stack : ControlStack Nat}
    (top : m.stack = frame :: stack) : frame.position ≤ m.address.length :=
  h.frame_le frame (top ▸ List.mem_cons_self)

theorem fresh (seed : Int) (clock : Clock) (console : Console) :
    (Machine.fresh seed clock console).Coherent := by
  constructor <;> simp [Machine.fresh, Table.empty]

theorem target_le {address : List Int} {line? : Option Int} {position : Nat}
    (found : (line?.bind fun line => address.idxOf? line) = some position) :
    position ≤ address.length := by
  obtain ⟨line, -, hi⟩ := Option.bind_eq_some_iff.mp found
  exact (List.idxOf?_eq_some_iff.mp hi).1.le

theorem effect (h : m.Coherent) {k : Option Keyword} (he : Statement.Effect m k m') :
    m'.Coherent := by
  cases he with
  | skip => exact h
  | assign name value => exact h.assign name value
  | remark => exact h
  | jump running found => exact h.goTo (target_le found)
  | call running found =>
    exact (h.push (.subroutine m.position) h.position_le nofun).goTo (target_le found)
  | resume top => exact (h.drop top).goTo (h.top_le top)
  | pause => exact h.of_eq rfl rfl rfl rfl
  | finish => exact h.goTo le_rfl
  | count name first limit moves =>
    refine (h.assign name first).push (.count _ limit m.position) h.position_le ?_
    rintro _ _ _ ⟨⟩
    exact moves
  | countAgain bound top within =>
    exact (h.assign _ _).goTo (h.top_le top)
  | countDone bound top past => exact (h.assign _ _).drop top
  | enter => exact h.push (.repetition m.position) h.position_le nofun
  | repeatAgain top => exact h.goTo (h.top_le top)
  | repeatDone top => exact h.drop top
  | print => exact h.of_eq rfl rfl rfl rfl
  | input read =>
    refine Coherent.assignAll ?_ _
    exact h.of_eq rfl rfl rfl rfl
  | reseed => exact h.of_eq rfl rfl rfl rfl

/-- What a failed statement leaves of a machine is coherent as well. -/
theorem residue (h : m.Coherent) {s : Execution} {cause : Cause}
    (hr : Statement.Residue s m cause m') : m'.Coherent := by
  cases hr with
  | nothing => exact h
  | first => exact h.assign _ _
  | rejected => exact h.of_eq rfl rfl rfl rfl

theorem drawn (h : m.Coherent) (draws : Nat) :
    Coherent { m with generator := m.generator.drawn draws } :=
  h.of_eq rfl rfl rfl rfl

theorem executed_ok {s t : Execution} {u : Unit} (h : s.machine.Coherent)
    (he : Statement.execute s = .ok u t) : t.machine.Coherent := by
  obtain ⟨k, r, -, draws, hc⟩ := Statement.execute_changes he
  exact (h.drawn draws).effect hc

theorem executed_error {s t : Execution} {cause : Cause} (h : s.machine.Coherent)
    (he : Statement.execute s = .error cause t) : t.machine.Coherent := by
  obtain ⟨draws, hr⟩ := Statement.execute_residue he
  exact (h.drawn draws).residue hr

theorem taken (h : m.Coherent) {number : Int} (next : m.address[m.position]? = some number) :
    (m.taken number).Coherent := by
  obtain ⟨hp, -⟩ := List.getElem?_eq_some_iff.mp next
  obtain ⟨errors, ht⟩ := m.exists_taken_eq number
  rw [ht]
  exact (h.goTo hp).of_eq rfl rfl rfl rfl

theorem stepped (h : m.Coherent) (turn : m.step = .going m') : m'.Coherent := by
  obtain ⟨-, number, text, u, s, next, -, he, rfl⟩ := step_eq_going_iff.mp turn
  exact executed_ok (h.taken next) he

theorem underway (h : m.Coherent) (hu : Underway m m') : m'.Coherent :=
  hu.keeps h fun _ _ => stepped

theorem abortRun (h : m.Coherent) {cause : Cause} {line : Int} {column : Nat}
    {failure : Option Failure} (he : .ended m' failure = m.abortRun cause line column) :
    m'.Coherent := by
  obtain ⟨errors, ha⟩ := m.exists_abortRun_eq cause line column
  cases he.trans ha
  exact h.of_eq rfl rfl rfl rfl

theorem ended (h : m.Coherent) {failure : Option Failure} (turn : m.step = .ended m' failure) :
    m'.Coherent := by
  rcases step_ended_cases turn with
    ⟨-, rfl⟩ | ⟨number, -, -, hm⟩ | ⟨number, text, cause, s, next, -, he, hm⟩
  · obtain ⟨errors, hf⟩ := m.exists_finishRun_eq
    rw [hf]
    exact h.of_eq rfl rfl rfl rfl
  · refine abortRun ?_ hm
    exact h.of_eq rfl rfl rfl rfl
  · exact abortRun (executed_error (h.taken next) he) hm

theorem resumed (h : m.Coherent) : m.resumed.Coherent :=
  h.of_eq rfl rfl rfl rfl

/-- A new run replaces the table and the stack together. -/
theorem restarted (h : m.Coherent) : m.restarted.Coherent := by
  have snapshot :
      Coherent { m with address := m.program.lineNumbers, stack := [], position := 0 } := {
    ascending := List.pairwise_map.mpr (m.program.increasing.imp Int.compare_eq_lt.mp)
    position_le := Nat.zero_le _
    frame_le := List.forall_mem_nil _
    moves := fun _ _ _ hf => absurd hf List.not_mem_nil
    number_nonneg := h.number_nonneg
    text_trimmed := h.text_trimmed }
  obtain ⟨errors, hr⟩ := m.exists_restarted_eq
  rw [hr]
  exact snapshot.of_eq rfl rfl rfl rfl

theorem storeLine (h : m.Coherent) {number : Int} (nonneg : 0 ≤ number) (text : Text) :
    (m.storeLine number text).Coherent where
  __ := h
  number_nonneg line hl := by
    rcases Table.mem_place hl with rfl | hl
    · exact nonneg
    · exact h.number_nonneg line hl
  text_trimmed line hl := by
    rcases Table.mem_place hl with rfl | hl
    · exact Text.trim_trim text
    · exact h.text_trimmed line hl

theorem deleteLine (h : m.Coherent) {number : Int} (hd : m.deleteLine number = .ok m') :
    m'.Coherent := by
  unfold Machine.deleteLine Program.delete at hd
  split at hd
  · cases hd
    have erased {line : Int × Text} (hl : line ∈ (m.program.erase number).entries) :
        line ∈ m.program.entries := (List.mem_filter.mp hl).1
    exact { h with
      number_nonneg := fun line hl => h.number_nonneg line (erased hl)
      text_trimmed := fun line hl => h.text_trimmed line (erased hl) }
  · cases hd

end Coherent

end Machine

end NumberedBasic
