import NumberedBasic.Proofs.Block.Line
import NumberedBasic.Proofs.Run.Room

/-! # Blocks as programs

A run that stands at the first line of a block follows the meaning of the block to
the line behind it, and finds the stack there as it was. The frame of a loop is at
the top of the stack again whenever its body ends, so the loop goes on with it. A meaning
with more room than the run has is followed unless the run lacks room.
-/

namespace NumberedBasic

open Machine Exec Statement

section Bound

/-- No statement takes the value of a variable away. -/
theorem Statement.Effect.bound {k : Option Keyword} {m m' : Machine} {name : Text}
    (h : Effect m k m') (hb : (m.variables.get? name).isSome) :
    (m'.variables.get? name).isSome := by
  have inserted {v : Variables} (hv : (v.get? name).isSome) (other : Text) (value : Number) :
      ((v.insert other value).get? name).isSome := by
    rw [Table.get?_insert]
    split
    · rfl
    · exact hv
  have all (m : Machine) (hv : (m.variables.get? name).isSome) (values : List (Text × Number)) :
      ((values.foldl (fun m v => m.assign v.1 v.2) m).variables.get? name).isSome := by
    induction values generalizing m with
    | nil => exact hv
    | cons value values ih => exact ih _ (inserted hv _ _)
  cases h with
  | assign => exact inserted hb _ _
  | count => exact inserted hb _ _
  | countAgain => exact inserted hb _ _
  | countDone => exact inserted hb _ _
  | input =>
    refine all _ ?_ _
    exact hb
  | _ => exact hb

theorem Machine.Underway.bound {m m' : Machine} {name : Text} (h : Underway m m')
    (hb : (m.data.variables.get? name).isSome) : (m'.data.variables.get? name).isSome := by
  refine h.keeps (p := fun m => (m.data.variables.get? name).isSome) hb
    fun before after hb turn => ?_
  obtain ⟨-, number, text, u, s, -, -, he, rfl⟩ := step_eq_going_iff.mp turn
  obtain ⟨k, r, -, draws, effect⟩ := Statement.execute_changes he
  obtain ⟨errors, ht⟩ := before.exists_taken_eq number
  exact effect.bound (by rw [ht]; exact hb)

end Bound

/-- A run leads from the first line of a block to where its meaning ends: behind the
block with the same stack, or at the line of a fault. -/
def Follows (p : Program) (address : List Int) (m : Machine) (start : Nat)
    (stack : ControlStack Nat) (size : Nat) : Outcome → Prop
  | (d, none) => ∃ m', Underway m m' ∧ Stands p address m' (start + size) stack d
  | (d, some fault) => ∃ last final number, Underway m last ∧
      last.step = .ended final (some ⟨fault.cause, number, fault.column⟩) ∧
      address[start + fault.line]? = some number ∧ final.data = d ∧
      final.position = start + fault.line + 1

section Simulation

variable {p : Program} {address : List Int} {m m' : Machine} {start size : Nat}
  {stack : ControlStack Nat} {d : Data} {o : Outcome}

theorem Follows.prepend (h : Underway m m') (hf : Follows p address m' start stack size o) :
    Follows p address m start stack size o := by
  obtain ⟨d, _ | fault⟩ := o
  · obtain ⟨m'', hu, hs⟩ := hf
    exact ⟨m'', h.trans hu, hs⟩
  · obtain ⟨last, final, number, hu, hl⟩ := hf
    exact ⟨last, final, number, h.trans hu, hl⟩

theorem Follows.below {before : Nat} (h : Follows p address m (start + before) stack size o) :
    Follows p address m start stack (before + size) (o.below before) := by
  obtain ⟨d, _ | fault⟩ := o
  · obtain ⟨m', hu, hs⟩ := h
    exact ⟨m', hu, Nat.add_assoc start before size ▸ hs⟩
  · obtain ⟨last, final, number, hu, step, hl⟩ := h
    rw [Nat.add_assoc] at hl
    exact ⟨last, final, number, hu, step, hl⟩

/-- What follows a block that ends goes on behind it. -/
theorem Follows.followed {before : Nat} (h : Follows p address m start stack before (d, none))
    (next : ∀ m', Stands p address m' (start + before) stack d →
      Follows p address m' (start + before) stack size o) :
    Follows p address m start stack (before + size) (o.below before) := by
  obtain ⟨m', hu, hs⟩ := h
  exact (next m' hs).below.prepend hu

/-- Only the end of a block depends on its size. -/
theorem Follows.fault {f : Fault} {stack' : ControlStack Nat} {size' : Nat}
    (h : Follows p address m start stack size (d, some f)) :
    Follows p address m start stack' size' (d, some f) := h

inductive Closes (p : Program) (address : List Int) (m : Machine) (start : Nat)
    (frame : Frame Nat) (stack : ControlStack Nat) (foot : Nat) :
    Data × Except (Cause × Nat) Bool → Prop where
  | again {d : Data} {m' : Machine} (turn : m.step = .going m')
      (stands : Stands p address m' (start + 1) (frame :: stack) d) :
      Closes p address m start frame stack foot (d, .ok true)
  | ended {d : Data} {m' : Machine} (turn : m.step = .going m')
      (stands : Stands p address m' (start + foot + 1) stack d) :
      Closes p address m start frame stack foot (d, .ok false)
  | fails {d : Data} {final : Machine} {cause : Cause} {number : Int} {column : Nat}
      (turn : m.step = .ended final (some ⟨cause, number, column⟩))
      (located : address[start + foot]? = some number) (data : final.data = d)
      (position : final.position = start + foot + 1) :
      Closes p address m start frame stack foot (d, .error (cause, column))

/-- A loop is followed round by round. What its body needs of the data besides is kept
by every turn of the run. -/
theorem rounds_follows {body : Data → Option Outcome}
    {verdict : Data → Data × Except (Cause × Nat) Bool} {frame : Frame Nat} (needed : Data → Prop)
    (keeps : ∀ m m', Underway m m' → needed m.data → needed m'.data)
    (body_follows : ∀ m d o, Stands p address m (start + 1) (frame :: stack) d →
      body d = some o → Follows p address m (start + 1) (frame :: stack) size o)
    (closes : ∀ m d, Stands p address m (start + 1 + size) (frame :: stack) d → needed d →
      Closes p address m start frame stack (size + 1) (verdict d))
    {count : Nat} (h : Block.rounds body verdict (size + 1) count d = some o)
    (hs : Stands p address m (start + 1) (frame :: stack) d) (hn : needed d) :
    Follows p address m start stack (size + 2) o := by
  induction count generalizing m d with
  | zero => cases h
  | succ count ih =>
    rw [Block.rounds] at h
    cases hb : body d with
    | none =>
      rw [hb] at h
      cases h
    | some outcome =>
      have hf := body_follows m d outcome hs hb
      rw [hb] at h
      obtain ⟨d', _ | fault⟩ := outcome
      · obtain ⟨m', hu, hs'⟩ := hf
        have hn' : needed d' := by
          have hk := keeps m m' hu (hs.data ▸ hn)
          rwa [hs'.data] at hk
        have hc := closes m' d' hs' hn'
        dsimp only at h
        cases hv : verdict d' with
        | mk d'' result =>
          rw [hv] at h hc
          cases hc with
          | again turn stands =>
            have hu' := hu.turned turn
            have hn'' : needed d'' := by
              have hk := keeps m _ hu' (hs.data ▸ hn)
              rwa [stands.data] at hk
            exact (ih h stands hn'').prepend hu'
          | ended turn stands =>
            cases h
            exact ⟨_, hu.turned turn, stands⟩
          | fails turn located data position =>
            cases h
            exact ⟨m', _, _, hu, turn, located, data, position⟩
      · cases h
        exact Follows.fault (Follows.below hf)

def Laid (p : Program) (address : List Int) (start : Nat) (lines : List Text) : Prop :=
  ∀ i text, lines[i]? = some text → LineAt p address (start + i) text

theorem Block.length_lines (b : Block) : b.lines.length = b.size := by
  induction b with
  | nothing => rfl
  | plain => rfl
  | sequence first second ih ih' => simp [lines, size, ih, ih']
  | counted head body foot ih => simp [lines, size, ih]
  | repeated head body foot ih => simp [lines, size, ih]

theorem Laid.left {first second : List Text} (h : Laid p address start (first ++ second)) :
    Laid p address start first := by
  intro i text hi
  obtain ⟨hlt, -⟩ := List.getElem?_eq_some_iff.mp hi
  exact h i text (by rw [List.getElem?_append_left hlt, hi])

theorem Laid.right {first second : List Text} (h : Laid p address start (first ++ second)) :
    Laid p address (start + first.length) second := by
  intro i text hi
  rw [Nat.add_assoc]
  refine h (first.length + i) text ?_
  rw [List.getElem?_append_right (Nat.le_add_right _ _), Nat.add_sub_cancel_left, hi]

theorem Laid.head {text : Text} {rest : List Text} (h : Laid p address start (text :: rest)) :
    LineAt p address start text := by
  have line := h 0 text rfl
  rwa [Nat.add_zero] at line

theorem Laid.tail {text : Text} {rest : List Text} (h : Laid p address start (text :: rest)) :
    Laid p address (start + 1) rest := by
  intro i text hi
  rw [Nat.add_assoc, Nat.add_comm 1]
  exact h (i + 1) text hi

theorem Block.Names.closes {foot name : Text} {last step : Number}
    (h : Names .next name foot) (line : LineAt p address (start + 1 + size) foot)
    (hs : Stands p address m (start + 1 + size) (.count step last (start + 1) :: stack) d)
    (bound : (d.variables.get? name).isSome) :
    Closes p address m start (.count step last (start + 1)) stack (size + 1)
      (advance name last step d) := by
  obtain ⟨previous, hp⟩ := Option.isSome_iff_exists.mp bound
  have behind : start + 1 + size + 1 = start + (size + 1) + 1 := by omega
  have value : ((d.variables.get? name).getD 0).add step = previous.add step := by rw [hp]; rfl
  have verdict : advance name last step d =
      ({ d.look with «variables» := d.variables.insert name (previous.add step) },
        .ok !isPast (previous.add step) step last) := by
    simp only [advance, value]
  rw [verdict]
  obtain ⟨m', turn, ⟨past, stands⟩ | ⟨past, stands⟩⟩ := hs.next_turn h line hp
  · rw [past]
    exact .ended turn (behind ▸ stands)
  · rw [past]
    exact .again turn stands

theorem Block.Opens.closes {foot : Text} (h : Opens .close foot)
    (line : LineAt p address (start + 1 + size) foot)
    (hs : Stands p address m (start + 1 + size) (.repetition (start + 1) :: stack) d) :
    Closes p address m start (.repetition (start + 1)) stack (size + 1)
      (d.perform footer foot) := by
  have behind : start + 1 + size + 1 = start + (size + 1) + 1 := by omega
  cases hp : d.perform footer foot with
  | mk d' result =>
    match result, hp with
    | .ok again, hp =>
      have executed (m' : Machine) (hs' : Stands p address m' (start + 1 + size + 1)
          (.repetition (start + 1) :: stack) d.look) : ∃ c room, execute (.start m' foot) = .ok ()
            ⟨if again then { m'.holding d' with position := start + 1 }
              else { m'.holding d' with stack }, c, room⟩ := by
        obtain ⟨c, room, hf⟩ := Data.perform_ok (footer_local _) hs'.data hp
        exact ⟨c, room, h.execute_close hf hs'.stack⟩
      cases again with
      | true =>
        obtain ⟨m', turn, stands⟩ := hs.turn_going line (q := fun m => Stands p address m
            (start + 1) (.repetition (start + 1) :: stack) d') fun m' hs' => by
          obtain ⟨c, room, he⟩ := executed m' hs'
          exact ⟨_, c, room, he, (hs'.holding d').goTo (start + 1)⟩
        exact .again turn stands
      | false =>
        obtain ⟨m', turn, stands⟩ := hs.turn_going line (q := fun m => Stands p address m
            (start + 1 + size + 1) stack d') fun m' hs' => by
          obtain ⟨c, room, he⟩ := executed m' hs'
          exact ⟨_, c, room, he, (hs'.holding d').restack stack⟩
        exact .ended turn (behind ▸ stands)
    | .error (cause, column), hp =>
      obtain ⟨final, number, turn, located, data, position⟩ :=
        hs.turn_ended line fun m' hs' => by
          obtain ⟨c, room, hf, hc⟩ := Data.perform_error (footer_local _) hs'.data hp
          refine ⟨c, room, ?_, hc⟩
          rw [h.execute_eq nofun, close_eq_footer, bind_of_error hf]
      have foot : start + 1 + size = start + (size + 1) := by omega
      exact .fails turn (foot ▸ located) data (foot ▸ position)

theorem loopStart_name {context : Context} {r r₁ r' : Reading} {name name' : Text}
    {first : Number} (hn : Eval.name context r = .ok name r₁)
    (h : loopStart context r = .ok (name', first) r') : name' = name := by
  obtain ⟨name₁, s₁, h₁, h⟩ := Eval.bind_eq_ok_iff.mp h
  cases hn.symm.trans h₁
  obtain ⟨_, s₂, -, h⟩ := Eval.bind_eq_ok_iff.mp h
  obtain ⟨value, s₃, -, h⟩ := Eval.bind_eq_ok_iff.mp h
  cases h
  rfl

theorem Block.Names.header_ok {head name name' : Text} {last step : Number} {s : Execution}
    (h : Names .count name head) (hx : header (.start m head) = .ok (name', last, step) s) :
    name' = name ∧ (s.machine.variables.get? name).isSome := by
  obtain ⟨c, c', hk, hn⟩ := h m.context m.generator (m.room + 14)
  -- the name is read first, and nothing after its assignment changes the variables
  obtain ⟨_, s₁, h₁, hx⟩ := bind_eq_ok_iff.mp hx
  cases (evaluate_still hk).symm.trans h₁
  obtain ⟨⟨name₂, first⟩, s₂, h₂, hx⟩ := bind_eq_ok_iff.mp hx
  obtain ⟨_, s₃, h₃, hx⟩ := bind_eq_ok_iff.mp hx
  cases h₃
  obtain ⟨⟨last₄, step₄⟩, s₄, h₄, hx⟩ := bind_eq_ok_iff.mp hx
  cases hx
  obtain ⟨r, hr, -⟩ := evaluate_eq_ok_iff.mp h₂
  obtain rfl := loopStart_name hn hr
  obtain ⟨r', -, rfl⟩ := evaluate_eq_ok_iff.mp h₄
  refine ⟨rfl, ?_⟩
  change ((s₂.machine.variables.insert _ first).get? _).isSome
  rw [Table.get?_insert, if_pos rfl]
  rfl

theorem Statement.Plain.follows {text : Text} (h : Plain text) (line : LineAt p address start text)
    (hs : Stands p address m start stack d) {limit : Nat}
    (ho : (Block.plain text).run limit d = some o) : Follows p address m start stack 1 o := by
  rw [Block.run] at ho
  cases hp : d.perform execute text with
  | mk d' result =>
    rw [hp] at ho
    match result, ho, hp with
    | .ok (), ho, hp =>
      cases ho
      obtain ⟨m', turn, hs'⟩ := hs.turn_going line
          (q := fun m => Stands p address m (start + 1) stack d') fun m' hs' => by
        obtain ⟨c, room, he⟩ := Data.perform_ok h.execute_local hs'.data hp
        exact ⟨_, c, room, he, hs'.holding d'⟩
      exact ⟨m', .turned .begun turn, hs'⟩
    | .error (cause, column), ho, hp =>
      cases ho
      obtain ⟨final, number, ended⟩ := hs.turn_ended line fun m' hs' =>
        Data.perform_error h.execute_local hs'.data hp
      exact ⟨m, final, number, .begun, ended⟩

theorem Block.Names.begins {head name name' : Text} {last step : Number} {d' : Data}
    (h : Names .count name head) (line : LineAt p address start head)
    (hs : Stands p address m start stack d)
    (hp : d.perform header head = (d', .ok (name', last, step))) :
    (∃ m', m.step = .going m' ∧
      Stands p address m' (start + 1) (.count step last (start + 1) :: stack) d') ∧
      name' = name ∧ (d'.variables.get? name).isSome := by
  have performed {m' : Machine} (hd : m'.data = d.look) := Data.perform_ok (header_local _) hd hp
  refine ⟨hs.turn_going line fun m' hs' => ?_, ?_⟩
  · obtain ⟨c, room, hc⟩ := performed hs'.data
    have pushed := (hs'.holding d').restack (.count step last m'.position :: m'.stack)
    rw [hs'.position, hs'.stack] at pushed
    refine ⟨_, c, room, ?_, pushed⟩
    rw [h.opens.execute_eq nofun, count_eq_header, bind_of_ok hc, ← hs'.position, ← hs'.stack]
    rfl
  · obtain ⟨c, room, hc⟩ := performed (m.data_holding d.look)
    exact h.header_ok hc

theorem Block.Names.fails {head name : Text} {cause : Cause} {column : Nat} {d' : Data}
    (h : Names .count name head) (line : LineAt p address start head)
    (hs : Stands p address m start stack d)
    (hp : d.perform header head = (d', .error (cause, column))) :
    Follows p address m start stack size (d', some ⟨cause, 0, column⟩) := by
  obtain ⟨final, number, ended⟩ := hs.turn_ended line fun m' hs' => by
    obtain ⟨c, room, hf, hc⟩ := Data.perform_error (header_local _) hs'.data hp
    refine ⟨c, room, ?_, hc⟩
    rw [h.opens.execute_eq nofun, count_eq_header, bind_of_error hf]
  exact ⟨m, final, number, .begun, ended⟩

theorem Block.Opens.begins {head : Text} (h : Opens .enter head)
    (line : LineAt p address start head) (hs : Stands p address m start stack d) :
    ∃ m', m.step = .going m' ∧
      Stands p address m' (start + 1) (.repetition (start + 1) :: stack) d.look :=
  hs.turn_going line fun m' hs' => by
    obtain ⟨c, he⟩ := h.execute_enter (m := m')
    have pushed := hs'.restack (.repetition m'.position :: m'.stack)
    rw [hs'.position, hs'.stack] at pushed he
    exact ⟨_, c, _, he, pushed⟩

/-- A run follows the meaning of every well-formed block that it comes to. -/
theorem Block.run_follows {b : Block} (wf : b.WellFormed) {limit : Nat}
    (h : b.run limit d = some o) (hs : Stands p address m start stack d)
    (laid : Laid p address start b.lines) : Follows p address m start stack b.size o := by
  induction b generalizing m start stack d o with
  | nothing =>
    cases h
    exact ⟨m, .begun, hs⟩
  | plain text => exact wf.follows laid.head hs h
  | sequence first second ih ih' =>
    rw [Block.run] at h
    cases hr : first.run limit d with
    | none =>
      rw [hr] at h
      cases h
    | some outcome =>
      have hf := ih wf.1 hr hs laid.left
      rw [hr] at h
      obtain ⟨d', _ | fault⟩ := outcome
      · obtain ⟨o', ho', rfl⟩ := Option.map_eq_some_iff.mp h
        have laid' := laid.right
        rw [first.length_lines] at laid'
        exact hf.followed fun m' hs' => ih' wf.2 ho' hs' laid'
      · cases h
        exact hf.fault
  | counted head body foot ih =>
    obtain ⟨wf, name, names, names'⟩ := wf
    have foot_line := laid.tail.right.head
    rw [body.length_lines] at foot_line
    rw [Block.run] at h
    cases hp : d.perform header head with
    | mk d' result =>
      rw [hp] at h
      match result, h, hp with
      | .ok (name', last, step), h, hp =>
        obtain ⟨⟨m', turn, hs'⟩, rfl, bound⟩ := names.begins laid.head hs hp
        have hf := rounds_follows (fun d => (d.variables.get? name').isSome)
          (fun _ _ hu => hu.bound) (fun m d o hs hb => ih wf hb hs laid.tail.left)
          (fun m d hs hn => names'.closes foot_line hs hn) h hs' bound
        exact hf.prepend (.turned .begun turn)
      | .error (cause, column), h, hp =>
        cases h
        exact names.fails laid.head hs hp
  | repeated head body foot ih =>
    obtain ⟨wf, opens, closes⟩ := wf
    have foot_line := laid.tail.right.head
    rw [body.length_lines] at foot_line
    rw [Block.run] at h
    obtain ⟨m', turn, hs'⟩ := opens.begins laid.head hs
    have hf := rounds_follows (fun _ => True) (fun _ _ _ _ => trivial)
      (fun m d o hs hb => ih wf hb hs laid.tail.left)
      (fun m d hs _ => closes.closes foot_line hs) h hs' trivial
    exact hf.prepend (.turned .begun turn)

end Simulation

theorem Machine.restarted_stands (m : Machine) :
    Stands m.program m.program.lineNumbers m.restarted 0 [] m.data := by
  obtain ⟨errors, hr⟩ := m.exists_restarted_eq
  rw [hr]
  exact ⟨rfl, rfl, rfl, rfl, rfl, rfl, rfl⟩

theorem Stands.finishRun {p : Program} {address : List Int} {m : Machine} {position : Nat}
    {stack : ControlStack Nat} {d : Data} (h : Stands p address m position stack d) :
    m.finishRun.data = d ∧ m.finishRun.stack = stack ∧ m.finishRun.address = address ∧
      m.finishRun.position = position ∧ m.finishRun.halted = false ∧
      m.finishRun.running = false := by
  obtain ⟨rfl, rfl, rfl, rfl, rfl, -, halted⟩ := h
  obtain ⟨errors, hf⟩ := m.exists_finishRun_eq
  rw [hf]
  exact ⟨rfl, rfl, rfl, rfl, halted, rfl⟩

theorem Program.laid (p : Program) : Laid p p.lineNumbers 0 (p.entries.map (·.2)) := by
  intro i text hi
  rw [List.getElem?_map] at hi
  obtain ⟨⟨number, _⟩, he, rfl⟩ := Option.map_eq_some_iff.mp hi
  refine ⟨number, ?_, ?_⟩
  · rw [Nat.zero_add, lineNumbers, Table.keys, List.getElem?_map, he]
    rfl
  · exact (Table.get?_eq_some_iff _ _ _).mpr (List.mem_of_getElem? he)

/-- A run of a block as a program ends as the meaning does: at its end with nothing pending, or with
the same failure at the line and the column of the fault. -/
def EndsWith (p : Program) (final : Machine) (failure : Option Failure) : Option Fault → Prop
  | none => failure = none ∧ final.stack = [] ∧ final.address = p.lineNumbers ∧
      final.position = final.address.length ∧ final.halted = false ∧ final.running = false
  | some f => final.position = f.line + 1 ∧ ∃ number, p.lineNumbers[f.line]? = some number ∧
      failure = some ⟨f.cause, number, f.column⟩

/-- Whenever the meaning of a block ends, so does a run of the block with as much room, under any
line numbers. -/
theorem Block.runFor_follows {b : Block} (wf : b.WellFormed) {m : Machine}
    (stored : m.program.entries.map (·.2) = b.lines) {limit : Nat} {d : Data}
    {fault : Option Fault} (h : b.run limit m.data = some (d, fault)) :
    ∃ count final failure, m.runFor count = some (final, failure) ∧ final.data = d ∧
      EndsWith m.program final failure fault := by
  have laid := m.program.laid
  rw [stored] at laid
  have hf := run_follows wf h m.restarted_stands laid
  cases fault with
  | some f =>
    obtain ⟨last, final, number, hu, turn, located, data, position⟩ := hf
    rw [Nat.zero_add] at located position
    obtain ⟨count, hc⟩ := hu.exists_turns turn
    exact ⟨count, final, _, hc, data, position, number, located, rfl⟩
  | none =>
    obtain ⟨last, hu, hs⟩ := hf
    have length : m.program.lineNumbers.length = b.size := by
      rw [← b.length_lines, ← stored, List.length_map]
      exact List.length_map _
    have behind : last.address[last.position]? = none := by
      rw [hs.address, hs.position, List.getElem?_eq_none_iff]
      omega
    obtain ⟨count, hc⟩ := hu.exists_turns (step_at_end behind)
    obtain ⟨data, stack, address, position, halted, running⟩ := hs.finishRun
    rw [Nat.zero_add, ← length, ← address] at position
    exact ⟨count, _, none, hc, data, rfl, stack, address, position, halted, running⟩

end NumberedBasic
