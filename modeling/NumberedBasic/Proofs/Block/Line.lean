import NumberedBasic.Proofs.Block.Meaning
import NumberedBasic.Proofs.Run.Turn
import NumberedBasic.Table.Lookup

/-! # Lines of blocks on the machine

A turn of a run does to the data what the meaning of its line says. Heads and feet
of loops push and drop frames besides, and lead back to the position of a frame.
-/

namespace NumberedBasic

open Machine

namespace Data

variable {α : Type} {x : Exec α} {text : Text} {d d' : Data} {m : Machine}

/-- An execution from the start of a line does to any machine what it makes of the data. -/
theorem LocalAt.start_eq (hx : ∀ room, x.LocalAt (.start text) room) (hm : m.data = d) :
    x (.start m text) = Exec.carry m (x (.start ((fresh 0 0 (.ofInput [])).holding d) text)) := by
  subst hm
  exact hx (m.room + 14) m (fresh 0 0 (.ofInput [])) m.data

theorem perform_ok {a : α} (hx : ∀ room, x.LocalAt (.start text) room) (hm : m.data = d.look)
    (h : d.perform x text = (d', .ok a)) :
    ∃ c room, x (.start m text) = .ok a ⟨m.holding d', c, room⟩ := by
  have hc := LocalAt.start_eq hx hm
  unfold perform at h
  split at h
  · rename_i hr
    cases h
    rw [hr] at hc
    exact ⟨_, _, hc⟩
  · cases h

theorem perform_error {cause : Cause} {column : Nat} (hx : ∀ room, x.LocalAt (.start text) room)
    (hm : m.data = d.look) (h : d.perform x text = (d', .error (cause, column))) :
    ∃ (c : Cursor) (room : Nat),
      x (.start m text) = .error cause ⟨m.holding d', c, room⟩ ∧ c.column = column := by
  have hc := LocalAt.start_eq hx hm
  unfold perform at h
  split at h
  · cases h
  · rename_i hr
    cases h
    rw [hr] at hc
    exact ⟨_, _, hc, rfl⟩

end Data

/-- A run of a program stands at a position of its table, with a stack and data. -/
structure Stands (p : Program) (address : List Int) (m : Machine) (position : Nat)
    (stack : ControlStack Nat) (d : Data) : Prop where
  program : m.program = p
  address : m.address = address
  position : m.position = position
  stack : m.stack = stack
  data : m.data = d
  running : m.running = true
  halted : m.halted = false

def LineAt (p : Program) (address : List Int) (position : Nat) (text : Text) : Prop :=
  ∃ number, address[position]? = some number ∧ p.get? number = some text

namespace Stands

variable {p : Program} {address : List Int} {m : Machine} {position : Nat}
  {stack : ControlStack Nat} {d d' : Data} {text : Text}

theorem holding (h : Stands p address m position stack d) (d' : Data) :
    Stands p address (m.holding d') position stack d' :=
  ⟨h.program, h.address, h.position, h.stack, rfl, h.running, h.halted⟩

theorem assign (h : Stands p address m position stack d) (name : Text) (value : Number) :
    Stands p address (m.assign name value) position stack
      { d with «variables» := d.variables.insert name value } :=
  ⟨h.program, h.address, h.position, h.stack, by rw [← h.data]; rfl, h.running, h.halted⟩

theorem goTo (h : Stands p address m position stack d) (position' : Nat) :
    Stands p address { m with position := position' } position' stack d :=
  ⟨h.program, h.address, rfl, h.stack, h.data, h.running, h.halted⟩

theorem restack (h : Stands p address m position stack d) (stack' : ControlStack Nat) :
    Stands p address { m with stack := stack' } position stack' d :=
  ⟨h.program, h.address, h.position, rfl, h.data, h.running, h.halted⟩

theorem taken (h : Stands p address m position stack d) (number : Int) :
    Stands p address (m.taken number) (position + 1) stack d.look := by
  obtain ⟨rfl, rfl, rfl, rfl, rfl, running, halted⟩ := h
  obtain ⟨errors, ht⟩ := m.exists_taken_eq number
  rw [ht]
  exact ⟨rfl, rfl, rfl, rfl, rfl, running, halted⟩

theorem turn (h : Stands p address m position stack d) (line : LineAt p address position text) :
    ∃ number m', address[position]? = some number ∧
      Stands p address m' (position + 1) stack d.look ∧
      m.step = .ofResult number (Statement.execute (.start m' text)) := by
  obtain ⟨number, next, stored⟩ := line
  refine ⟨number, m.taken number, next, h.taken number, ?_⟩
  rw [step_of_taken h.halted (by rw [h.address, h.position, next]),
    executeLine_of_some (by rw [h.program, stored])]

end Stands

namespace Block

open Exec Statement

variable {text : Text} {k : Keyword} {m : Machine}

theorem keyword_of_word {context : Context} {generator : Generator} {room : Nat} {word : Text}
    {c c' : Cursor} (hw : c.skipBlanks.word = (some word, c'))
    (hk : Keyword.ofWord? word = some k) :
    keyword context ⟨c, generator, room⟩ = .ok k ⟨c', generator, room⟩ := by
  have scanned : Eval.scan Cursor.word context ⟨c.skipBlanks, generator, room⟩ =
      .ok (some word) ⟨c', generator, room⟩ := by
    simp only [Eval.scan, hw]
  refine (Eval.bind_of_ok (e := Eval.skipBlanks) rfl _).trans ((Eval.bind_of_ok scanned _).trans ?_)
  simp only [hk]
  rfl

/-- Whether a line begins with a keyword can be seen from its first word. -/
theorem Opens.of_word {word : Text} (hw : (Cursor.start text).skipBlanks.word.1 = some word)
    (hk : Keyword.ofWord? word = some k) : Opens k text :=
  fun _ _ _ => ⟨_, keyword_of_word (Prod.ext hw rfl) hk⟩

theorem Names.of_word {word name : Text} (hw : (Cursor.start text).skipBlanks.word.1 = some word)
    (hk : Keyword.ofWord? word = some k)
    (hn : (Cursor.start text).skipBlanks.word.2.demandIdentifier.1 = .ok name) :
    Names k name text := by
  intro context generator room
  generalize hc : (Cursor.start text).skipBlanks.word.2 = c at hn
  have named : c.demandIdentifier = (.ok name, c.demandIdentifier.2) := Prod.ext hn rfl
  refine ⟨c, c.demandIdentifier.2, keyword_of_word (Prod.ext hw hc) hk, ?_⟩
  rw [Eval.name, Eval.scanStrictly, named]

theorem select_of_keyword {context : Context} {r r' : Reading}
    (hk : keyword context r = .ok k r') (hc : k ≠ .condition) :
    select context r = .ok (some k) r' := by
  refine Eval.bind_of_ok hk _ |>.trans ?_
  cases k <;> first | rfl | exact absurd rfl hc

theorem Opens.execute_eq (h : Opens k text) (hk : k ≠ .condition) :
    execute (.start m text) =
      (evaluate keyword >>= fun _ => perform (some k)) (.start m text) := by
  let s : Execution := .start m text
  obtain ⟨c, hc⟩ := h m.context m.generator s.room
  have keyword : evaluate keyword s = .ok k (s.moved ⟨c, m.generator, s.room⟩) := evaluate_of_ok hc
  have select : evaluate select s = .ok (some k) (s.moved ⟨c, m.generator, s.room⟩) :=
    evaluate_of_ok (select_of_keyword hc hk)
  rw [Statement.execute_eq, bind_of_ok select, bind_of_ok keyword]

theorem Opens.plain (h : Opens k text) (hp : k.isPlain = true) : Plain text := by
  obtain ⟨c, hc⟩ := h ⟨Table.empty, 0⟩ default 0
  have select := select_of_keyword hc (by rintro rfl; cases hp)
  exact .of_selected (selected_eq_some_iff.mpr ⟨_, select⟩) hp

theorem Names.opens {name : Text} (h : Names k name text) : Opens k text := by
  intro context generator room
  obtain ⟨c, -, hc, -⟩ := h context generator room
  exact ⟨c, hc⟩

theorem count_eq_header : (evaluate keyword >>= fun _ => perform (some .count)) =
    header >>= fun (_, limit, step) => push (.count step limit) := by
  have hc : perform (some .count) = count := rfl
  simp only [hc, count_eq, header, liftM_eq, bind_assoc, pure_bind]

theorem header_local : header.Local := by
  refine (Local.evaluate _).bind fun _ => (Local.evaluate _).bind fun _ =>
    (Local.change fun _ _ _ => rfl).bind fun _ => (Local.evaluate _).bind fun _ => .pure _

theorem footer_local : footer.Local :=
  (Local.evaluate _).bind fun _ => .evaluate _

theorem Names.execute_next {name : Text} {previous step limit : Number} {position : Nat}
    {stack : ControlStack Nat} (h : Names .next name text)
    (bound : m.variables.get? name = some previous)
    (top : m.stack = .count step limit position :: stack) :
    let m' := m.assign name (previous.add step)
    ∃ c, execute (.start m text) = .ok ()
      ⟨if isPast (previous.add step) step limit then { m' with stack } else { m' with position },
        c, m.room + 14⟩ := by
  obtain ⟨c, c', hk, hn⟩ := h m.context m.generator (m.room + 14)
  have found : m.stack.top Frame.count? "NEXT without FOR" = .ok (step, limit, position) :=
    ControlStack.top_eq_ok_iff.mpr ⟨_, stack, top, rfl⟩
  refine ⟨c', ?_⟩
  have keyword : evaluate keyword (.start m text) = .ok .next ⟨m, c, m.room + 14⟩ :=
    evaluate_still hk
  have named : evaluate Eval.name ⟨m, c, m.room + 14⟩ = .ok name ⟨m, c', m.room + 14⟩ :=
    evaluate_still hn
  have value : evaluate (Eval.valueOf? name) ⟨m, c', m.room + 14⟩ =
      .ok (some previous) ⟨m, c', m.room + 14⟩ := by
    rw [← bound]
    rfl
  rw [h.opens.execute_eq nofun, bind_of_ok keyword]
  refine (bind_of_ok named _).trans ((bind_of_ok value _).trans ?_)
  dsimp only
  rw [bind_of_ok machine_apply, found]
  refine (bind_of_ok (pure_apply _) _).trans ?_
  dsimp only
  rw [bind_of_ok (change_apply _)]
  have tail : stack = m.stack.tail := by rw [top, List.tail_cons]
  split
  · rw [tail]
    rfl
  · rfl

theorem Opens.execute_enter (h : Opens .enter text) :
    ∃ c, execute (.start m text) =
      .ok () ⟨{ m with stack := .repetition m.position :: m.stack }, c, m.room + 14⟩ := by
  obtain ⟨c, hk⟩ := h m.context m.generator (m.room + 14)
  have keyword : evaluate keyword (.start m text) = .ok .enter ⟨m, c, m.room + 14⟩ :=
    evaluate_still hk
  refine ⟨c, ?_⟩
  rw [h.execute_eq nofun, bind_of_ok keyword]
  rfl

/-- What the foot of a loop does once it knows whether to go on. -/
theorem close_eq_footer : (evaluate keyword >>= fun _ => perform (some .close)) =
    footer >>= fun again => machine >>= fun m =>
      Exec.ofExcept (m.stack.top Frame.repetition? "LOOP without DO") >>= fun position =>
        if again then goTo position else change fun m => { m with stack := m.stack.tail } := by
  have hc : perform (some .close) = closeLoop := rfl
  simp only [hc, closeLoop, footer, liftM_eq, bind_assoc]

theorem Opens.execute_close {again : Bool} {s : Execution} {position : Nat}
    {stack : ControlStack Nat} (h : Opens .close text)
    (hf : footer (.start m text) = .ok again s)
    (top : s.machine.stack = .repetition position :: stack) :
    execute (.start m text) = .ok () { s with
      machine := if again then { s.machine with position } else { s.machine with stack } } := by
  have found : s.machine.stack.top Frame.repetition? "LOOP without DO" = .ok position :=
    ControlStack.top_eq_ok_iff.mpr ⟨_, stack, top, rfl⟩
  rw [h.execute_eq nofun, close_eq_footer, bind_of_ok hf, bind_of_ok machine_apply, found]
  refine (bind_of_ok (pure_apply _) _).trans ?_
  cases again with
  | true => rfl
  | false =>
    simp only [Bool.false_eq_true, if_false, change_apply, top, List.tail_cons]

end Block

namespace Stands

variable {p : Program} {address : List Int} {m : Machine} {position : Nat}
  {stack : ControlStack Nat} {d d' : Data} {text : Text}

theorem turn_going (h : Stands p address m position stack d)
    (line : LineAt p address position text) {q : Machine → Prop}
    (executed : ∀ m', Stands p address m' (position + 1) stack d.look →
      ∃ m'' c room, Statement.execute (.start m' text) = .ok () ⟨m'', c, room⟩ ∧ q m'') :
    ∃ m', m.step = .going m' ∧ q m' := by
  obtain ⟨number, m', -, hs, step⟩ := h.turn line
  obtain ⟨m'', c, room, he, hq⟩ := executed m' hs
  exact ⟨m'', by rw [step, he]; rfl, hq⟩

theorem turn_ended (h : Stands p address m position stack d)
    (line : LineAt p address position text) {cause : Cause} {column : Nat}
    (executed : ∀ m', Stands p address m' (position + 1) stack d.look →
      ∃ (c : Cursor) (room : Nat),
        Statement.execute (.start m' text) = .error cause ⟨m'.holding d', c, room⟩ ∧
          c.column = column) :
    ∃ final number, m.step = .ended final (some ⟨cause, number, column⟩) ∧
      address[position]? = some number ∧ final.data = d' ∧ final.position = position + 1 := by
  obtain ⟨number, m', next, hs, step⟩ := h.turn line
  obtain ⟨c, room, he, rfl⟩ := executed m' hs
  obtain ⟨errors, ha⟩ := (m'.holding d').exists_abortRun_eq cause number c.column
  rw [he] at step
  exact ⟨_, number, step.trans ha, next, rfl, hs.position⟩

/-- The foot of a counted loop advances the variable, and leads back to the position of the frame
or drops the frame. -/
theorem next_turn {name : Text} {previous step limit : Number} {start : Nat}
    (names : Block.Names .next name text) (line : LineAt p address position text)
    (h : Stands p address m position (.count step limit start :: stack) d)
    (bound : d.variables.get? name = some previous) :
    let value := previous.add step
    let d' := { d.look with «variables» := d.variables.insert name value }
    ∃ m', m.step = .going m' ∧
      (Statement.isPast value step limit = true ∧ Stands p address m' (position + 1) stack d' ∨
        Statement.isPast value step limit = false ∧
          Stands p address m' start (.count step limit start :: stack) d') := by
  intro value d'
  refine h.turn_going line fun m' h' => ?_
  have kept : m'.variables = d.variables := congrArg Data.variables h'.data
  obtain ⟨c, he⟩ := names.execute_next (kept ▸ bound) h'.stack
  by_cases past : Statement.isPast value step limit = true
  · rw [if_pos past] at he
    exact ⟨_, c, _, he, .inl ⟨past, (h'.assign name value).restack stack⟩⟩
  · rw [if_neg past] at he
    exact ⟨_, c, _, he, .inr ⟨Bool.eq_false_iff.mpr past, (h'.assign name value).goTo start⟩⟩

end Stands

end NumberedBasic
