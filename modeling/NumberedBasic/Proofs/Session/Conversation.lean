import NumberedBasic.Proofs.Session.Containment

/-! # Conversations at the prompt

The prompt and the input statements share one input. Its pieces are used up in order, each as
a line that is handled or as the whole answer to one input statement, and the prompt is shown
once before every line.
-/

namespace NumberedBasic

namespace Text

theorem firstLine_ne_nil {text : Text} (h : text ≠ []) : (firstLine text).1 ≠ [] := by
  cases text with
  | nil => exact absurd rfl h
  | cons c rest =>
    by_cases feed : c = '\n'
    · subst feed
      exact List.cons_ne_nil _ _
    · rw [firstLine_cons feed]
      exact List.cons_ne_nil _ _

end Text

/-- A line that was handled: its piece of the input, the answers to the input statements that
it led to, and the text that was written for it. -/
structure Exchange where
  piece : Text
  answers : List Text
  written : String

namespace Exchange

def pieces (e : Exchange) : List Text :=
  e.piece :: e.answers

end Exchange

/-- How the prompt ends: there is no more input, or a line says goodbye. -/
inductive Ending where
  | silence
  | farewell

/-- The prompt is shown once more before the end of the input is found. -/
def Ending.shown : Ending → String
  | silence => Session.prompt
  | farewell => ""

namespace Session

structure Exchanges (s : Session) (e : Exchange) (heard s' : Session) (turns : Nat)
    (reply : Reply) : Prop where
  next : (s.update (·.write prompt)).nextLine = (some e.piece.dropLineEnd, heard)
  piece : s.machine.console.input.pieces.head? = some e.piece
  answers : e.answers = heard.answersTo turns e.piece.dropLineEnd
  handled : heard.handle turns e.piece.dropLineEnd = some (s', reply)
  written : s'.machine.console.output = heard.machine.console.output ++ e.written

/-- The exchanges at a prompt, one after the other, up to its end. -/
inductive Conversation : Session → List Exchange → Ending → Session → Prop where
  | silence {s : Session} (input : s.machine.console.input = []) :
      Conversation s [] .silence (s.update (·.write prompt))
  | farewell {s heard s' : Session} {e : Exchange} {turns : Nat}
      (last : s.Exchanges e heard s' turns .goodbye) : Conversation s [e] .farewell s'
  | exchange {s heard s' s'' : Session} {e : Exchange} {turns : Nat} {later : List Exchange}
      {ending : Ending} (first : s.Exchanges e heard s' turns .more)
      (others : Conversation s' later ending s'') : Conversation s (e :: later) ending s''

section Lines

variable {s s' : Session} {line : Text} {reply : Reply} {turns : Nat}

theorem nextLine_of_nil (h : s.machine.console.input = []) : s.nextLine = (none, s) := by
  rcases s with ⟨⟨_, _, _, _, _, _, _, _, _, _, _, ⟨_, _, _, _⟩⟩, _, _⟩
  obtain rfl : _ = [] := h
  rfl

theorem nextLine_of_ne_nil (h : s.machine.console.input ≠ []) :
    s.nextLine = (some (Text.firstLine s.machine.console.input).1.dropLineEnd,
      s.update fun m => { m with console := m.console.readLine.2 }) := by
  have some : (Text.firstLine s.machine.console.input).1.isEmpty = false :=
    List.isEmpty_eq_false_iff.mpr (Text.firstLine_ne_nil h)
  simp only [nextLine, Console.readLine, some]
  rfl

theorem handle_talks (h : s.handle turns line = some (s', reply)) :
    s.machine.console.input.pieces =
        s.answersTo turns line ++ s'.machine.console.input.pieces ∧
      ∃ written, s'.machine.console.output = s.machine.console.output ++ written := by
  rw [handle_eq] at h
  obtain ⟨⟨after, upshot⟩, worked, reported⟩ := Option.map_eq_some_iff.mp h
  have talks := work_talks worked
  have same : s'.machine.console.input = after.machine.console.input ∧
      s'.machine.console.output = after.machine.console.output := by
    cases upshot <;> cases reported <;> exact ⟨rfl, rfl⟩
  rw [same.1, same.2]
  exact ⟨talks.input, talks.output⟩

theorem bye_of_goodbye (h : s.handle turns line = some (s', .goodbye)) :
    LineKind.of line = .command .bye := by
  rw [handle_eq] at h
  obtain ⟨⟨after, upshot⟩, worked, reported⟩ := Option.map_eq_some_iff.mp h
  cases upshot <;> cases reported
  exact (justified worked).1

end Lines

variable {s s' heard : Session} {e : Exchange} {exchanges : List Exchange} {ending : Ending}
  {turns count : Nat} {reply : Reply} {line : Text}

theorem exists_exchanges (input : s.machine.console.input ≠ [])
    (next : (s.update (·.write prompt)).nextLine = (some line, heard))
    (handled : heard.handle turns line = some (s', reply)) :
    ∃ e, s.Exchanges e heard s' turns reply := by
  have first := nextLine_of_ne_nil (s := s.update (·.write prompt)) input
  obtain ⟨hl, -⟩ := Prod.mk.inj (next.symm.trans first)
  obtain rfl := Option.some.inj hl
  obtain ⟨-, written, output⟩ := handle_talks handled
  let piece := (Text.firstLine s.machine.console.input).1
  refine ⟨⟨piece, heard.answersTo turns piece.dropLineEnd, written⟩, next, ?_, rfl, handled, output⟩
  rw [Text.pieces_eq input]
  rfl

/-- An exchange uses up its pieces and shows the prompt before all that it writes. -/
theorem Exchanges.spoken (h : s.Exchanges e heard s' turns reply) :
    s.machine.console.input.pieces = e.pieces ++ s'.machine.console.input.pieces ∧
      s'.machine.console.output = s.machine.console.output ++ (prompt ++ e.written) := by
  have input : s.machine.console.input ≠ [] := by
    intro none
    have first := h.piece
    rw [none] at first
    cases first
  have first := nextLine_of_ne_nil (s := s.update (·.write prompt)) input
  obtain ⟨-, rfl⟩ := Prod.mk.inj (h.next.symm.trans first)
  have pieces := Text.pieces_eq input
  have piece : (Text.firstLine s.machine.console.input).1 = e.piece := by
    have head := h.piece
    rw [pieces] at head
    exact Option.some.inj head
  obtain ⟨answered, -⟩ := handle_talks h.handled
  constructor
  · rw [pieces, piece, Exchange.pieces, List.cons_append, h.answers]
    exact congrArg _ answered
  · rw [h.written, ← String.append_assoc]
    rfl

def transcript : List Exchange → String
  | [] => ""
  | e :: later => prompt ++ e.written ++ transcript later

namespace Conversation

theorem pieces_eq (h : Conversation s exchanges ending s') :
    s.machine.console.input.pieces =
      exchanges.flatMap Exchange.pieces ++ s'.machine.console.input.pieces := by
  induction h with
  | silence input => rfl
  | farewell last => simpa using last.spoken.1
  | exchange first others ih =>
    rw [first.spoken.1, ih, List.flatMap_cons, List.append_assoc]

theorem output_eq (h : Conversation s exchanges ending s') :
    s'.machine.console.output =
      s.machine.console.output ++ (transcript exchanges ++ ending.shown) := by
  induction h with
  | silence input => rfl
  | farewell last =>
    rw [last.spoken.2, transcript, transcript, Ending.shown]
    simp only [String.append_empty]
  | exchange first others ih =>
    rw [ih, first.spoken.2, transcript]
    simp only [String.append_assoc]

/-- Only a goodbye leaves a part of the input unread. -/
theorem ending_cases (h : Conversation s exchanges ending s') :
    ending = .silence ∧ s'.machine.console.input = [] ∨
      ending = .farewell ∧ ∃ e, exchanges.getLast? = some e ∧
        LineKind.of e.piece.dropLineEnd = .command .bye := by
  induction h with
  | silence input => exact .inl ⟨rfl, input⟩
  | farewell last => exact .inr ⟨rfl, _, rfl, bye_of_goodbye last.handled⟩
  | exchange first others ih =>
    rcases ih with ⟨rfl, input⟩ | ⟨rfl, e, last, bye⟩
    · exact .inl ⟨rfl, input⟩
    · refine .inr ⟨rfl, e, ?_, bye⟩
      rw [List.getLast?_cons, last]
      rfl

end Conversation

theorem exists_conversation (h : s.loop count = some (s', none)) :
    ∃ exchanges ending, Conversation s exchanges ending s' := by
  induction count generalizing s with
  | zero => cases h
  | succ count ih =>
    rw [loop] at h
    by_cases input : s.machine.console.input = []
    · rw [nextLine_of_nil (s := s.update (·.write prompt)) input] at h
      cases h
      exact ⟨[], .silence, .silence input⟩
    · have next := nextLine_of_ne_nil (s := s.update (·.write prompt)) input
      rw [next] at h
      dsimp only at h
      split at h
      · cases h
      · rename_i after handled
        obtain ⟨e, first⟩ := exists_exchanges input next handled
        obtain ⟨exchanges, ending, others⟩ := ih h
        exact ⟨e :: exchanges, ending, .exchange first others⟩
      · rename_i after handled
        cases h
        obtain ⟨e, last⟩ := exists_exchanges input next handled
        exact ⟨[e], .farewell, .farewell last⟩
      · cases h

/-- A prompt that ends without trouble has used up a first part of its input, in order: every
piece is the line of an exchange or an answer to an input statement that the line led to. The
rest is left by a goodbye. The prompt is shown before each line, and once more at the end of
the input. -/
theorem loop_reads_in_order (h : s.loop count = some (s', none)) :
    ∃ exchanges ending, Conversation s exchanges ending s' ∧
      s.machine.console.input.pieces =
        exchanges.flatMap Exchange.pieces ++ s'.machine.console.input.pieces ∧
      s'.machine.console.output =
        s.machine.console.output ++ (transcript exchanges ++ ending.shown) ∧
      (ending = .silence ∧ s'.machine.console.input = [] ∨
        ending = .farewell ∧ ∃ e, exchanges.getLast? = some e ∧
          LineKind.of e.piece.dropLineEnd = .command .bye) := by
  obtain ⟨exchanges, ending, conversation⟩ := exists_conversation h
  exact ⟨exchanges, ending, conversation, conversation.pieces_eq, conversation.output_eq,
    conversation.ending_cases⟩

/-- An input statement takes the piece behind its own line, and what stands behind a goodbye
is left for others. -/
theorem loop_leaves_rest :
    let script : Text :=
      ['I', 'N', 'P', 'U', 'T', ' ', 'A', '\n', '5', '\n', 'B', 'Y', 'E', '\n', 'x']
    let s : Session := ⟨.fresh 0 0 (.ofInput script), ⟨[], Table.empty⟩, 0⟩
    ∃ s' exchanges, s.loop 3 = some (s', none) ∧ Conversation s exchanges .farewell s' ∧
      script.pieces = exchanges.flatMap Exchange.pieces ++ [['x']] ∧
      s'.machine.variables.get? ['a'] = some 5 := by
  intro script s
  have outcome : (s.loop 3).any (fun ended => decide (ended.2 = none) &&
      ended.1.machine.console.input == ['x'] &&
      ended.1.machine.variables.get? ['a'] == some 5) = true := by
    decide +kernel
  obtain ⟨⟨s', trouble⟩, looped, facts⟩ := (Option.any_eq_true _ _).mp outcome
  simp only [Bool.and_eq_true, decide_eq_true_eq, beq_iff_eq, and_assoc] at facts
  obtain ⟨rfl, rest, answered⟩ := facts
  obtain ⟨exchanges, ending, conversation, pieces, -, ended⟩ := loop_reads_in_order looped
  rw [rest] at pieces ended
  rcases ended with ⟨-, none⟩ | ⟨rfl, -⟩
  · cases none
  · exact ⟨s', exchanges, looped, conversation, pieces, answered⟩

end Session

end NumberedBasic
