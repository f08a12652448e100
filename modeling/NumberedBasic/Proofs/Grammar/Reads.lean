import NumberedBasic.Proofs.Grammar.Level

/-! # Evaluations that read tokens

An evaluation reads some tokens for a valuation if it computes the same from their
spelling, fails as it fails, and leaves the tokens behind them ahead.
-/

namespace NumberedBasic

namespace Eval

variable {α β : Type} {tokens tokens' ts : List Token}

/-- The same value, random numbers and cause, with the tokens ahead after a value. -/
inductive Agrees (ts : List Token) (room : Nat) :
    EStateM.Result Cause Generator α → EStateM.Result Cause Reading α → Prop where
  | ok {a : α} {g : Generator} {c : Cursor} (rest : Spelled ts c.rest) :
      Agrees ts room (.ok a g) (.ok a ⟨c, g, room⟩)
  | error {cause : Cause} {g : Generator} {c : Cursor} :
      Agrees ts room (.error cause g) (.error cause ⟨c, g, room⟩)

def Reads (e : Eval α) (tokens ts : List Token) (m : Valuation α) : Prop :=
  ∀ (context : Context) (c : Cursor) (g : Generator) (room : Nat),
    Spelled (tokens ++ ts) c.rest → Agrees ts room (m context g) (e context ⟨c, g, room⟩)

namespace Reads

variable {e : Eval α} {m : Valuation α} {a : α}

theorem pure (a : α) : Reads (pure a) [] ts (pure a) :=
  fun _ _ _ _ hc => .ok hc

theorem throw (cause : Cause) : Reads (throw cause : Eval α) tokens ts (throw cause) :=
  fun _ _ _ _ _ => .error

theorem bind {f : α → Eval β} {k : α → Valuation β} (he : Reads e tokens (tokens' ++ ts) m)
    (hf : ∀ a, Reads (f a) tokens' ts (k a)) :
    Reads (e >>= f) (tokens ++ tokens') ts (m >>= k) := by
  intro context c g room hc
  rw [List.append_assoc] at hc
  have h := he context c g room hc
  change Agrees ts room (EStateM.bind (m context) (fun a => k a context) g)
    (EStateM.bind (e context) (fun a => f a context) ⟨c, g, room⟩)
  unfold EStateM.bind
  generalize m context g = x at h ⊢
  generalize e context ⟨c, g, room⟩ = y at h ⊢
  cases h with
  | ok rest => exact hf _ _ _ _ _ rest
  | error => exact .error

theorem known {f : α → Eval β} {m : Valuation β} (he : Reads e tokens (tokens' ++ ts) (Pure.pure a))
    (hf : Reads (f a) tokens' ts m) : Reads (e >>= f) (tokens ++ tokens') ts m := by
  intro context c g room hc
  rw [List.append_assoc] at hc
  have h : Agrees (tokens' ++ ts) room (.ok a g) (e context ⟨c, g, room⟩) := he context c g room hc
  cases hy : e context ⟨c, g, room⟩ with
  | ok b r =>
    rw [hy] at h
    cases h with
    | ok rest =>
      rw [bind_of_ok hy]
      exact hf _ _ _ _ rest
  | error cause r =>
    rw [hy] at h
    cases h

theorem andThen {f : α → Eval β} {k : α → Valuation β} (he : Reads e tokens ts m)
    (hf : ∀ a, Reads (f a) [] ts (k a)) : Reads (e >>= f) tokens ts (m >>= k) := by
  have h : Reads (e >>= f) (tokens ++ []) ts (m >>= k) := he.bind hf
  rwa [List.append_nil] at h

theorem map (he : Reads e tokens ts m) (f : α → β) :
    Reads (do return f (← e)) tokens ts (do return f (← m)) :=
  he.andThen fun a => .pure (f a)

theorem skip {f : α → Eval β} {m : Valuation β} (he : Reads e [] (tokens ++ ts) (Pure.pure a))
    (hf : Reads (f a) tokens ts m) : Reads (e >>= f) tokens ts m :=
  he.known hf

theorem token {t : Token} {f : α → Eval β} {m : Valuation β}
    (he : Reads e [t] (tokens ++ ts) (Pure.pure a)) (hf : Reads (f a) tokens ts m) :
    Reads (e >>= f) (t :: tokens) ts m :=
  he.known hf

theorem discard (he : Reads e tokens ts (Pure.pure a)) :
    Reads (discard e) tokens ts (Pure.pure ()) := by
  have h : Reads (do let _ ← e; Pure.pure ()) (tokens ++ []) ts (Pure.pure ()) :=
    he.known (.pure ())
  rwa [List.append_nil] at h

theorem of_scans {matcher : Cursor → α × Cursor} (h : Cursor.Scans matcher tokens ts a) :
    Reads (scan matcher) tokens ts (Pure.pure a) := by
  intro context c g room hc
  obtain ⟨d, hm, hd⟩ := h.exists_eq hc
  have hs : scan matcher context ⟨c, g, room⟩ = .ok a ⟨d, g, room⟩ := by simp only [scan, hm]
  rw [hs]
  exact .ok hd

end Reads

section Primaries

theorem reads_lookup (key : Text) (s : Sign) :
    Reads (do
      match ← valueOf? key with
      | some value => return if s.negative then value.neg else value
      | none => throw (.unknownVariable key)) [] ts
        (do return s.apply (← Valuation.lookup key)) := by
  intro context c g room hc
  have hv : valueOf? key context ⟨c, g, room⟩ = .ok (context.variables.get? key) ⟨c, g, room⟩ := rfl
  rw [bind_of_ok hv]
  change Agrees ts room
    (EStateM.bind (Valuation.lookup key context) (fun a => pure (s.apply a)) g) _
  unfold EStateM.bind Valuation.lookup
  cases context.variables.get? key with
  | none => exact .error
  | some value => exact .ok hc

theorem reads_call (b : Builtin) (arguments : List Number) :
    Reads (call b arguments) [] ts (Valuation.call b arguments) := by
  intro context c g room hc
  unfold call Valuation.call
  cases hb : b.call context.clock arguments g with
  | mk result g' =>
    cases result with
    | ok value => simpa only [hb] using .ok hc
    | error cause => simpa only [hb] using .error

theorem reads_sign (s : Sign) (hm : .operator .minus ∉ ts.head?) (hp : .operator .plus ∉ ts.head?) :
    Reads sign s.tokens ts (pure s.negative) := by
  unfold sign
  cases s with
  | absent =>
    have hm : Reads (literal ['-']) [] ts (pure false) :=
      .of_scans (Cursor.scans_literal_char_miss (t := .operator .minus) rfl nofun hm)
    have hp : Reads (literal ['+']) [] ts (pure false) :=
      .of_scans (Cursor.scans_literal_char_miss (t := .operator .plus) rfl nofun hp)
    exact .skip hm (.skip hp.discard (.pure false))
  | plus =>
    have hm : Reads (literal ['-']) [] (.operator .plus :: ts) (pure false) :=
      .of_scans (Cursor.scans_literal_char_miss (t := .operator .minus) rfl nofun (by simp))
    have hp : Reads (literal ['+']) [.operator .plus] ts (pure true) :=
      .of_scans (Cursor.scans_literal rfl)
    exact .skip hm (.token hp.discard (.pure false))
  | minus =>
    have hm : Reads (literal ['-']) [.operator .minus] ts (pure true) :=
      .of_scans (Cursor.scans_literal rfl)
    exact .token hm (.pure true)

theorem reads_closeParenthesis : Reads closeParenthesis [.closing] ts (pure ()) := by
  have hc : Reads (literal [')']) [.closing] ts (pure true) := .of_scans (Cursor.scans_literal rfl)
  exact .token hc (.pure ())

end Primaries

end Eval

end NumberedBasic
