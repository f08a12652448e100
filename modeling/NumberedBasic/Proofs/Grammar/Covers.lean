import NumberedBasic.Proofs.Grammar.Find
import NumberedBasic.Proofs.Grammar.Parse
import NumberedBasic.Proofs.Grammar.Phrase

/-! # What evaluations cover

Between two readings stand words, which a valuation has led over with a value. Coverings
follow each other as evaluations do, and blanks between them do not matter.
-/

namespace NumberedBasic

open Text

theorem Operator.value_of_apply {o : Operator} {a b c : Number} (h : o.apply a b = .ok c) :
    o.value a b = pure c := by
  cases o with
  | or =>
    cases h
    simp only [value]
    cases a.isZero <;> cases b.isZero <;> rfl
  | and =>
    cases h
    simp only [value]
    cases a.isZero <;> cases b.isZero <;> rfl
  | per =>
    simp only [apply] at h
    simp only [value]
    split at h
    · cases h
    · rename_i hz
      cases h
      rw [if_neg hz]
  | plus | minus | times =>
    cases h
    rfl

theorem Valuation.bind_of_ok {α β : Type} {m : Valuation α} {k : α → Valuation β}
    {context : Context} {g g' : Generator} {a : α} (h : m context g = .ok a g') :
    (m >>= k) context g = k a context g' := by
  change EStateM.bind (m context) (fun a => k a context) g = _
  simp only [EStateM.bind, h]

structure Reading.Still (r s : Reading) : Prop where
  generator : s.generator = r.generator
  room : s.room = r.room

theorem Reading.Still.refl (r : Reading) : r.Still r :=
  ⟨rfl, rfl⟩

namespace Eval

section Covers

variable {α β : Type} {context : Context} {r s t : Reading}

/-- The words stand between two readings, which a valuation of them has led from one to the
other with a value. -/
structure Covers (context : Context) (r s : Reading) (words : List Text) (m : Valuation α)
    (a : α) : Prop where
  spaced : ∃ text, r.cursor.Passes text s.cursor ∧ Spaced words text
  value : m context r.generator = .ok a s.generator
  room : s.room = r.room

namespace Covers

variable {words words' : List Text} {m : Valuation α} {k : α → Valuation β} {a : α} {b : β}

theorem pure_of_spaced {text : Text} (passes : r.cursor.Passes text s.cursor)
    (spaced : Spaced words text) (still : r.Still s) (a : α) :
    Covers context r s words (pure a) a :=
  ⟨⟨text, passes, spaced⟩, congrArg (EStateM.Result.ok a) still.generator.symm, still.room⟩

theorem word {w : Text} (found : r.cursor.Finds w s.cursor) (still : r.Still s)
    (a : α) : Covers context r s [w] (pure a) a := by
  obtain ⟨blanks, blank, passes⟩ := found
  exact pure_of_spaced passes (.single blank w) still a

theorem skip (skips : r.cursor.Skips s.cursor) (still : r.Still s) (a : α) :
    Covers context r s [] (pure a) a := by
  obtain ⟨blanks, blank, passes⟩ := skips
  exact pure_of_spaced passes ((List.append_nil blanks).symm ▸ .nil blank) still a

theorem bind (h : Covers context r s words m a) (h' : Covers context s t words' (k a) b) :
    Covers context r t (words ++ words') (m >>= k) b := by
  obtain ⟨⟨text, passes, spaced⟩, value, room⟩ := h
  obtain ⟨⟨text', passes', spaced'⟩, value', room'⟩ := h'
  exact ⟨⟨text ++ text', passes.trans passes', spaced.append spaced'⟩,
    (Valuation.bind_of_ok value).trans value', room'.trans room⟩

theorem known {m : Valuation β} (h : Covers context r s words (pure a) a)
    (h' : Covers context s t words' m b) : Covers context r t (words ++ words') m b := by
  have both : Covers context r t (words ++ words') (pure a >>= fun _ => m) b := h.bind h'
  rwa [pure_bind] at both

theorem skipped {m : Valuation β} (skips : r.cursor.Skips s.cursor)
    (still : r.Still s) (h : Covers context s t words m b) :
    Covers context r t words m b :=
  (skip skips still ()).known h

theorem andThen (h : Covers context r s words m a) (h' : Covers context s t [] (k a) b) :
    Covers context r t words (m >>= k) b := by
  have both : Covers context r t (words ++ []) (m >>= k) b := h.bind h'
  rwa [List.append_nil] at both

theorem map (h : Covers context r s words m a) (f : α → β) :
    Covers context r s words (do return f (← m)) (f a) :=
  h.andThen (skip (.refl _) (.refl s) (f a))

theorem followed (h : Covers context r s words m a) (skips : s.cursor.Skips t.cursor)
    (still : s.Still t) : Covers context r t words m a := by
  have both : Covers context r t words (m >>= pure) a := h.andThen (skip skips still a)
  rwa [bind_pure] at both

end Covers

end Covers

section Steps

variable {α : Type} {context : Context} {r s : Reading}

theorem scan_eq_ok_iff {matcher : Cursor → α × Cursor} {a : α} :
    scan matcher context r = .ok a s ↔
      matcher r.cursor = (a, s.cursor) ∧ r.Still s := by
  constructor
  · intro h
    cases h
    exact ⟨rfl, rfl, rfl⟩
  · rintro ⟨hm, generator, room⟩
    obtain ⟨c, g, room'⟩ := s
    cases generator
    cases room
    simp only [scan, hm]

theorem closeParenthesis_finds {u : Unit} (h : closeParenthesis context r = .ok u s) :
    r.cursor.Finds [')'] s.cursor ∧ r.Still s := by
  obtain ⟨found, t, ht, h⟩ := bind_eq_ok_iff.mp h
  obtain ⟨hm, still⟩ := scan_eq_ok_iff.mp ht
  obtain ⟨rfl, rfl⟩ := require_eq_ok_iff.mp h
  exact ⟨Cursor.literal_finds hm, still⟩

theorem sign_covers {negative : Bool} (h : sign context r = .ok negative s) :
    ∃ s' : Sign, s'.negative = negative ∧ Covers context r s s'.words (pure ()) () := by
  obtain ⟨found, t, ht, h⟩ := bind_eq_ok_iff.mp h
  obtain ⟨hm, still⟩ := scan_eq_ok_iff.mp ht
  cases found with
  | true =>
    cases h
    exact ⟨.minus, rfl, .word (Cursor.literal_finds hm) still ()⟩
  | false =>
    obtain ⟨skips, -⟩ := Cursor.literal_skips hm
    obtain ⟨_, u, hu, h⟩ := bind_eq_ok_iff.mp h
    cases h
    have hu : (literal ['+'] >>= fun _ => pure ()) context t = .ok () s := hu
    obtain ⟨plus, v, hv, h⟩ := bind_eq_ok_iff.mp hu
    cases h
    obtain ⟨hm', still'⟩ := scan_eq_ok_iff.mp hv
    cases plus with
    | true => exact ⟨.plus, rfl, .skipped skips still (.word (Cursor.literal_finds hm') still' ())⟩
    | false =>
      obtain ⟨skips', -⟩ := Cursor.literal_skips hm'
      exact ⟨.absent, rfl, .skipped skips still (.skip skips' still' ())⟩

theorem call_covers {b : Builtin} {arguments : List Number} {value : Number}
    (h : call b arguments context r = .ok value s) :
    Covers context r s [] (Valuation.call b arguments) value := by
  rcases hb : b.call context.clock arguments r.generator with ⟨outcome, g⟩
  simp only [call, hb] at h
  cases outcome with
  | error cause => cases h
  | ok a =>
    cases h
    refine ⟨⟨[], .refl _, .nil (List.forall_mem_nil _)⟩, ?_, rfl⟩
    simp only [Valuation.call, hb]

theorem extend?_none {operator : Cursor → Option Operator × Cursor} {operand : Eval Number}
    {left : Number} (h : extend? operator operand left context r = .ok none s) :
    operator r.cursor = (none, s.cursor) ∧ r.Still s := by
  obtain ⟨found, t, ht, h⟩ := bind_eq_ok_iff.mp h
  cases found with
  | none =>
    cases h
    exact scan_eq_ok_iff.mp ht
  | some o =>
    obtain ⟨right, u, -, h⟩ := bind_eq_ok_iff.mp h
    obtain ⟨value, v, -, h⟩ := bind_eq_ok_iff.mp h
    cases h

theorem extend?_some {operator : Cursor → Option Operator × Cursor} {operand : Eval Number}
    {left value : Number} (h : extend? operator operand left context r = .ok (some value) s) :
    ∃ o t right, operator r.cursor = (some o, t.cursor) ∧ r.Still t ∧
      operand context t = .ok right s ∧ o.apply left right = .ok value := by
  obtain ⟨found, t, ht, h⟩ := bind_eq_ok_iff.mp h
  cases found with
  | none => cases h
  | some o =>
    obtain ⟨right, u, hu, h⟩ := bind_eq_ok_iff.mp h
    obtain ⟨value', v, hv, h⟩ := bind_eq_ok_iff.mp h
    obtain ⟨applied, rfl⟩ := ofExcept_ok hv
    cases h
    obtain ⟨hm, still⟩ := scan_eq_ok_iff.mp ht
    exact ⟨o, t, right, hm, still, hu, applied⟩

end Steps

end Eval

end NumberedBasic
