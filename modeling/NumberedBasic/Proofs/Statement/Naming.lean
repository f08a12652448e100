import NumberedBasic.Proofs.Statement.Echo

/-! # Names that were assigned

An assignment takes letters and digits behind a letter for a name, and so does every factor. Only
the letters at the beginning of an operand are looked at once more before, and taken for `not` if
they are it. A name is therefore read back with its value wherever an arithmetic expression is
expected, and wherever any expression is unless its letters up to the first digit are `not`: then
nothing but a truth value is read.
-/

namespace NumberedBasic

open Text

namespace Eval

variable {context : Context} {r s : Reading} {value : Number}

theorem extend?_logical {o : Operator} (ho : o = .or ∨ o = .and) {expected : Text}
    {operand : Eval Number} {left : Number} {found : Option Number}
    (h : extend? (Cursor.logical o expected) operand left context r = .ok found s) :
    found = none ∨ ∃ truth, found = some (Number.ofTruth truth) := by
  obtain ⟨o', t, ht, h⟩ := bind_eq_ok_iff.mp h
  cases o' with
  | none =>
    cases h
    exact .inl rfl
  | some o' =>
    obtain ⟨right, u, -, h⟩ := bind_eq_ok_iff.mp h
    obtain ⟨value, w, hw, h⟩ := bind_eq_ok_iff.mp h
    cases h
    obtain rfl : o = o' := by
      obtain ⟨hm, -⟩ := scan_ok ht
      unfold Cursor.logical at hm
      split at hm
      · exact Option.some.inj hm
      · cases hm
    obtain ⟨applied, -⟩ := ofExcept_ok hw
    rcases ho with rfl | rfl
    · cases applied
      exact .inr ⟨_, rfl⟩
    · cases applied
      exact .inr ⟨_, rfl⟩

theorem chainFrom_logical {o : Operator} (ho : o = .or ∨ o = .and) {expected : Text}
    {operand : Eval Number} {count : Nat} {left : Number}
    (hl : ∃ truth, left = Number.ofTruth truth)
    (h : chainFrom (Cursor.logical o expected) operand count left context r = .ok value s) :
    ∃ truth, value = Number.ofTruth truth := by
  induction count generalizing left r with
  | zero =>
    cases h
    exact hl
  | succ count ih =>
    obtain ⟨found, t, ht, h⟩ := bind_eq_ok_iff.mp h
    rcases extend?_logical ho ht with rfl | ⟨truth, rfl⟩
    · cases h
      exact hl
    · exact ih ⟨truth, rfl⟩ h

theorem chain_logical {o : Operator} (ho : o = .or ∨ o = .and) {expected : Text}
    {operand : Eval Number}
    (h : chain (Cursor.logical o expected) operand context r = .ok value s) :
    (∃ t, operand context r = .ok value t) ∨ ∃ truth, value = Number.ofTruth truth := by
  obtain ⟨first, t, ht, h⟩ := bind_eq_ok_iff.mp h
  obtain ⟨found, u, hu, h⟩ := bind_eq_ok_iff.mp h
  rcases extend?_logical ho hu with rfl | ⟨truth, rfl⟩
  · cases h
    exact .inl ⟨t, ht⟩
  · obtain ⟨count, v, -, h⟩ := bind_eq_ok_iff.mp h
    exact .inr (chainFrom_logical ho ⟨truth, rfl⟩ h)

/-- An expression that begins with `not` has a truth value. -/
theorem expressionBelow_of_not {calls : Nat}
    (not : (r.cursor.keyword ['n', 'o', 't']).1 = true)
    (h : expressionBelow calls context r = .ok value s) :
    ∃ truth, value = Number.ofTruth truth := by
  obtain ⟨-, h⟩ := expressionWithin_ok h
  rcases chain_logical (.inl rfl) h with ⟨t, h⟩ | truth
  · rcases chain_logical (.inr rfl) h with ⟨u, h⟩ | truth
    · obtain ⟨found, v, hv, h⟩ := bind_eq_ok_iff.mp h
      obtain ⟨rfl, -⟩ := scan_ok hv
      rw [if_pos not] at h
      obtain ⟨compared, w, -, h⟩ := bind_eq_ok_iff.mp h
      cases h
      exact ⟨_, rfl⟩
    · exact truth
  · exact truth

theorem demand_equals (context : Context) (generator : Generator) (room column : Nat)
    (rest : Text) : demand ['='] context ⟨⟨column, Text.ofString " =" ++ rest⟩, generator, room⟩ =
      .ok () ⟨⟨column + 2, rest⟩, generator, room⟩ := by
  have blank : ∀ c ∈ [' '], isBlank c = true := List.all_eq_true.mp (by decide +kernel)
  have other : ∀ c ∈ ('=' :: rest).head?, isBlank c = false := by
    rintro _ ⟨⟩
    decide +kernel
  have skip : Cursor.skipBlanks ⟨column, Text.ofString " =" ++ rest⟩ =
      ⟨column + 1, '=' :: rest⟩ := by
    change Cursor.skipBlanks ⟨column, [' '] ++ '=' :: rest⟩ = _
    simp only [Cursor.skipBlanks, Cursor.skipWhile, takeWhile_run blank other,
      dropWhile_run blank other, List.length_singleton]
  have found : Cursor.literal ['='] ⟨column, Text.ofString " =" ++ rest⟩ =
      (true, ⟨column + 2, rest⟩) := by
    simp [Cursor.literal, skip, Cursor.advance]
  simp only [demand, scanStrictly, Cursor.demand, found]

end Eval

namespace Statement

open Exec

theorem skipBlanks_name {column : Nat} {spelling blanks rest : Text} (isName : IsName spelling)
    (blank : ∀ c ∈ blanks, isBlank c = true) :
    Cursor.skipBlanks ⟨column, blanks ++ (spelling ++ rest)⟩ =
      ⟨column + blanks.length, spelling ++ rest⟩ := by
  have head : ∀ c ∈ (spelling ++ rest).head?, isBlank c = false := fun c hc =>
    (isName.head_append rest c hc).not_isBlank
  simp only [Cursor.skipBlanks, Cursor.skipWhile, takeWhile_run blank head,
    dropWhile_run blank head]

def assigning (spelling expression : Text) : Text :=
  Text.ofString "LET " ++ (spelling ++ (Text.ofString " =" ++ expression))

/-- An assignment that succeeds has evaluated the expression, and only the variable and the random
numbers are others behind it. -/
theorem execute_assigning {m : Machine} {s : Execution} {spelling expression : Text}
    (isName : IsName spelling) (h : execute (.start m (assigning spelling expression)) = .ok () s) :
    ∃ value r, Eval.expression m.context
        ⟨⟨spelling.length + 6, expression⟩, m.generator, m.room + 14⟩ = .ok value r ∧
      s.machine =
        ({ m with generator := r.generator } : Machine).assign (lower spelling) value := by
  have letters : ∀ c ∈ ['L', 'E', 'T'], isLetter c = true := List.all_eq_true.mp (by decide +kernel)
  have apart : ∀ c ∈ (' ' :: (spelling ++ (Text.ofString " =" ++ expression))).head?,
      isLetter c = false := by
    rintro _ ⟨⟩
    decide +kernel
  have keyword (context : Context) (generator : Generator) (room : Nat) :
      keyword context ⟨.start (assigning spelling expression), generator, room⟩ =
        .ok .assign
          ⟨⟨3, ' ' :: (spelling ++ (Text.ofString " =" ++ expression))⟩, generator, room⟩ :=
    keyword_of_run (List.forall_mem_nil _) letters (by decide : _ = Keyword.assign.spelling) apart
      context generator room
  have opens : Block.Opens .assign (assigning spelling expression) := fun context generator room =>
    ⟨_, keyword context generator room⟩
  have blank : ∀ c ∈ [' '], isBlank c = true := List.all_eq_true.mp (by decide +kernel)
  have ends : ∀ c ∈ (Text.ofString " =" ++ expression).head?, isNameChar c = false := by
    rintro _ ⟨⟩
    decide +kernel
  have named := Cursor.identifier_of_name isName
    (c := ⟨3, [' '] ++ (spelling ++ (Text.ofString " =" ++ expression))⟩)
    (skipBlanks_name isName blank) ends
  have name : evaluate Eval.name
      ⟨m, ⟨3, ' ' :: (spelling ++ (Text.ofString " =" ++ expression))⟩, m.room + 14⟩ =
        .ok (lower spelling)
          ⟨m, ⟨spelling.length + 4, Text.ofString " =" ++ expression⟩, m.room + 14⟩ := by
    refine evaluate_still ?_
    have column : spelling.length + 4 = 3 + 1 + spelling.length := by omega
    simp only [Eval.name, Eval.scanStrictly, Cursor.demandIdentifier, column]
    exact named ▸ rfl
  have assigned : perform (some .assign) = (evaluate Eval.name >>= fun name =>
      evaluate (Eval.demand ['=']) >>= fun _ => evaluate Eval.expression >>= fun value =>
        change (·.assign name value)) :=
    rfl
  rw [opens.execute_eq (by decide), Execution.start,
    bind_of_ok (evaluate_still (keyword _ _ _)), assigned,
    bind_of_ok name, bind_of_ok (evaluate_still (Eval.demand_equals _ _ _ _ _))] at h
  obtain ⟨value, t, ht, h⟩ := bind_eq_ok_iff.mp h
  obtain ⟨r, hr, rfl⟩ := evaluate_eq_ok_iff.mp ht
  cases h
  exact ⟨value, r, hr, rfl⟩

/-- A name that was assigned is read back with its value wherever a sum is expected, whatever comes
behind it that is no operator, and wherever an expression is expected if the letters that it begins
with are not `not`. If they are, the expression has a truth value at most. -/
theorem assigned_name_read {m : Machine} {s : Execution} {spelling expression : Text}
    (isName : IsName spelling) (free : Builtin.ofName? (lower spelling) = none)
    (executed : execute (.start m (assigning spelling expression)) = .ok () s) :
    ∃ value r, Eval.expression m.context
        ⟨⟨spelling.length + 6, expression⟩, m.generator, m.room + 14⟩ = .ok value r ∧
      ∀ (c : Cursor) column rest, c.skipBlanks = ⟨column, spelling ++ rest⟩ →
        (∀ next ∈ rest.head?, isNameChar next = false) → Final rest → ∀ clock generator room,
        let context : Context := ⟨s.machine.variables, clock⟩
        let ahead : Reading := ⟨c, generator, room⟩
        let behind : Reading :=
          ⟨Cursor.skipBlanks ⟨column + spelling.length, rest⟩, generator, room⟩
        (∀ calls, Eval.sumBelow calls context ahead = .ok value behind) ∧
        if lower (spelling.takeWhile isLetter) = ['n', 'o', 't'] then
          ∀ calls x t, Eval.expressionBelow calls context ahead = .ok x t →
            ∃ truth, x = .ofTruth truth
        else ∀ calls, 13 + calls ≤ room →
          Eval.expressionBelow calls context ahead = .ok value behind := by
  obtain ⟨value, r, evaluated, assigned⟩ := execute_assigning isName executed
  have held : s.machine.variables.get? (lower spelling) = some value := by
    rw [assigned]
    exact (Table.get?_insert ..).trans (if_pos rfl)
  refine ⟨value, r, evaluated, fun c column rest ahead ends final clock generator room => ?_⟩
  constructor
  · exact fun calls => Eval.arithmetic_of_name isName free ahead ends held _ generator final
  · split
    · rename_i letters
      intro calls x t hx
      refine Eval.expressionBelow_of_not ?_ hx
      rw [Cursor.keyword_not_of_name isName ahead ends, decide_eq_true letters]
    · rename_i letters
      intro calls enough
      exact Eval.expression_of_name isName free ahead ends held generator final letters enough

/-- A name that goes on with letters behind `not` is read back. -/
theorem letters_behind_not_read :
    let m := Machine.fresh 0 0 (.ofInput [])
    let name : Text := ['n', 'o', 't', 'e', '1']
    ∃ s, execute (.start m (assigning name ['5'])) = .ok () s ∧
      Eval.expression ⟨s.machine.variables, 0⟩ ⟨.start name, default, 13⟩ =
        .ok (Number.ofInt 5) ⟨⟨5, []⟩, default, 13⟩ := by
  intro m name
  have isName : IsName name :=
    ⟨⟨'n', rfl, by decide +kernel⟩, List.all_eq_true.mp (by decide +kernel)⟩
  have letters : lower (name.takeWhile isLetter) ≠ ['n', 'o', 't'] := by decide +kernel
  have succeeds : (outcome? (execute (.start m (assigning name ['5'])))).isSome = true := by
    decide +kernel
  have five : (outcome? (Eval.expression m.context ⟨⟨11, ['5']⟩, m.generator, 14⟩)).map
      (·.1) = some (Number.ofInt 5) := by
    decide +kernel
  obtain ⟨⟨_, s⟩, executed⟩ := Option.isSome_iff_exists.mp succeeds
  have executed := outcome?_eq_some_iff.mp executed
  obtain ⟨value, r, evaluated, read⟩ := assigned_name_read isName (by decide +kernel) executed
  have evaluated : Eval.expression m.context ⟨⟨11, ['5']⟩, m.generator, 14⟩ = .ok value r :=
    evaluated
  rw [evaluated] at five
  have five : value = Number.ofInt 5 := Option.some.inj five
  obtain ⟨-, read⟩ := read (.start name) 0 [] (Cursor.skipBlanks_of_name isName 0 [])
    (fun _ h => by cases h) final_nil 0 default 13
  rw [if_neg letters, five] at read
  exact ⟨s, executed, read 0 (Nat.le_refl 13)⟩

/-- A name that goes on with a digit behind `not` is assigned, and read back where a sum is
expected. As an expression it is the negation of the digit. -/
theorem digit_behind_not_misread :
    let name : Text := ['n', 'o', 't', '1']
    IsName name ∧ Builtin.ofName? (lower name) = none ∧ lower name ≠ ['n', 'o', 't'] ∧
      ∃ s r r', execute (.start (.fresh 0 0 (.ofInput [])) (assigning name ['5'])) = .ok () s ∧
        s.machine.variables.get? name = some (Number.ofInt 5) ∧
        Eval.sum ⟨s.machine.variables, 0⟩ ⟨.start name, default, 14⟩ = .ok (Number.ofInt 5) r ∧
        Eval.expression ⟨s.machine.variables, 0⟩ ⟨.start name, default, 14⟩ =
          .ok (Number.ofInt 0) r' ∧
        Number.ofInt 0 ≠ Number.ofInt 5 := by
  intro name
  have isName : IsName name :=
    ⟨⟨'n', rfl, by decide +kernel⟩, List.all_eq_true.mp (by decide +kernel)⟩
  have computed : (outcome? (execute (.start (.fresh 0 0 (.ofInput []))
      (assigning name ['5'])))).any (fun x =>
        decide (x.2.machine.variables.get? name = some (Number.ofInt 5)) &&
        (outcome? (Eval.sum ⟨x.2.machine.variables, 0⟩ ⟨.start name, default, 14⟩)).any
          (fun y => decide (y.1 = Number.ofInt 5)) &&
        (outcome? (Eval.expression ⟨x.2.machine.variables, 0⟩ ⟨.start name, default, 14⟩)).any
          (fun y => decide (y.1 = Number.ofInt 0))) = true := by
    decide +kernel
  obtain ⟨⟨_, s⟩, executed, facts⟩ := (Option.any_eq_true _ _).mp computed
  rw [Bool.and_eq_true, Bool.and_eq_true, decide_eq_true_eq] at facts
  obtain ⟨⟨held, summed⟩, read⟩ := facts
  obtain ⟨⟨x, r⟩, sum, five⟩ := (Option.any_eq_true _ _).mp summed
  obtain ⟨⟨y, r'⟩, expression, zero⟩ := (Option.any_eq_true _ _).mp read
  have five : x = Number.ofInt 5 := of_decide_eq_true five
  have zero : y = Number.ofInt 0 := of_decide_eq_true zero
  rw [five] at sum
  rw [zero] at expression
  exact ⟨isName, by decide +kernel, by decide +kernel, s, r, r', outcome?_eq_some_iff.mp executed,
    held, outcome?_eq_some_iff.mp sum, outcome?_eq_some_iff.mp expression, by decide +kernel⟩

end Statement

end NumberedBasic
