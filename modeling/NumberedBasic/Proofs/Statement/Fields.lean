import NumberedBasic.Proofs.Statement.Wording

/-! # Input fields

An input statement writes its prompt, takes one line of the input and cuts it at the commas. Each
name gets the number in the field at its place, and zero where the field is blank or missing. All
names are assigned, or none is if one of their fields holds something else.
-/

namespace NumberedBasic

open Text

/-- The text is made of the fields, with commas between them and perhaps returns at its end. -/
inductive Row (fields : List Text) : Text → Prop
  | intro {returns : Text} (nonempty : fields ≠ []) (apart : ∀ field ∈ fields, ',' ∉ field)
      (whole : '\n' ∉ [','].intercalate fields)
      (trimmed : ∀ c ∈ ([','].intercalate fields).getLast?, c ≠ '\r')
      (only : ∀ c ∈ returns, c = '\r') : Row fields ([','].intercalate fields ++ returns)

/-- The fields of the first line of an input, and what the line leaves of it. There is no field at
the end of the input, and the last line may lack its line feed. -/
inductive InputFields : Text → Text → List Text → Prop
  | ended : InputFields [] [] []
  | line {fields : List Text} {text : Text} (row : Row fields text) (rest : Text) :
      InputFields (text ++ '\n' :: rest) rest fields
  | last {fields : List Text} {text : Text} (row : Row fields text) (nonempty : text ≠ []) :
      InputFields text [] fields

section Lines

variable {fields : List Text} {text rest input : Text}

theorem exists_row (whole : '\n' ∉ text) : ∃ fields, Row fields text := by
  obtain ⟨body, returns, rfl, inside, last⟩ := exists_end_run (· == '\r') text
  obtain ⟨fields, some, apart, rfl⟩ := exists_intercalate ',' body
  refine ⟨fields, .intro some apart (fun hm => whole (List.mem_append_left _ hm)) ?_ ?_⟩
  · exact fun c hc => beq_eq_false_iff_ne.mp (last c hc)
  · exact fun c hc => beq_iff_eq.mp (inside c hc)

theorem exists_inputFields (input : Text) : ∃ rest fields, InputFields input rest fields := by
  by_cases none : input = []
  · exact ⟨[], [], none ▸ .ended⟩
  obtain ⟨text, behind, rfl, inside, ends⟩ := exists_run (· != '\n') input
  have whole : '\n' ∉ text := fun hm => by simpa using inside '\n' hm
  obtain ⟨fields, row⟩ := exists_row whole
  cases behind with
  | nil =>
    rw [List.append_nil] at none ⊢
    exact ⟨[], fields, .last row none⟩
  | cons feed rest =>
    obtain rfl : feed = '\n' := by simpa using ends feed rfl
    exact ⟨rest, fields, .line row rest⟩

theorem Row.not_mem (h : Row fields text) : '\n' ∉ text := by
  cases h with
  | intro some apart whole trimmed only =>
    rw [List.mem_append]
    rintro (hm | hm)
    · exact whole hm
    · exact absurd (only _ hm) (by decide)

theorem Row.lineFields (h : Row fields text) {feed : Text} (feeds : ∀ c ∈ feed, c = '\n')
    (nonempty : text ++ feed ≠ []) : Statement.lineFields (text ++ feed) = fields := by
  cases h with
  | @intro returns some apart whole trimmed only =>
    have ends : ∀ c ∈ returns ++ feed, isLineEnd c = true := by
      refine List.forall_mem_append.mpr ⟨fun c hc => ?_, fun c hc => ?_⟩
      · rw [only c hc]
        rfl
      · rw [feeds c hc]
        rfl
    have last : ∀ c ∈ ([','].intercalate fields).getLast?, isLineEnd c = false := fun c hc => by
      have feed : c ≠ '\n' := fun same => whole (same ▸ List.mem_of_getLast? hc)
      simp [isLineEnd, feed, trimmed c hc]
    have body : dropLineEnd ([','].intercalate fields ++ (returns ++ feed)) =
        [','].intercalate fields := dropEndWhile_of_last ends last
    rw [Statement.lineFields, if_neg (by simpa using nonempty), List.append_assoc, body,
      splitAt_intercalate some apart]

theorem InputFields.read (h : InputFields input rest fields) :
    (firstLine input).2 = rest ∧ Statement.lineFields (firstLine input).1 = fields := by
  cases h with
  | ended => exact ⟨rfl, rfl⟩
  | line row =>
    rw [firstLine_line row.not_mem]
    exact ⟨rfl, row.lineFields (by simp) (by simp)⟩
  | last row some =>
    have inside : ∀ c ∈ input, (c != '\n') = true := fun c hc => by
      rw [bne_iff_ne]
      rintro rfl
      exact row.not_mem hc
    have line : firstLine input = (input, []) := by
      have none : (input ++ []).dropWhile (· != '\n') = [] := dropWhile_run inside (by rintro _ ⟨⟩)
      rw [List.append_nil] at none
      rw [firstLine, none]
    have read : Statement.lineFields (input ++ []) = fields :=
      row.lineFields (List.forall_mem_nil _) (by rwa [List.append_nil])
    rw [line]
    rw [List.append_nil] at read
    exact ⟨rfl, read⟩

end Lines

/-- The number that a field gives to a name; a blank one gives zero. -/
inductive Takes (field : Text) : Number → Prop
  | blank (empty : field.trim = []) : Takes field 0
  | number {value : Number} (nonblank : field.trim ≠ [])
      (read : Number.read? field.trim = some value) : Takes field value

def Rejects (field : Text) : Prop :=
  field.trim ≠ [] ∧ Number.read? field.trim = none

instance (field : Text) : Decidable (Rejects field) :=
  inferInstanceAs (Decidable (_ ∧ _))

theorem Takes.unique {field : Text} {a b : Number} (h : Takes field a) (h' : Takes field b) :
    a = b := by
  cases h with
  | blank empty =>
    cases h' with
    | blank => rfl
    | number nonblank => exact absurd empty nonblank
  | number nonblank read =>
    cases h' with
    | blank empty => exact absurd empty nonblank
    | number _ read' => exact Option.some.inj (read.symm.trans read')

theorem Takes.not_rejects {field : Text} {value : Number} (h : Takes field value) :
    ¬Rejects field := by
  rintro ⟨nonblank, unread⟩
  cases h with
  | blank empty => exact nonblank empty
  | number _ read => cases unread.symm.trans read

/-- Variables have taken the fields at the places of their names. The last place of a name counts,
and all other variables are what they were. -/
structure Assigned (names fields : List Text) (before after : Variables) : Prop where
  last : ∀ i name, names[i]? = some name →
    (∀ j > i, ∀ other ∈ names[j]?, lower other ≠ lower name) →
    ∃ value, Takes (fields.getD i []) value ∧ after.get? (lower name) = some value
  others : ∀ key, key ∉ names.map lower → after.get? key = before.get? key

namespace Statement

section Values

variable {names fields : List Text} {field : Text}

theorem fieldValue_of_rejects (h : Rejects field) :
    fieldValue field = .error (.invalidNumber field.trim) := by
  have some : ¬field.trim.isEmpty := by simpa using h.1
  simp only [fieldValue, if_neg some, h.2]

theorem fieldValue_of_not_rejects (h : ¬Rejects field) :
    ∃ value, Takes field value ∧ fieldValue field = .ok value := by
  by_cases blank : field.trim = []
  · exact ⟨0, .blank blank, by simp [fieldValue, blank]⟩
  · have some : ¬field.trim.isEmpty := by simpa using blank
    cases read : Number.read? field.trim with
    | none => exact absurd ⟨blank, read⟩ h
    | some value => exact ⟨value, .number blank read, by simp only [fieldValue, if_neg some, read]⟩

theorem getD_tail (fields : List Text) (i : Nat) :
    fields.tail.getD i [] = fields.getD (i + 1) [] := by
  cases fields <;> rfl

theorem fieldValues_of_not_rejects (accepted : ∀ i < names.length, ¬Rejects (fields.getD i [])) :
    ∃ values : List (Text × Number), fieldValues names fields = .ok values ∧
      values.map (·.1) = names ∧
      ∀ i name value, values[i]? = some (name, value) → Takes (fields.getD i []) value := by
  induction names generalizing fields with
  | nil => exact ⟨[], rfl, rfl, nofun⟩
  | cons name names ih =>
    obtain ⟨value, takes, first⟩ := fieldValue_of_not_rejects (accepted 0 (Nat.zero_lt_succ _))
    have further : ∀ i < names.length, ¬Rejects (fields.tail.getD i []) := fun i hi => by
      rw [getD_tail]
      exact accepted (i + 1) (Nat.succ_lt_succ hi)
    obtain ⟨values, others, keys, take⟩ := ih further
    refine ⟨(name, value) :: values, ?_, by rw [List.map_cons, keys], ?_⟩
    · have first : fieldValue (fields.headD []) = .ok value := by
        cases fields <;> exact first
      rw [fieldValues, first, others]
      rfl
    · intro i other v hv
      cases i with
      | zero =>
        cases hv
        exact takes
      | succ i =>
        rw [← getD_tail]
        exact take i other v hv

theorem fieldValues_of_rejects {i : Nat} (inside : i < names.length)
    (rejected : Rejects (fields.getD i [])) (first : ∀ j < i, ¬Rejects (fields.getD j [])) :
    fieldValues names fields = .error (.invalidNumber (fields.getD i []).trim) := by
  induction names generalizing fields i with
  | nil => cases inside
  | cons name names ih =>
    have head : fieldValue (fields.headD []) = fieldValue (fields.getD 0 []) := by
      cases fields <;> rfl
    cases i with
    | zero =>
      rw [fieldValues, head, fieldValue_of_rejects rejected]
      rfl
    | succ i =>
      obtain ⟨value, -, taken⟩ := fieldValue_of_not_rejects (first 0 (Nat.zero_lt_succ _))
      rw [← getD_tail] at rejected ⊢
      have further : ∀ j < i, ¬Rejects (fields.tail.getD j []) := fun j hj => by
        rw [getD_tail]
        exact first (j + 1) (Nat.succ_lt_succ hj)
      rw [fieldValues, head, taken, ih (Nat.lt_of_succ_lt_succ inside) rejected further]
      rfl

end Values

section Assignments

variable {values : List (Text × Number)} {m : Machine}

theorem get?_foldl_assign_of_not_mem {name : Text} (h : name ∉ values.map (·.1)) :
    (values.foldl (fun m v => m.assign v.1 v.2) m).variables.get? name =
      m.variables.get? name := by
  induction values generalizing m with
  | nil => rfl
  | cons value values ih =>
    obtain ⟨hv, hs⟩ := not_or.mp fun hm => h (List.mem_cons.mpr hm)
    exact (ih hs).trans ((Table.get?_insert ..).trans (if_neg hv))

theorem foldl_assign_eq : values.foldl (fun m v => m.assign v.1 v.2) m =
    { m with «variables» := (values.foldl (fun m v => m.assign v.1 v.2) m).variables } := by
  induction values generalizing m with
  | nil => rfl
  | cons value values ih => exact ih

/-- A name gets the value at its last place. -/
theorem get?_foldl_assign_of_last {i : Nat} {name : Text} {a : Number}
    (place : values[i]? = some (name, a)) (last : ∀ j > i, ∀ v ∈ values[j]?, v.1 ≠ name) :
    (values.foldl (fun m v => m.assign v.1 v.2) m).variables.get? name = some a := by
  induction values generalizing m i with
  | nil => cases place
  | cons value values ih =>
    cases i with
    | zero =>
      cases place
      have other : name ∉ values.map (·.1) := fun mem => by
        obtain ⟨v, hv, same⟩ := List.mem_map.mp mem
        obtain ⟨j, hj⟩ := List.mem_iff_getElem?.mp hv
        exact last (j + 1) (Nat.zero_lt_succ j) v hj same
      exact (get?_foldl_assign_of_not_mem other).trans ((Table.get?_insert ..).trans (if_pos rfl))
    | succ i =>
      exact ih place fun j hj => last (j + 1) (Nat.succ_lt_succ hj)

theorem assigned_of_foldl {names fields : List Text} (keys : values.map (·.1) = names.map lower)
    (take : ∀ i name value, values[i]? = some (name, value) → Takes (fields.getD i []) value) :
    Assigned names fields m.variables
      (values.foldl (fun m v => m.assign v.1 v.2) m).variables where
  last i name place last := by
    have key : (values.map (·.1))[i]? = some (lower name) := by
      rw [keys, List.getElem?_map, place]
      rfl
    rw [List.getElem?_map, Option.map_eq_some_iff] at key
    obtain ⟨⟨_, value⟩, there, rfl⟩ := key
    refine ⟨value, take i _ value there, get?_foldl_assign_of_last there fun j hj v hv => ?_⟩
    have key' : (names.map lower)[j]? = some v.1 := by
      rw [← keys, List.getElem?_map, hv]
      rfl
    rw [List.getElem?_map, Option.map_eq_some_iff] at key'
    obtain ⟨other, place', same⟩ := key'
    exact same ▸ last j hj other place'
  others key missing := get?_foldl_assign_of_not_mem (keys ▸ missing)

end Assignments

/-- The machine has asked for a line, which is no longer ahead in its input. -/
def asked (m : Machine) (prompt rest : Text) : Machine :=
  { m with console := { m.console.write (String.ofList prompt) with input := rest } }

section Executed

variable {m : Machine} {prompt : Option Text} {names fields : List Text} {line rest : Text}
  (plain : ∀ p ∈ prompt, Cursor.quote ∉ p) (nonempty : names ≠ [])
  (legal : ∀ name ∈ names, IsName name) (wording : Says .input (inputWords prompt names) line)
  (ahead : InputFields m.console.input rest fields)

include plain nonempty legal wording ahead

/-- Behind the evaluation of the names, the fields of the line are all that counts. -/
theorem execute_input : ∃ c, execute (.start m line) = (do
    let values ← Exec.ofExcept (fieldValues (names.map lower) fields)
    Exec.change fun m => values.foldl (fun m (v : Text × Number) => m.assign v.1 v.2) m)
      ⟨asked m (prompt.getD []) rest, c, m.room + 14⟩ := by
  obtain ⟨rfl, rfl⟩ := ahead.read
  obtain ⟨first, others, rfl⟩ := List.exists_cons_of_ne_nil nonempty
  have unconditional : Keyword.input ≠ .condition := by decide
  obtain ⟨c, spaced, execute_eq⟩ := wording.execute_eq unconditional
  obtain ⟨d, list⟩ :=
    inputList_of_spaced m.context m.generator plain legal spaced
  have read : ask (prompt.getD []) ⟨m, d, m.room + 14⟩ = .ok (firstLine m.console.input).1
      ⟨asked m (prompt.getD []) (firstLine m.console.input).2, d, m.room + 14⟩ := rfl
  refine ⟨d, (execute_eq m).trans ?_⟩
  exact (Exec.bind_of_ok (Exec.evaluate_still list) _).trans ((Exec.bind_of_ok read _).trans rfl)

theorem execute_input_of_not_rejects
    (accepted : ∀ i < names.length, ¬Rejects (fields.getD i [])) :
    ∃ after c, execute (.start m line) =
        .ok () ⟨{ asked m (prompt.getD []) rest with «variables» := after }, c, m.room + 14⟩ ∧
      Assigned names fields m.variables after := by
  obtain ⟨c, executed⟩ := execute_input plain nonempty legal wording ahead
  have accepted : ∀ i < (names.map lower).length, ¬Rejects (fields.getD i []) := by
    rwa [List.length_map]
  obtain ⟨values, read, keys, take⟩ := fieldValues_of_not_rejects accepted
  rw [read] at executed
  let after := values.foldl (fun m v => m.assign v.1 v.2) (asked m (prompt.getD []) rest)
  have done : execute (.start m line) = .ok () ⟨after, c, m.room + 14⟩ := executed.trans rfl
  have assigned : Assigned names fields (asked m (prompt.getD []) rest).variables after.variables :=
    assigned_of_foldl keys take
  have same : { asked m (prompt.getD []) rest with «variables» := after.variables } = after :=
    foldl_assign_eq.symm
  refine ⟨after.variables, c, ?_, assigned⟩
  rw [same]
  exact done

theorem execute_input_of_rejects {i : Nat} (inside : i < names.length)
    (rejected : Rejects (fields.getD i [])) (earlier : ∀ j < i, ¬Rejects (fields.getD j [])) :
    ∃ c, execute (.start m line) = .error (.invalidNumber (fields.getD i []).trim)
      ⟨asked m (prompt.getD []) rest, c, m.room + 14⟩ := by
  obtain ⟨c, executed⟩ := execute_input plain nonempty legal wording ahead
  have inside : i < (names.map lower).length := by rwa [List.length_map]
  rw [fieldValues_of_rejects inside rejected earlier] at executed
  exact ⟨c, executed⟩

end Executed

/-- An input statement takes one line. It assigns the fields of this line to its names, or nothing
and the first of these fields to hold something else than a number is named. -/
theorem input_assigns_fields {m : Machine} {prompt : Option Text}
    (plain : ∀ p ∈ prompt, Cursor.quote ∉ p) {names : List Text} (nonempty : names ≠ [])
    (legal : ∀ name ∈ names, IsName name) {line : Text}
    (wording : Says .input (inputWords prompt names) line) :
    ∃ rest fields, InputFields m.console.input rest fields ∧
      let asked := asked m (prompt.getD []) rest
      ((∀ i < names.length, ¬Rejects (fields.getD i [])) →
        ∃ after c, execute (.start m line) =
            .ok () ⟨{ asked with «variables» := after }, c, m.room + 14⟩ ∧
          Assigned names fields m.variables after) ∧
      ∀ i < names.length, Rejects (fields.getD i []) → (∀ j < i, ¬Rejects (fields.getD j [])) →
        ∃ c, execute (.start m line) =
          .error (.invalidNumber (fields.getD i []).trim) ⟨asked, c, m.room + 14⟩ := by
  obtain ⟨rest, fields, ahead⟩ := exists_inputFields m.console.input
  refine ⟨rest, fields, ahead, ?_, fun i => ?_⟩
  · exact execute_input_of_not_rejects plain nonempty legal wording ahead
  · exact execute_input_of_rejects plain nonempty legal wording ahead

/-- The last place of a name counts and a missing field is zero; a word assigns nothing. -/
theorem fields_assigned_and_field_rejected :
    let m := Machine.fresh 0 0 (.ofInput (ofString "1, 2\r\n3"))
    let m' := Machine.fresh 0 0 (.ofInput (ofString "1, x ,y"))
    (∃ after c, execute (.start m (ofString "input \"?\",a,A,b")) =
        .ok () ⟨{ asked m ['?'] ['3'] with «variables» := after }, c, 14⟩ ∧
      after.get? ['a'] = some 2 ∧ after.get? ['b'] = some 0) ∧
    ∃ c, execute (.start m' (ofString "INPUT a,A,b")) =
      .error (.invalidNumber ['x']) ⟨asked m' [] [], c, 14⟩ := by
  intro m m'
  have legal : ∀ name ∈ [['a'], ['A'], ['b']], IsName name := by
    intro name mem
    simp only [List.mem_cons, List.not_mem_nil, or_false] at mem
    rcases mem with rfl | rfl | rfl <;> exact isName_letter (by decide +kernel)
  constructor
  · let words := inputWords (some ['?']) [['a'], ['A'], ['b']]
    have wording : Says .input words (ofString "input" ++ ' ' :: words.flatten) :=
      .of_blank (by decide +kernel) (by decide +kernel) (.tight words)
    have plain : ∀ p ∈ some ['?'], Cursor.quote ∉ p := by
      rintro _ ⟨⟩
      decide
    obtain ⟨rest, fields, ahead, succeeds, -⟩ :=
      input_assigns_fields (m := m) plain (List.cons_ne_nil _ _) legal wording
    obtain ⟨left, read⟩ := ahead.read
    obtain rfl : rest = ['3'] := left.symm.trans (by decide +kernel)
    obtain rfl : fields = [['1'], [' ', '2']] := read.symm.trans (by decide +kernel)
    obtain ⟨after, c, done, last, -⟩ := succeeds (by decide +kernel)
    have inside {j : Nat} {other : Text} (h : other ∈ [['a'], ['A'], ['b']][j]?) : j < 3 :=
      (List.getElem?_eq_some_iff.mp h).1
    obtain ⟨two, takes, held⟩ := last 1 ['A'] rfl fun j behind other h => by
      obtain rfl : j = 2 := by have := inside h; omega
      cases h
      decide +kernel
    obtain ⟨zero, takes', held'⟩ := last 2 ['b'] rfl fun j behind other h => by
      have := inside h
      omega
    have number : Takes [' ', '2'] 2 := .number (by decide +kernel) (by decide +kernel)
    have blank : Takes [] 0 := .blank (by decide +kernel)
    rw [takes.unique number] at held
    rw [takes'.unique blank] at held'
    exact ⟨after, c, done, held, held'⟩
  · let words := inputWords none [['a'], ['A'], ['b']]
    have wording : Says .input words (ofString "INPUT" ++ ' ' :: words.flatten) :=
      .of_blank (by decide +kernel) (by decide +kernel) (.tight words)
    obtain ⟨rest, fields, ahead, -, fails⟩ :=
      input_assigns_fields (m := m') (by rintro _ ⟨⟩) (List.cons_ne_nil _ _) legal wording
    obtain ⟨left, read⟩ := ahead.read
    obtain rfl : rest = [] := left.symm.trans (by decide +kernel)
    obtain rfl : fields = [['1'], [' ', 'x', ' '], ['y']] := read.symm.trans (by decide +kernel)
    exact fails 1 (by decide) (by decide +kernel) (by decide +kernel)

end Statement

end NumberedBasic
