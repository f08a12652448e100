import NumberedBasic.Proofs.Number.Written
import NumberedBasic.Proofs.Statement.Fields
import NumberedBasic.Proofs.Statement.Print

/-! # Printed rows are read back

A statement can print the values of variables with commas between them. An input statement
splits this row at the commas and reads every field, so it gives its own variables the very
values that were printed.
-/

namespace NumberedBasic

open Text

namespace Statement

/-- What stands between two variables for a comma to be printed between their values. -/
def printedComma : Text := [',', Cursor.quote, ',', Cursor.quote, ',']

def printing (names : List VariableName) : Text :=
  Text.ofString "PRINT " ++ printedComma.intercalate (names.map (·.spelling))

def asking (names : List Text) : Text :=
  Text.ofString "INPUT " ++ [','].intercalate names

def row (values : List Number) : Text :=
  [','].intercalate (values.map Number.text) ++ ['\n']

end Statement

namespace Text

theorem intercalate_cons_eq (separator first : Text) (others : List Text) :
    separator.intercalate (first :: others) = first ++ others.flatMap (separator ++ ·) := by
  induction others generalizing first with
  | nil => simp
  | cons second others ih =>
    rw [List.intercalate_cons_cons, ih, List.flatMap_cons]
    simp only [List.append_assoc]

end Text

namespace Statement

abbrev Field : Type := VariableName × Number

/-- The variables of the fields have the values of the fields. -/
def Holds («variables» : Variables) (fields : List Field) : Prop :=
  ∀ field ∈ fields, «variables».get? (lower field.1.spelling) = some field.2

def rowList : VariableName → List VariableName → PrintList
  | v, [] => .last (.expression v.spelling) none
  | v, next :: others =>
    .more (.expression v.spelling) .comma (.more (.string [',']) .comma (rowList next others))

theorem flatten_rowList (v : VariableName) (others : List VariableName) :
    (rowList v others).words.flatten =
      printedComma.intercalate ((v :: others).map (·.spelling)) := by
  induction others generalizing v with
  | nil => rfl
  | cons next others ih =>
    rw [List.map_cons, List.map_cons, List.intercalate_cons_cons, ← List.map_cons, ← ih next]
    simp [rowList, PrintList.words, Printable.word, Separator.word, printedComma]

theorem isOpen_rowList (v : VariableName) (others : List VariableName) :
    (rowList v others).isOpen = false := by
  induction others generalizing v with
  | nil => rfl
  | cons next others ih => simp [rowList, PrintList.isOpen, ih next]

theorem printed_rowList {context : Context} {room : Nat} {field : Field} {fields : List Field}
    (held : Holds context.variables (field :: fields)) (enough : 13 + 1 ≤ room)
    (g : Generator) :
    Printed context room (rowList field.1 (fields.map (·.1))) g
      ([','].intercalate (field.2.text :: fields.map (·.2.text))) g := by
  have value {field : Field}
      (held : context.variables.get? (lower field.1.spelling) = some field.2) :
      Writes context room (.expression field.1.spelling) g field.2.text g := by
    have stops : Stops [] := by rintro _ ⟨⟩
    have alone := Eval.expression_alone stops held 0 g enough
    rw [List.append_nil] at alone
    exact .expression alone rfl
  induction fields generalizing field with
  | nil =>
    rw [List.map_nil, List.map_nil, List.intercalate_singleton]
    exact .last (value (held field List.mem_cons_self)) nofun
  | cons next fields ih =>
    obtain ⟨first, others⟩ := List.forall_mem_cons.mp held
    have comma : Cursor.quote ∉ [','] := by decide
    rw [List.map_cons, List.map_cons, List.intercalate_cons_cons, List.append_assoc]
    exact .more (value first) (.more (.string comma g) (ih others))

theorem execute_printing {m : Machine} {fields : List Field} (nonempty : fields ≠ [])
    (held : Holds m.variables fields) :
    ∃ c, execute (.start m (printing (fields.map (·.1)))) =
      .ok () ⟨m.write (String.ofList (row (fields.map (·.2)))), c, m.room + 14⟩ := by
  obtain ⟨first, others, rfl⟩ := List.exists_cons_of_ne_nil nonempty
  let l := rowList first.1 (others.map (·.1))
  have wording : Says .print l.words (ofString "PRINT" ++ ' ' :: l.words.flatten) :=
    .of_blank (by decide +kernel) (by decide +kernel) (.tight l.words)
  rw [flatten_rowList, ← List.map_cons] at wording
  have held : Holds m.context.variables (first :: others) := held
  have enough : 13 + 1 ≤ m.room + 14 := Nat.le_add_left _ _
  obtain ⟨c, printed⟩ :=
    execute_print_of_printed wording (printed_rowList held enough m.generator)
  rw [isOpen_rowList] at printed
  have text : String.ofList (row ((first :: others).map (·.2))) =
      String.ofList ([','].intercalate (first.2.text :: others.map (·.2.text))) ++ "\n" := by
    rw [row, List.map_map, String.ofList_append]
    rfl
  rw [text]
  exact ⟨c, printed⟩

theorem takes_text (a : Number) : Takes a.text a := by
  obtain ⟨nonempty, written⟩ := a.written_text
  have whole : trim a.text = a.text := trim_of_not_isBlank fun c hc => (written c hc).not_isBlank
  exact .number (by rwa [whole]) (by rw [whole, a.read?_text])

theorem not_isLineEnd_row (values : List Number) :
    ∀ c ∈ [','].intercalate (values.map Number.text), isLineEnd c = false := by
  have text (value : Number) : ∀ c ∈ value.text, isLineEnd c = false := fun c hc =>
    (value.written_text.2 c hc).not_isLineEnd
  cases values with
  | nil => nofun
  | cons value values =>
    rw [List.map_cons, Text.intercalate_cons_eq, List.flatMap_map]
    refine List.forall_mem_append.mpr ⟨text value, fun c hc => ?_⟩
    obtain ⟨value, -, hc⟩ := List.mem_flatMap.mp hc
    rcases List.mem_cons.mp hc with rfl | hc
    · rfl
    · exact text value c hc

theorem inputFields_row {values : List Number} (nonempty : values ≠ []) (rest : Text) :
    InputFields (row values ++ rest) rest (values.map Number.text) := by
  have whole := not_isLineEnd_row values
  have apart : ∀ field ∈ values.map Number.text, ',' ∉ field := fun field hf hc => by
    obtain ⟨value, -, rfl⟩ := List.mem_map.mp hf
    exact (value.written_text.2 _ hc).ne_comma rfl
  have fields : Row (values.map Number.text) ([','].intercalate (values.map Number.text)) := by
    rw [← List.append_nil ([','].intercalate _)]
    refine .intro (by simpa using nonempty) apart (fun feed => ?_) ?_ (List.forall_mem_nil _)
    · exact absurd (whole _ feed) (by decide)
    · rintro c hc rfl
      exact absurd (whole _ (List.mem_of_getLast? hc)) (by decide)
  rw [row, List.append_assoc, List.singleton_append]
  exact .line fields rest

/-- A row of values is read into distinct names, and what is behind it in the input is left. -/
theorem execute_asking {m : Machine} {names : List Text} {values : List Number} {rest : Text}
    (nonempty : names ≠ []) (legal : ∀ name ∈ names, IsName name)
    (distinct : (names.map lower).Nodup) (length : names.length = values.length)
    (ahead : m.console.input = row values ++ rest) :
    ∃ m' c room, execute (.start m (asking names)) = .ok () ⟨m', c, room⟩ ∧
      m'.console.input = rest ∧
      ∀ entry ∈ (names.map lower).zip values, m'.variables.get? entry.1 = some entry.2 := by
  have filled : values ≠ [] := by
    rintro rfl
    exact nonempty (List.eq_nil_of_length_eq_zero length)
  have wording : Says .input (inputWords none names) (ofString "INPUT" ++ ' ' :: _) :=
    .of_blank (by decide +kernel) (by decide +kernel) (.tight _)
  have field {i : Nat} {value : Number} (there : values[i]? = some value) :
      Takes ((values.map Number.text).getD i []) value := by
    rw [List.getD_eq_getElem?_getD, List.getElem?_map, there]
    exact takes_text value
  have accepted : ∀ i < names.length, ¬Rejects ((values.map Number.text).getD i []) := by
    intro i hi
    exact (field (List.getElem?_eq_getElem (length ▸ hi))).not_rejects
  obtain ⟨after, c, done, assigned⟩ := execute_input_of_not_rejects (by rintro _ ⟨⟩) nonempty legal
    wording (ahead ▸ inputFields_row filled rest) accepted
  refine ⟨_, c, _, done, rfl, fun entry hm => ?_⟩
  obtain ⟨i, place⟩ := List.mem_iff_getElem?.mp hm
  obtain ⟨key, value⟩ := List.getElem?_zip_eq_some.mp place
  have here := key
  rw [List.getElem?_map, Option.map_eq_some_iff] at here
  obtain ⟨name, here, same⟩ := here
  obtain ⟨taken, takes, held⟩ := assigned.last i name here fun j behind other there again => by
    have key' : (names.map lower)[j]? = some entry.1 := by
      rw [List.getElem?_map, there, Option.map_some, again, same]
    obtain ⟨inside, -⟩ := List.getElem?_eq_some_iff.mp key'
    exact List.nodup_iff_getElem?_ne_getElem?.mp distinct i j behind inside (key.trans key'.symm)
  rw [same, takes.unique (field value)] at held
  exact held

/-- The row that a list of variables was printed as gives each variable of an input exactly
the value of the variable at its place, in whatever machine it is read. -/
theorem asking_printed {m : Machine} {fields : List Field} (nonempty : fields ≠ [])
    (held : Holds m.variables fields) {names : List Text} (legal : ∀ name ∈ names, IsName name)
    (distinct : (names.map lower).Nodup) (length : names.length = fields.length) :
    ∃ line c, execute (.start m (printing (fields.map (·.1)))) =
        .ok () ⟨m.write (String.ofList line), c, m.room + 14⟩ ∧
      ∀ (m' : Machine) rest, m'.console.input = line ++ rest →
        ∃ m'' c' room, execute (.start m' (asking names)) = .ok () ⟨m'', c', room⟩ ∧
          m''.console.input = rest ∧
          ∀ entry ∈ (names.map lower).zip (fields.map (·.2)),
            m''.variables.get? entry.1 = some entry.2 := by
  obtain ⟨c, printed⟩ := execute_printing nonempty held
  have some : names ≠ [] := by
    rintro rfl
    exact nonempty (List.eq_nil_of_length_eq_zero length.symm)
  refine ⟨_, c, printed, fun m' rest ahead => ?_⟩
  exact execute_asking some legal distinct (by rw [length, List.length_map]) ahead

/-- The negative zero and the least positive number, in the variables `x` and `y`. -/
def extremes : List Field :=
  [(⟨['x'], isName_letter (by decide +kernel), by decide +kernel, by decide +kernel⟩,
      .finite true Magnitude.zero),
    (⟨['y'], isName_letter (by decide +kernel), by decide +kernel, by decide +kernel⟩,
      .finite false ⟨1, by decide⟩)]

theorem extremes_read_back :
    ∃ m : Machine, Holds m.variables extremes ∧
      ∃ line c, execute (.start m (printing (extremes.map (·.1)))) =
          .ok () ⟨m.write (String.ofList line), c, m.room + 14⟩ ∧
        ∀ (m' : Machine) rest, m'.console.input = line ++ rest →
          ∃ m'' c' room, execute (.start m' (asking [['p'], ['q']])) =
              .ok () ⟨m'', c', room⟩ ∧
            m''.console.input = rest ∧
            ∀ entry ∈ ([['p'], ['q']].map lower).zip (extremes.map (·.2)),
              m''.variables.get? entry.1 = some entry.2 := by
  let m := ((Machine.fresh 0 0 (.ofInput [])).assign ['x'] (.finite true Magnitude.zero)).assign
    ['y'] (.finite false ⟨1, by decide⟩)
  have held : Holds m.variables extremes := by
    unfold Holds extremes
    decide +kernel
  have legal : ∀ name ∈ [['p'], ['q']], IsName name :=
    List.forall_mem_cons.mpr ⟨isName_letter (by decide +kernel),
      List.forall_mem_singleton.mpr (isName_letter (by decide +kernel))⟩
  exact ⟨m, held, asking_printed (List.cons_ne_nil _ _) held legal (by decide +kernel) rfl⟩

end Statement

end NumberedBasic
