import NumberedBasic.Proofs.Session.Edit
import NumberedBasic.Proofs.Text.Line

/-! # What a history of edits leaves

A program that was filled by storing, deleting and clearing lines is a finite map from numbers to
trimmed texts, listed in order up to the first number that cannot be written. It holds exactly the
lines that survive, so histories with the same survivors leave the same program, whatever their
order is.
-/

namespace NumberedBasic

namespace Edit

/-- The text was stored under the number, and no later edit has stored the number again or
taken it away. -/
def Survives (number : Int) (text : Text) (edits : List Edit) : Prop :=
  ∃ before after, edits = before ++ .store number text :: after ∧
    ∀ later ∈ after, later.stores number = false ∧ later.removes number = false

theorem survives_iff {number : Int} {text : Text} {edits : List Edit} :
    Survives number text edits ↔ ∃ before edit after, edits = before ++ edit :: after ∧
      edit = .store number text ∧
        ∀ later ∈ after, later.stores number = false ∧ later.removes number = false := by
  constructor
  · rintro ⟨before, after, h, kept⟩
    exact ⟨before, _, after, h, rfl, kept⟩
  · rintro ⟨before, _, after, h, rfl, kept⟩
    exact ⟨before, after, h, kept⟩

theorem not_survives_nil (number : Int) (text : Text) : ¬Survives number text [] := by
  rintro ⟨before, after, h, -⟩
  simp at h

/-- The last edit decides, unless it leaves the number alone. -/
theorem survives_concat_iff {number : Int} {text : Text} {edits : List Edit} {last : Edit} :
    Survives number text (edits ++ [last]) ↔
      last = .store number text ∨
        Survives number text edits ∧ last.stores number = false ∧ last.removes number = false := by
  rw [survives_iff, survives_iff]
  exact exists_split_concat_iff

end Edit

theorem Machine.address_restarted (m : Machine) :
    m.restarted.address = m.program.lineNumbers := by
  obtain ⟨errors, h⟩ := m.exists_restarted_eq
  rw [h]

namespace Program

open Edit

/-- The program after an edit is asked for, and why it was refused. -/
def attempt (p : Program) : Edit → Program × Option Cause
  | .store number text => (p.store number text, none)
  | .erase number =>
    match p.delete number with
    | .ok p => (p, none)
    | .error cause => (p, some cause)
  | .clear => (Table.empty, none)

/-- What is left of an empty program when edits are asked for one after the other. -/
def ofHistory (edits : List Edit) : Program :=
  edits.foldl (fun p e => (p.attempt e).1) Table.empty

variable {p : Program} {number : Int}

theorem contains_iff : p.contains number = true ↔ number ∈ p.lineNumbers := by
  rw [mem_lineNumbers_iff, Table.contains, Option.isSome_iff_ne_none]

theorem erase_of_absent (absent : p.get? number = none) : p.erase number = p := by
  apply Table.ext_get?
  intro other
  rw [Table.get?_erase]
  split
  · rename_i h
    rw [h, absent]
  · rfl

theorem attempt_erase_present (h : number ∈ p.lineNumbers) :
    p.attempt (.erase number) = (p.erase number, none) := by
  simp only [attempt, delete, if_pos (contains_iff.mpr h)]

theorem attempt_erase_absent (h : number ∉ p.lineNumbers) :
    p.attempt (.erase number) = (p, some (.lineMissing number)) := by
  simp only [attempt, delete, if_neg fun present => h (contains_iff.mp present)]

/-- A refused edit changes nothing, as erasing an absent line would not. -/
theorem attempt_fst (p : Program) (e : Edit) : (p.attempt e).1 = p.edit e := by
  cases e with
  | store number text => rfl
  | clear => rfl
  | erase number =>
    by_cases h : number ∈ p.lineNumbers
    · rw [attempt_erase_present h]
      rfl
    · rw [attempt_erase_absent h]
      rw [mem_lineNumbers_iff, not_not] at h
      exact (erase_of_absent h).symm

theorem ofHistory_eq_edited (edits : List Edit) :
    ofHistory edits = edited Table.empty edits := by
  rw [ofHistory, edited]
  exact congrArg (List.foldl · Table.empty edits) (funext₂ attempt_fst)

/-- A history leaves the trimmed texts of the lines that survive it, and nothing else. -/
theorem get?_ofHistory_eq_some_iff {edits : List Edit} {shown : Text} :
    (ofHistory edits).get? number = some shown ↔
      ∃ text, Survives number text edits ∧ text.trim = shown := by
  rw [ofHistory_eq_edited]
  induction edits using List.reverseRecOn with
  | nil => simp [not_survives_nil]
  | append_singleton edits last ih =>
    rw [edited_append]
    change ((edited _ edits).edit last).get? number = some shown ↔ _
    rw [get?_edit_eq_some_iff, ih]
    simp only [survives_concat_iff, or_and_right, exists_or]
    grind

/-- The program shows the lines that survive some edits, in order, and all ways to look at it agree:
numbers, texts, membership, size, the lines one after the other and the listing, which stops
where a number cannot be written. A line can be deleted if it is there, and a deletion that is
refused changes nothing. -/
structure Shows (p : Program) (edits : List Edit) : Prop where
  ascending : p.lineNumbers.Pairwise (· < ·)
  numbers : ∀ number, number ∈ p.lineNumbers ↔ ∃ text, Survives number text edits
  texts : ∀ number text, Survives number text edits → p.get? number = some text.trim
  absent : ∀ number, p.get? number = none ↔ number ∉ p.lineNumbers
  contained : ∀ number, p.contains number = true ↔ number ∈ p.lineNumbers
  size : p.size = p.lineNumbers.length
  entries : p.entries.map (fun line => (line.1, some line.2)) =
    p.lineNumbers.map fun number => (number, p.get? number)
  listing : p.listing.map some = (p.lineNumbers.takeWhile NumberedBasic.isWritable).map
    fun number => (p.get? number).map (listingLine number)
  listed : p.isWritable = true ↔ ∀ number ∈ p.lineNumbers, number.natAbs < 10 ^ 4300
  deleted : ∀ number ∈ p.lineNumbers, ∃ q, p.attempt (.erase number) = (q, none) ∧
    ∀ other, q.get? other = if other = number then none else p.get? other
  refused : ∀ number ∉ p.lineNumbers, p.attempt (.erase number) =
    (p, some (.lineMissing number)) ∧
      ((Cause.lineMissing number).kind = .control ↔ number.natAbs < 10 ^ 4300)

theorem get?_of_mem_entries {line : Int × Text} (h : line ∈ p.entries) :
    p.get? line.1 = some line.2 :=
  (Table.get?_eq_some_iff p line.1 line.2).mpr h

theorem ofHistory_shows (edits : List Edit) : (ofHistory edits).Shows edits where
  ascending := lineNumbers_ascending _
  numbers number := by
    rw [mem_lineNumbers_iff, Option.ne_none_iff_exists']
    simp only [get?_ofHistory_eq_some_iff]
    constructor
    · rintro ⟨shown, text, h, -⟩
      exact ⟨text, h⟩
    · rintro ⟨text, h⟩
      exact ⟨_, text, h, rfl⟩
  texts number text h := get?_ofHistory_eq_some_iff.mpr ⟨text, h, rfl⟩
  absent number := by rw [mem_lineNumbers_iff, not_not]
  contained number := contains_iff
  size := (List.length_map _).symm
  entries := by
    rw [lineNumbers, Table.keys, List.map_map]
    exact List.map_congr_left fun line h => by simp [get?_of_mem_entries h]
  listing := by
    rw [Program.listing, lineNumbers, Table.keys, List.takeWhile_map, List.map_map, List.map_map]
    refine List.map_congr_left fun line h => ?_
    have stored := get?_of_mem_entries ((List.takeWhile_prefix _).subset h)
    simp [stored]
  listed := by
    rw [isWritable, List.all_eq_true, ← show integerDigits = 4300 from rfl]
    exact forall₂_congr fun _ _ => isWritable_iff
  deleted number h := ⟨_, attempt_erase_present h, Table.get?_erase _ number⟩
  refused number h := by
    refine ⟨attempt_erase_absent h, ?_⟩
    rw [Cause.kind, ← show integerDigits = 4300 from rfl, ← isWritable_iff]
    cases NumberedBasic.isWritable number <;> simp

theorem ofHistory_congr {edits edits' : List Edit}
    (same : ∀ number text, Survives number text edits ↔ Survives number text edits') :
    ofHistory edits = ofHistory edits' := by
  apply Table.ext_get?
  intro number
  ext shown
  simp only [get?_ofHistory_eq_some_iff, same]

/-- Every history leaves an ordered finite map of its surviving lines. Histories with the same
survivors leave the same program, with the same listing and the same table for a run. -/
theorem history_ordered_map (edits : List Edit) :
    (ofHistory edits).Shows edits ∧ ∀ edits' : List Edit,
      (∀ number text, Survives number text edits ↔ Survives number text edits') →
        (ofHistory edits).entries = (ofHistory edits').entries ∧
        (ofHistory edits).listing = (ofHistory edits').listing ∧
        ∀ m m' : Machine, m.program = ofHistory edits → m'.program = ofHistory edits' →
          m.restarted.address = m'.restarted.address ∧
            m.restarted.address = (ofHistory edits).lineNumbers := by
  refine ⟨ofHistory_shows edits, fun edits' same => ?_⟩
  rw [← ofHistory_congr same]
  refine ⟨rfl, rfl, fun m m' h h' => ?_⟩
  rw [m.address_restarted, m'.address_restarted, h, h']
  exact ⟨rfl, rfl⟩

/-- A number with too many digits is kept but not listed, and the refusal to delete a line under it
is of another kind than the refusal to delete any other missing line. -/
theorem long_number_unlisted :
    let long : Int := 10 ^ integerDigits
    (ofHistory [.store long []]).lineNumbers = [long] ∧ (ofHistory [.store long []]).listing = [] ∧
      (ofHistory [.store long []]).isWritable = false ∧
      (ofHistory []).attempt (.erase long) = (ofHistory [], some (.lineMissing long)) ∧
      (Cause.lineMissing long).kind = .conversion ∧ (Cause.lineMissing 1).kind = .control := by
  intro long
  have unwritable : NumberedBasic.isWritable long = false := by
    rw [Bool.eq_false_iff, ne_eq, isWritable_iff]
    simp [long, Int.natAbs_pow]
  clear_value long
  have entries : (ofHistory [.store long []]).entries = [(long, [])] := rfl
  refine ⟨rfl, ?_, ?_, attempt_erase_absent List.not_mem_nil, ?_, rfl⟩
  · simp [Program.listing, entries, unwritable]
  · simp [Program.isWritable, lineNumbers, Table.keys, entries, unwritable]
  · simp [Cause.kind, unwritable]

end Program

end NumberedBasic
