import NumberedBasic.Directory
import NumberedBasic.Table.Lookup

/-! # Files that were written

Writing a file makes no folder, as the file's own folder has to be there before. So every
path that named a file names it still, the written one is read as it was written, and to
write it once more changes nothing.
-/

namespace NumberedBasic

theorem Table.mem_keys_insert_iff {κ α : Type} [Ord κ] [DecidableEq κ] [Std.TransOrd κ]
    [Std.LawfulEqOrd κ] {t : Table κ α} {key other : κ} {value : α} :
    other ∈ (t.insert key value).keys ↔ other = key ∨ other ∈ t.keys := by
  have mem_keys_iff (t : Table κ α) : other ∈ t.keys ↔ ∃ value, t.get? other = some value := by
    simp [keys, get?_eq_some_iff]
  rw [mem_keys_iff, mem_keys_iff, get?_insert]
  split
  · rename_i h
    simp [h]
  · rename_i h
    simp [h]

theorem Table.insert_insert_self {κ α : Type} [Ord κ] [DecidableEq κ] [Std.TransOrd κ]
    [Std.LawfulEqOrd κ] (t : Table κ α) (key : κ) (value : α) :
    (t.insert key value).insert key value = t.insert key value := by
  refine ext_get? fun other => ?_
  rw [get?_insert, get?_insert]
  split <;> rfl

namespace Directory

variable {d d' : Directory} {p : Path} {folder inner above file : List Text} {name : Text}

section Results

variable {α β : Type} {x : Except FileError α} {f : α → Except FileError β} {b : β}

theorem bind_eq_ok_iff : (x >>= f) = .ok b ↔ ∃ a, x = .ok a ∧ f a = .ok b := by
  cases x with
  | error error => exact ⟨nofun, nofun⟩
  | ok a =>
    constructor
    · exact fun h => ⟨a, rfl, h⟩
    · rintro ⟨_, ⟨⟩, h⟩
      exact h

theorem refuseIf_eq_ok_iff {refused : Bool} {error : FileError} {u : Unit} :
    refuseIf refused error = .ok u ↔ refused = false := by
  cases refused <;> simp [refuseIf]

end Results

section Folders

theorem hasFolder_iff : d.hasFolder folder = true ↔
    folder <+: d.location ∨ ∃ file ∈ d.files.keys, folder <+: file ∧
      folder.length < file.length := by
  simp [hasFolder]

theorem hasFolder_above (h : d.hasFolder folder = true) (hp : above <+: folder) :
    d.hasFolder above = true := by
  rw [hasFolder_iff] at h ⊢
  rcases h with h | ⟨file, hf, h, hl⟩
  · exact .inl (hp.trans h)
  · exact .inr ⟨file, hf, hp.trans h, Nat.lt_of_le_of_lt hp.length_le hl⟩

theorem hasFolder_start (d : Directory) (p : Path) : d.hasFolder (d.start p) = true := by
  rw [hasFolder_iff, start]
  split
  · exact .inl (List.prefix_refl _)
  · exact .inl (List.nil_prefix)

theorem enter_cases (h : d.enter folder name = .ok inner) :
    isTooLong name = false ∧ (name = Path.parent ∧ inner = folder.dropLast ∨
      name ≠ Path.parent ∧ d.hasFolder (folder ++ [name]) = true ∧ inner = folder ++ [name]) := by
  unfold enter at h
  split at h
  · cases h
  · rename_i hl
    refine ⟨Bool.eq_false_iff.mpr hl, ?_⟩
    split at h
    · rename_i hp
      cases h
      exact .inl ⟨hp, rfl⟩
    · rename_i hp
      split at h
      · rename_i hf
        cases h
        exact .inr ⟨hp, hf, rfl⟩
      · split at h <;> cases h

theorem enter_hasFolder (h : d.enter folder name = .ok inner) (hf : d.hasFolder folder = true) :
    d.hasFolder inner = true := by
  obtain ⟨-, ⟨-, rfl⟩ | ⟨-, found, rfl⟩⟩ := enter_cases h
  · exact hasFolder_above hf (List.dropLast_prefix folder)
  · exact found

theorem foldlM_enter_hasFolder {names : List Text} (h : names.foldlM d.enter folder = .ok inner)
    (hf : d.hasFolder folder = true) : d.hasFolder inner = true := by
  induction names generalizing folder with
  | nil =>
    cases h
    exact hf
  | cons name names ih =>
    obtain ⟨next, he, h⟩ := bind_eq_ok_iff.mp h
    exact ih h (enter_hasFolder he hf)

/-- What names a file: folders that are there before its own name, and no folder of it. -/
theorem locate_eq_ok_iff : d.locate p = .ok file ↔
    decide (pathLimit < p.size) = false ∧ ∃ last folder, p.names.getLast? = some last ∧
      p.names.dropLast.foldlM d.enter (d.start p) = .ok folder ∧
      decide (last = Path.parent) = false ∧ isTooLong last = false ∧
      d.hasFolder (folder ++ [last]) = false ∧ folder ++ [last] = file := by
  unfold locate
  rw [bind_eq_ok_iff]
  constructor
  · rintro ⟨_, short, h⟩
    refine ⟨refuseIf_eq_ok_iff.mp short, ?_⟩
    split at h
    · cases h
    · rename_i last hl
      obtain ⟨folder, entered, h⟩ := bind_eq_ok_iff.mp h
      obtain ⟨_, notParent, h⟩ := bind_eq_ok_iff.mp h
      obtain ⟨_, notLong, h⟩ := bind_eq_ok_iff.mp h
      obtain ⟨_, notFolder, h⟩ := bind_eq_ok_iff.mp h
      cases h
      exact ⟨last, folder, hl, entered, refuseIf_eq_ok_iff.mp notParent,
        refuseIf_eq_ok_iff.mp notLong, refuseIf_eq_ok_iff.mp notFolder, rfl⟩
  · rintro ⟨short, last, folder, hl, entered, notParent, notLong, notFolder, rfl⟩
    refine ⟨(), refuseIf_eq_ok_iff.mpr short, ?_⟩
    rw [hl]
    refine bind_eq_ok_iff.mpr ⟨folder, entered, ?_⟩
    refine bind_eq_ok_iff.mpr ⟨(), refuseIf_eq_ok_iff.mpr notParent, ?_⟩
    refine bind_eq_ok_iff.mpr ⟨(), refuseIf_eq_ok_iff.mpr notLong, ?_⟩
    exact bind_eq_ok_iff.mpr ⟨(), refuseIf_eq_ok_iff.mpr notFolder, rfl⟩

end Folders

section Written

variable {content : Content}

theorem put_hasFolder (h : d.hasFolder folder = true) (other : List Text) :
    (d.put (folder ++ [name]) content).hasFolder other = d.hasFolder other := by
  refine Bool.eq_iff_iff.mpr ?_
  rw [hasFolder_iff, hasFolder_iff]
  constructor
  · rintro (hl | ⟨file, hf, hp, hlt⟩)
    · exact .inl hl
    · rcases Table.mem_keys_insert_iff.mp hf with rfl | hf
      · -- a folder above the new file is above its folder, which was there before
        have within : other <+: folder := by
          refine List.prefix_of_prefix_length_le hp (List.prefix_append folder [name]) ?_
          simpa [Nat.lt_succ_iff] using hlt
        exact hasFolder_iff.mp (hasFolder_above h within)
      · exact .inr ⟨file, hf, hp, hlt⟩
  · rintro (hl | ⟨file, hf, hp, hlt⟩)
    · exact .inl hl
    · exact .inr ⟨file, Table.mem_keys_insert_iff.mpr (.inr hf), hp, hlt⟩

theorem enter_congr (same : ∀ other, d'.hasFolder other = d.hasFolder other)
    (h : d.enter folder name = .ok inner) : d'.enter folder name = .ok inner := by
  obtain ⟨short, ⟨hp, rfl⟩ | ⟨hp, found, rfl⟩⟩ := enter_cases h
  · subst hp
    simp [enter, short]
  · simp [enter, short, hp, same, found]

theorem foldlM_enter_congr (same : ∀ other, d'.hasFolder other = d.hasFolder other)
    {names : List Text} (h : names.foldlM d.enter folder = .ok inner) :
    names.foldlM d'.enter folder = .ok inner := by
  induction names generalizing folder with
  | nil => exact h
  | cons name names ih =>
    obtain ⟨next, he, h⟩ := bind_eq_ok_iff.mp h
    exact bind_eq_ok_iff.mpr ⟨next, enter_congr same he, ih h⟩

/-- A path still names its file after the file was written. -/
theorem locate_put (h : d.locate p = .ok file) : (d.put file content).locate p = .ok file := by
  obtain ⟨short, last, folder, hl, entered, notParent, notLong, notFolder, rfl⟩ :=
    locate_eq_ok_iff.mp h
  have same (other : List Text) :
      (d.put (folder ++ [last]) content).hasFolder other = d.hasFolder other :=
    put_hasFolder (foldlM_enter_hasFolder entered (d.hasFolder_start p)) other
  exact locate_eq_ok_iff.mpr ⟨short, last, folder, hl, foldlM_enter_congr same entered,
    notParent, notLong, (same _).trans notFolder, rfl⟩

variable {text : Text}

/-- What was written is read, and to write it once more changes nothing. -/
theorem read_written (h : d.write p text = .ok d') :
    d'.read p = .ok (.text text) ∧ d'.write p text = .ok d' := by
  obtain ⟨file, located, h⟩ := bind_eq_ok_iff.mp h
  cases h
  have again : (d.put file (.text text)).locate p = .ok file := locate_put located
  constructor
  · refine bind_eq_ok_iff.mpr ⟨file, again, ?_⟩
    simp only [put, Table.get?_insert, if_pos]
    rfl
  · refine bind_eq_ok_iff.mpr ⟨file, again, ?_⟩
    simp only [put, Table.insert_insert_self]
    rfl

end Written

end Directory

end NumberedBasic
