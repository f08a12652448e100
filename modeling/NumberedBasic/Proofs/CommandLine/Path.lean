import Mathlib.Data.List.Basic
import Mathlib.Data.List.Induction
import NumberedBasic.Proofs.Session.Written

/-! # Absolute paths

The names that lead to a file from the root are those of the folders that a path has entered.
So what is read at a path is read at its absolute path as well, unless that is too long.
-/

namespace NumberedBasic

namespace Path

theorem length_text_le_size (p : Path) : p.text.length ≤ p.size := by
  have length_le (text : Text) : text.length ≤ (String.ofList text).utf8ByteSize := by
    induction text with
    | nil => exact Nat.zero_le _
    | cons c text ih =>
      rw [String.ofList_cons, String.utf8ByteSize_append, String.utf8ByteSize_singleton,
        List.length_cons, Nat.add_comm]
      exact Nat.add_le_add c.utf8Size_pos ih
  exact length_le p.text

theorem resolve_concat (names : List Text) (name : Text) : resolve (names ++ [name]) =
    if name = parent then (resolve names).dropLast else resolve names ++ [name] :=
  List.foldl_append

end Path

namespace Directory

variable {d : Directory} {p : Path} {folder inner file : List Text} {name : Text}

/-- The names lead down to a folder from the root: none is too long or leads back. -/
structure Leads (d : Directory) (folder : List Text) : Prop where
  found : d.hasFolder folder = true
  short : ∀ name ∈ folder, isTooLong name = false
  down : ∀ name ∈ folder, name ≠ Path.parent

namespace Leads

theorem above (h : d.Leads folder) (hp : inner <+: folder) : d.Leads inner where
  found := hasFolder_above h.found hp
  short name hn := h.short name (hp.subset hn)
  down name hn := h.down name (hp.subset hn)

theorem enter (h : d.Leads folder) (entered : d.enter folder name = .ok inner) :
    d.Leads inner := by
  obtain ⟨short, ⟨-, rfl⟩ | ⟨down, found, rfl⟩⟩ := enter_cases entered
  · exact h.above (List.dropLast_prefix folder)
  · exact ⟨found, List.forall_mem_append.mpr ⟨h.short, List.forall_mem_singleton.mpr short⟩,
      List.forall_mem_append.mpr ⟨h.down, List.forall_mem_singleton.mpr down⟩⟩

theorem foldlM_enter {names : List Text} (h : d.Leads folder)
    (entered : names.foldlM d.enter folder = .ok inner) : d.Leads inner := by
  induction names generalizing folder with
  | nil =>
    cases entered
    exact h
  | cons name names ih =>
    obtain ⟨next, first, entered⟩ := bind_eq_ok_iff.mp entered
    exact ih (h.enter first) entered

theorem entered (h : d.Leads folder) : folder.foldlM d.enter [] = .ok folder := by
  induction folder using List.reverseRecOn with
  | nil => rfl
  | append_singleton folder name ih =>
    have last : name ∈ folder ++ [name] := List.mem_append_right folder List.mem_cons_self
    have step : d.enter folder name = .ok (folder ++ [name]) := by
      rw [Directory.enter, h.short name last, if_neg (by simp), if_neg (h.down name last),
        if_pos h.found]
    rw [List.foldlM_append]
    refine bind_eq_ok_iff.mpr ⟨folder, ih (h.above (List.prefix_append folder [name])), ?_⟩
    exact bind_eq_ok_iff.mpr ⟨_, step, rfl⟩

theorem start (placed : d.Leads d.location) (p : Path) : d.Leads (d.start p) := by
  unfold Directory.start
  split
  · exact placed
  · exact placed.above List.nil_prefix

end Leads

/-- Names that are entered from the root resolve to the folder that they lead to. -/
theorem resolve_of_entered {names : List Text} (entered : names.foldlM d.enter [] = .ok inner) :
    Path.resolve names = inner := by
  induction names using List.reverseRecOn generalizing inner with
  | nil =>
    cases entered
    rfl
  | append_singleton names name ih =>
    rw [List.foldlM_append] at entered
    obtain ⟨folder, before, entered⟩ := bind_eq_ok_iff.mp entered
    obtain ⟨_, last, entered⟩ := bind_eq_ok_iff.mp entered
    cases entered
    rw [Path.resolve_concat, ih before]
    obtain ⟨-, ⟨up, rfl⟩ | ⟨down, -, rfl⟩⟩ := enter_cases last
    · rw [if_pos up]
    · rw [if_neg down]

theorem absolute_of_locate (placed : d.Leads d.location) (located : d.locate p = .ok file) :
    d.absolute p = ⟨['/'], file⟩ := by
  obtain ⟨-, last, folder, hl, entered, notParent, -, -, rfl⟩ := locate_eq_ok_iff.mp located
  have names : p.names.dropLast ++ [last] = p.names := List.dropLast_append_getLast? last hl
  have before : (d.start p ++ p.names.dropLast).foldlM d.enter [] = .ok folder := by
    rw [List.foldlM_append]
    exact bind_eq_ok_iff.mpr ⟨_, (placed.start p).entered, entered⟩
  rw [absolute, ← names, ← List.append_assoc, Path.resolve_concat, resolve_of_entered before,
    if_neg (of_decide_eq_false notParent)]

/-- The absolute path of a file names the same file, unless it is too long. -/
theorem locate_absolute (placed : d.Leads d.location) (located : d.locate p = .ok file)
    (short : (d.absolute p).size ≤ pathLimit) : d.locate (d.absolute p) = .ok file := by
  have absolute := absolute_of_locate placed located
  obtain ⟨-, last, folder, -, entered, notParent, notLong, notFolder, rfl⟩ :=
    locate_eq_ok_iff.mp located
  have leads : d.Leads folder := (placed.start p).foldlM_enter entered
  refine locate_eq_ok_iff.mpr ⟨decide_eq_false (Nat.not_lt.mpr short), last, folder, ?_, ?_,
    notParent, notLong, notFolder, rfl⟩
  · rw [absolute, List.getLast?_concat]
  · rw [absolute, List.dropLast_concat]
    exact leads.entered

theorem read_absolute {content : Content} (placed : d.Leads d.location)
    (read : d.read p = .ok content) (short : (d.absolute p).size ≤ pathLimit) :
    d.read (d.absolute p) = .ok content := by
  obtain ⟨file, located, found⟩ := bind_eq_ok_iff.mp read
  exact bind_eq_ok_iff.mpr ⟨file, locate_absolute placed located short, found⟩

theorem read_of_long (long : pathLimit < p.size) : d.read p = .error .nameTooLong := by
  have refused : refuseIf (pathLimit < p.size) .nameTooLong = .error .nameTooLong := by
    rw [decide_eq_true long]
    rfl
  rw [read, locate, refused]
  rfl

end Directory

end NumberedBasic
