import NumberedBasic.Text.Basic

/-! # Classes of characters

Letters, digits and blanks of all scripts are told apart by their ranges, and the
signs of expressions belong to no class. A run of a class ends where the next
character is not of the class.
-/

namespace NumberedBasic.Text

section Runs

variable {p : Char → Bool} {run rest : Text}

theorem takeWhile_eq_nil (outside : ∀ c ∈ rest.head?, p c = false) :
    rest.takeWhile p = [] := by
  cases rest with
  | nil => rfl
  | cons c rest => simp [outside c rfl]

theorem takeWhile_run (inside : ∀ c ∈ run, p c = true) (outside : ∀ c ∈ rest.head?, p c = false) :
    (run ++ rest).takeWhile p = run := by
  rw [List.takeWhile_append_of_pos inside, takeWhile_eq_nil outside, List.append_nil]

theorem dropWhile_run (inside : ∀ c ∈ run, p c = true) (outside : ∀ c ∈ rest.head?, p c = false) :
    (run ++ rest).dropWhile p = rest := by
  rw [List.dropWhile_append_of_pos inside]
  cases rest with
  | nil => rfl
  | cons c rest => simp [outside c rfl]

theorem takeWhile_append_of_head (h : ∀ c ∈ rest.head?, p c = false) :
    (run ++ rest).takeWhile p = run.takeWhile p := by
  induction run with
  | nil => exact takeWhile_eq_nil h
  | cons c run ih => simp only [List.cons_append, List.takeWhile_cons, ih]

theorem dropWhile_append_of_head (h : ∀ c ∈ rest.head?, p c = false) :
    (run ++ rest).dropWhile p = run.dropWhile p ++ rest := by
  induction run with
  | nil => exact dropWhile_run (List.forall_mem_nil _) h
  | cons c run ih =>
    simp only [List.cons_append, List.dropWhile_cons, ih]
    split <;> rfl

theorem isPrefixOf_append_of_head {expected : Text} (h : ∀ c ∈ rest.head?, c ∉ expected) :
    expected.isPrefixOf (run ++ rest) = expected.isPrefixOf run := by
  induction expected generalizing run with
  | nil => rw [List.isPrefixOf_nil_left, List.isPrefixOf_nil_left]
  | cons first expected ih =>
    cases run with
    | nil =>
      cases rest with
      | nil => rfl
      | cons c rest =>
        have other : first ≠ c := fun same => h c rfl (same ▸ List.mem_cons_self)
        simp [List.isPrefixOf_cons_cons, other]
    | cons c run =>
      rw [List.cons_append, List.isPrefixOf_cons_cons, List.isPrefixOf_cons_cons]
      exact congrArg _ (ih fun c hc mem => h c hc (List.mem_cons_of_mem _ mem))

/-- A text begins with a run of a class, which may be empty. -/
theorem exists_run (p : Char → Bool) (text : Text) : ∃ run rest, text = run ++ rest ∧
    (∀ c ∈ run, p c = true) ∧ ∀ c ∈ rest.head?, p c = false := by
  refine ⟨text.takeWhile p, text.dropWhile p, List.takeWhile_append_dropWhile.symm,
    List.all_eq_true.mp List.all_takeWhile, fun c hc => ?_⟩
  have h := List.head?_dropWhile_not p text
  rwa [hc] at h

theorem forall_head?_append {P : Char → Prop} (h : ∀ c ∈ run.head?, P c)
    (h' : ∀ c ∈ rest.head?, P c) : ∀ c ∈ (run ++ rest).head?, P c := by
  cases run with
  | nil => exact h'
  | cons first run => exact h

end Runs

section Ranges

def Ranges.disjoint (ranges others : Ranges) : Bool :=
  ranges.all fun range => others.all fun other =>
    range.2.blt other.1 || other.2.blt range.1

theorem Ranges.not_contains {ranges others : Ranges} (h : ranges.disjoint others = true) {c : Char}
    (hc : ranges.contains c = true) : others.contains c = false := by
  obtain ⟨range, hr, hl, hu⟩ := (ranges.contains_iff c).mp hc
  rw [Bool.eq_false_iff]
  intro hc'
  obtain ⟨other, ho, hl', hu'⟩ := (others.contains_iff c).mp hc'
  simp only [disjoint, List.all_eq_true, Bool.or_eq_true, Nat.blt_eq] at h
  have := h range hr other ho
  omega

def allLetterRanges : Ranges :=
  (0x41, 0x5a) :: (0x61, 0x7a) :: letterRanges

def nameRanges : Ranges :=
  allLetterRanges ++ digitRanges ++ numeralRanges

variable {c : Char}

theorem contains_of_isLetter (h : isLetter c = true) : allLetterRanges.contains c = true := by
  unfold isLetter at h
  rw [Ranges.contains_iff]
  split at h
  · rcases Bool.or_eq_true_iff.mp h with h | h
    · exact ⟨(0x61, 0x7a), by simp [allLetterRanges], of_decide_eq_true h⟩
    · exact ⟨(0x41, 0x5a), by simp [allLetterRanges], of_decide_eq_true h⟩
  · obtain ⟨range, hr, hc⟩ := (Ranges.contains_iff _ c).mp h
    exact ⟨range, List.mem_cons_of_mem _ (List.mem_cons_of_mem _ hr), hc⟩

theorem contains_of_isDigit (h : isDigit c = true) : digitRanges.contains c = true := by
  unfold isDigit digitValue? at h
  rw [Ranges.contains_iff]
  split at h
  · split at h
    · rename_i hd
      exact ⟨(0x30, 0x39), by simp [digitRanges], hd⟩
    · cases h
  · rw [Option.isSome_map, List.find?_isSome] at h
    obtain ⟨range, hr, hc⟩ := h
    simp only [Bool.and_eq_true, decide_eq_true_eq] at hc
    exact ⟨range, hr, hc⟩

theorem contains_of_isNameChar (h : isNameChar c = true) : nameRanges.contains c = true := by
  have mem {ranges : Ranges} (hc : ranges.contains c = true) (hs : ranges ⊆ nameRanges) :
      nameRanges.contains c = true := by
    obtain ⟨range, hr, hc⟩ := (Ranges.contains_iff _ c).mp hc
    exact (Ranges.contains_iff _ c).mpr ⟨range, hs hr, hc⟩
  simp only [isNameChar, Bool.or_eq_true, Bool.and_eq_true] at h
  rcases h with (h | h) | ⟨-, h⟩
  · exact mem (contains_of_isLetter h) fun _ hr =>
      List.mem_append_left _ (List.mem_append_left _ hr)
  · exact mem (contains_of_isDigit h) fun _ hr =>
      List.mem_append_left _ (List.mem_append_right _ hr)
  · exact mem h fun _ hr => List.mem_append_right _ hr

theorem not_isDigit_of_isLetter (h : isLetter c = true) : isDigit c = false := by
  have hd : allLetterRanges.disjoint digitRanges = true := by decide +kernel
  rw [Bool.eq_false_iff]
  intro h'
  simpa [contains_of_isDigit h'] using Ranges.not_contains hd (contains_of_isLetter h)

theorem not_isBlank_of_isNameChar (h : isNameChar c = true) : isBlank c = false := by
  have hd : nameRanges.disjoint blankRanges = true := by decide +kernel
  exact Ranges.not_contains hd (contains_of_isNameChar h)

theorem isNameChar_of_isLetter (h : isLetter c = true) : isNameChar c = true := by
  simp [isNameChar, h]

theorem isNameChar_of_isDigit (h : isDigit c = true) : isNameChar c = true := by
  simp [isNameChar, h]

theorem not_isNameChar_of_isBlank (h : isBlank c = true) : isNameChar c = false := by
  rw [Bool.eq_false_iff]
  intro h'
  simpa [h] using not_isBlank_of_isNameChar h'

theorem not_isDigit_of_isBlank (h : isBlank c = true) : isDigit c = false := by
  rw [Bool.eq_false_iff]
  intro h'
  simpa [h] using not_isBlank_of_isNameChar (isNameChar_of_isDigit h')

theorem ne_point_of_isBlank (h : isBlank c = true) : c ≠ '.' := by
  rintro rfl
  revert h
  decide +kernel

end Ranges

section Lower

variable {run : Text}

theorem lowerFrom_append (h : '\u03a3' ∉ run) (before rest : Text) :
    lowerFrom before (run ++ rest) =
      lowerFrom before run ++ lowerFrom (run.reverse ++ before) rest := by
  induction run generalizing before with
  | nil => rfl
  | cons c run ih =>
    obtain ⟨hc, hr⟩ := not_or.mp fun hm => h (List.mem_cons.mpr hm)
    simp only [List.cons_append, lowerFrom, if_neg (Ne.symm hc), ih hr, List.append_assoc,
      List.reverse_cons, List.nil_append]

theorem sigma_mem_lowerFrom (h : '\u03a3' ∈ run) (before : Text) :
    '\u03c2' ∈ lowerFrom before run ∨ '\u03c3' ∈ lowerFrom before run := by
  induction run generalizing before with
  | nil => cases h
  | cons c run ih =>
    rw [lowerFrom, List.mem_append, List.mem_append]
    rcases List.mem_cons.mp h with rfl | h
    · rw [if_pos rfl]
      split <;> simp
    · rcases ih h (c :: before) with h | h
      · exact .inl (.inr h)
      · exact .inr (.inr h)

/-- Only a capital sigma is seen by the characters around it, so a word that begins with
another one keeps its letters in lower case. -/
theorem lower_prefix (h : '\u03c2' ∉ lower run ∧ '\u03c3' ∉ lower run) (rest : Text) :
    lower run <+: lower (run ++ rest) := by
  have hs : '\u03a3' ∉ run := fun hs => (sigma_mem_lowerFrom hs []).elim h.1 h.2
  exact ⟨_, (lowerFrom_append hs [] rest).symm⟩

end Lower

end NumberedBasic.Text
