import Mathlib.Data.List.DropRight
import NumberedBasic.Cursor
import NumberedBasic.Proofs.Text.Class

/-! # Lines as text

A line number is read back from its decimal digits, whatever stands behind them, and a file
splits into the lines that it was made of. Blanks at the end of a line number are trimmed.
-/

namespace NumberedBasic

namespace Text

section Numerals

variable {c : Char}

theorem digitValue?_of_isDigit (h : c.isDigit = true) :
    digitValue? c = some (c.toNat - '0'.toNat) := by
  obtain ⟨lower, upper⟩ := Char.isDigit_iff_toNat.mp h
  have ascii : c.toNat < 128 := Nat.lt_of_le_of_lt upper (by decide)
  have between : '0' ≤ c ∧ c ≤ '9' := ⟨lower, upper⟩
  rw [digitValue?, if_pos ascii, if_pos between]

theorem isDigit_of_mem_toDigits {n : Nat} (h : c ∈ Nat.toDigits 10 n) : isDigit c = true := by
  rw [isDigit, digitValue?_of_isDigit (Nat.isDigit_of_mem_toDigits (by decide) (by decide) h)]
  rfl

theorem digitsValue_toDigits (n : Nat) : digitsValue (Nat.toDigits 10 n) = n := by
  have foldl (digits : List Char) (start : Nat) (h : ∀ c ∈ digits, c.isDigit = true) :
      digits.foldl (fun n c => 10 * n + (digitValue? c).getD 0) start =
        Nat.ofDigitChars 10 digits start := by
    induction digits generalizing start with
    | nil => rfl
    | cons c digits ih =>
      obtain ⟨hc, hd⟩ := List.forall_mem_cons.mp h
      rw [List.foldl_cons, digitValue?_of_isDigit hc, ih _ hd]
      rfl
  rw [digitsValue, foldl _ _ fun c hc => Nat.isDigit_of_mem_toDigits (by decide) (by decide) hc]
  exact Nat.ofDigitChars_toDigits (by decide) (by decide)

theorem digitValue?_lt {n : Nat} (h : digitValue? c = some n) : n < 10 := by
  unfold digitValue? at h
  split at h
  · split at h
    · rename_i between
      cases h
      have upper : c.toNat ≤ '9'.toNat := between.2
      exact Nat.lt_of_le_of_lt (Nat.sub_le_sub_right upper _) (by decide)
    · cases h
  · obtain ⟨range, -, rfl⟩ := Option.map_eq_some_iff.mp h
    exact Nat.mod_lt _ (by decide)

theorem digitsValue_lt (digits : List Char) : digitsValue digits < 10 ^ digits.length := by
  have foldl (start : Nat) : digits.foldl (fun n c => 10 * n + (digitValue? c).getD 0) start <
      (start + 1) * 10 ^ digits.length := by
    induction digits generalizing start with
    | nil => simp
    | cons c digits ih =>
      have digit : (digitValue? c).getD 0 < 10 := by
        cases hd : digitValue? c with
        | none => decide
        | some n => exact digitValue?_lt hd
      refine (ih _).trans_le ?_
      rw [List.length_cons, Nat.pow_succ', ← Nat.mul_assoc]
      refine Nat.mul_le_mul_right _ ?_
      dsimp only
      omega
  have all := foldl 0
  rwa [Nat.zero_add, Nat.one_mul] at all

end Numerals

section Blanks

theorem trimStart_trimStart (text : Text) : text.trimStart.trimStart = text.trimStart :=
  List.dropWhile_idempotent _ _

theorem trimStart_trim (text : Text) : text.trim.trimStart = text.trim := by
  refine List.dropWhile_eq_self_iff.mpr fun hl => ?_
  have hp : text.trim <+: text.trimStart := List.rdropWhile_prefix isBlank text.trimStart
  rw [hp.getElem hl]
  exact List.dropWhile_get_zero_not isBlank text (hl.trans_le hp.length_le)

theorem trim_trim (text : Text) : text.trim.trim = text.trim := by
  rw [trim, trimStart_trim]
  exact List.rdropWhile_idempotent isBlank text.trimStart

theorem takeWhile_trim {p : Char → Bool} (h : ∀ c, isBlank c = true → p c = false) (text : Text) :
    text.trim.takeWhile p = text.trimStart.takeWhile p := by
  have split : text.trim ++ text.trimStart.rtakeWhile isBlank = text.trimStart :=
    List.rdropWhile_append_rtakeWhile
  have blank : ∀ c ∈ (text.trimStart.rtakeWhile isBlank).head?, p c = false := fun c hc =>
    h c (List.mem_rtakeWhile_imp (List.mem_of_mem_head? hc))
  rw [← takeWhile_append_of_head blank, split]

theorem trim_cons_of_isBlank {c : Char} (h : isBlank c = true) (text : Text) :
    trim (c :: text) = text.trim := by
  rw [trim, trimStart, List.dropWhile_cons_of_pos h, trim, trimStart]

end Blanks

section Fields

variable {p : Char → Bool} {text run : Text}

theorem dropEndWhile_of_last (inside : ∀ c ∈ run, p c = true)
    (last : ∀ c ∈ text.getLast?, p c = false) : dropEndWhile p (text ++ run) = text := by
  have drop : (run.reverse ++ text.reverse).dropWhile p = text.reverse :=
    dropWhile_run (fun c hc => inside c (List.mem_reverse.mp hc)) (by rwa [List.head?_reverse])
  rw [dropEndWhile, List.reverse_append, drop, List.reverse_reverse]

theorem dropEndWhile_run (inside : ∀ c ∈ run, p c = true) (outside : ∀ c ∈ text, p c = false) :
    dropEndWhile p (text ++ run) = text :=
  dropEndWhile_of_last inside fun c hc => outside c (List.mem_of_getLast? hc)

theorem exists_end_run (p : Char → Bool) (text : Text) : ∃ rest run, text = rest ++ run ∧
    (∀ c ∈ run, p c = true) ∧ ∀ c ∈ rest.getLast?, p c = false := by
  obtain ⟨run, rest, both, inside, outside⟩ := exists_run p text.reverse
  refine ⟨rest.reverse, run.reverse, ?_, fun c hc => inside c (List.mem_reverse.mp hc), ?_⟩
  · rw [← List.reverse_append, ← both, List.reverse_reverse]
  · rwa [List.getLast?_reverse]

theorem trim_of_not_isBlank (h : ∀ c ∈ text, isBlank c = false) : text.trim = text := by
  have start : ([] ++ text).dropWhile isBlank = text :=
    dropWhile_run nofun fun c hc => h c (List.mem_of_mem_head? hc)
  have finish : dropEndWhile isBlank (text ++ []) = text := dropEndWhile_run nofun h
  rw [List.nil_append] at start
  rw [List.append_nil] at finish
  rw [trim, trimStart, start, finish]

theorem splitAt_of_not_mem {separator : Char} (h : separator ∉ text) :
    splitAt separator text = [text] := by
  induction text with
  | nil => rfl
  | cons c text ih =>
    obtain ⟨hc, ht⟩ := not_or.mp fun hm => h (List.mem_cons.mpr hm)
    rw [splitAt, if_neg (Ne.symm hc), ih ht]

theorem splitAt_append_cons {separator : Char} (h : separator ∉ text) (rest : Text) :
    splitAt separator (text ++ separator :: rest) = text :: splitAt separator rest := by
  induction text with
  | nil => rw [List.nil_append, splitAt, if_pos rfl]
  | cons c text ih =>
    obtain ⟨hc, ht⟩ := not_or.mp fun hm => h (List.mem_cons.mpr hm)
    rw [List.cons_append, splitAt, if_neg (Ne.symm hc), ih ht]

/-- A text made of pieces with separators between them is split into the pieces. -/
theorem splitAt_intercalate {separator : Char} {pieces : List Text} (nonempty : pieces ≠ [])
    (h : ∀ piece ∈ pieces, separator ∉ piece) :
    splitAt separator ([separator].intercalate pieces) = pieces := by
  induction pieces with
  | nil => exact absurd rfl nonempty
  | cons piece pieces ih =>
    obtain ⟨hp, hs⟩ := List.forall_mem_cons.mp h
    cases pieces with
    | nil => rw [List.intercalate_singleton, splitAt_of_not_mem hp]
    | cons next pieces =>
      rw [List.intercalate_cons_cons, List.append_assoc, List.singleton_append,
        splitAt_append_cons hp, ih (List.cons_ne_nil _ _) hs]

theorem exists_intercalate (separator : Char) (text : Text) : ∃ pieces : List Text, pieces ≠ [] ∧
    (∀ piece ∈ pieces, separator ∉ piece) ∧ [separator].intercalate pieces = text := by
  induction text with
  | nil => exact ⟨[[]], List.cons_ne_nil _ _, by simp, rfl⟩
  | cons c text ih =>
    obtain ⟨pieces, some, apart, rfl⟩ := ih
    obtain ⟨first, others, rfl⟩ := List.exists_cons_of_ne_nil some
    by_cases same : c = separator
    · refine ⟨[] :: first :: others, List.cons_ne_nil _ _, ?_, ?_⟩
      · exact List.forall_mem_cons.mpr ⟨List.not_mem_nil, apart⟩
      · rw [List.intercalate_cons_cons, same]
        rfl
    · obtain ⟨hf, ho⟩ := List.forall_mem_cons.mp apart
      refine ⟨(c :: first) :: others, List.cons_ne_nil _ _, ?_, ?_⟩
      · refine List.forall_mem_cons.mpr ⟨fun hm => ?_, ho⟩
        rcases List.mem_cons.mp hm with rfl | hm
        · exact same rfl
        · exact hf hm
      · cases others with
        | nil => rw [List.intercalate_singleton, List.intercalate_singleton]
        | cons second others =>
          rw [List.intercalate_cons_cons, List.intercalate_cons_cons, List.append_assoc,
            List.append_assoc, List.cons_append]

end Fields

section Lines

variable {line : Text}

theorem linesFrom_feed (piece rest : Text) :
    linesFrom piece ('\n' :: rest) = piece.reverse :: linesFrom [] rest := by
  simp [linesFrom, isLineEnd]

theorem linesFrom_cons {c : Char} (h : isLineEnd c = false) (piece rest : Text) :
    linesFrom piece (c :: rest) = linesFrom (c :: piece) rest := by
  have not_return : c ≠ '\r' := by
    rintro rfl
    simp [isLineEnd] at h
  cases rest <;> simp [linesFrom, h, not_return]

theorem linesFrom_line (whole : ∀ c ∈ line, isLineEnd c = false) (piece rest : Text) :
    linesFrom piece (line ++ '\n' :: rest) = (piece.reverse ++ line) :: linesFrom [] rest := by
  induction line generalizing piece with
  | nil => rw [List.nil_append, linesFrom_feed, List.append_nil]
  | cons c line ih =>
    obtain ⟨hc, hl⟩ := List.forall_mem_cons.mp whole
    rw [List.cons_append, linesFrom_cons hc, ih hl, List.reverse_cons, List.append_assoc,
      List.singleton_append]

/-- Lines that have no ends inside are the lines of the file that they make up. -/
theorem lines_flatMap {lines : List Text}
    (whole : ∀ line ∈ lines, ∀ c ∈ line, isLineEnd c = false) :
    Text.lines (lines.flatMap fun line => line ++ ['\n']) = lines := by
  induction lines with
  | nil => rfl
  | cons line lines ih =>
    obtain ⟨hl, hs⟩ := List.forall_mem_cons.mp whole
    rw [List.flatMap_cons, List.append_assoc, List.singleton_append, Text.lines,
      linesFrom_line hl, List.reverse_nil, List.nil_append]
    exact congrArg (line :: ·) (ih hs)

theorem firstLine_line (whole : '\n' ∉ line) (rest : Text) :
    firstLine (line ++ '\n' :: rest) = (line ++ ['\n'], rest) := by
  have inside : ∀ c ∈ line, (c != '\n') = true := fun c hc => by
    rw [bne_iff_ne]
    rintro rfl
    exact whole hc
  have outside : ∀ c ∈ ('\n' :: rest).head?, (c != '\n') = false := by
    rintro _ ⟨⟩
    rfl
  rw [firstLine, dropWhile_run inside outside, takeWhile_run inside outside]

end Lines

end Text

theorem isWritable_iff {n : Int} : isWritable n = true ↔ n.natAbs < 10 ^ integerDigits :=
  decide_eq_true_iff.trans (Nat.length_toDigits_le_iff (by decide) (by decide))

theorem Cursor.skipBlanks_of_head {c : Cursor}
    (h : ∀ first ∈ c.rest.head?, Text.isBlank first = false) : c.skipBlanks = c := by
  have none := Text.takeWhile_eq_nil h
  have all : ([] ++ c.rest).dropWhile Text.isBlank = c.rest := Text.dropWhile_run nofun h
  rw [List.nil_append] at all
  simp only [skipBlanks, skipWhile, none, all, List.length_nil, Nat.add_zero]

/-- A run of digits is a line number if it is not too long, and ends where it ends. -/
theorem Cursor.lineNumber_run {digits rest : Text} (nonempty : digits ≠ [])
    (inside : ∀ c ∈ digits, Text.isDigit c = true)
    (outside : ∀ c ∈ rest.head?, Text.isDigit c = false) :
    (start (digits ++ rest)).lineNumber =
      (if lineNumberDigits < digits.length then .error .lineNumberTooLarge
        else .ok (some (Text.digitsValue digits)), ⟨digits.length, rest⟩) := by
  have first : ∀ c ∈ (digits ++ rest).head?, Text.isBlank c = false := by
    obtain ⟨first, others, rfl⟩ := List.exists_cons_of_ne_nil nonempty
    rintro _ ⟨⟩
    exact Text.not_isBlank_of_isNameChar
      (Text.isNameChar_of_isDigit (inside first List.mem_cons_self))
  have skip : (start (digits ++ rest)).skipBlanks = start (digits ++ rest) :=
    skipBlanks_of_head first
  have run : (digits ++ rest).takeWhile Text.isDigit = digits := Text.takeWhile_run inside outside
  have behind : (digits ++ rest).dropWhile Text.isDigit = rest := Text.dropWhile_run inside outside
  rw [lineNumber, skip]
  simp only [start, run, skipDigits, skipWhile, behind, Nat.zero_add]
  split <;> rfl

theorem Cursor.lineNumber_none {c : Cursor}
    (h : ∀ first ∈ c.skipBlanks.rest.head?, Text.isDigit first = false) :
    c.lineNumber = (.ok none, c.skipBlanks) := by
  simp only [lineNumber, Text.takeWhile_eq_nil h]

theorem Cursor.lineNumber_ne_none {c : Cursor} {first : Char}
    (head : first ∈ c.skipBlanks.rest.head?) (digit : Text.isDigit first = true) :
    c.lineNumber.1 ≠ .ok none := by
  obtain ⟨others, ahead⟩ := List.head?_eq_some_iff.mp head
  simp only [lineNumber, ahead, List.takeWhile_cons_of_pos digit]
  split <;> nofun

theorem isWritable_of_lt {n count : Nat} (h : n < 10 ^ count) (few : count ≤ integerDigits) :
    isWritable n = true := by
  rw [isWritable_iff, Int.natAbs_natCast]
  exact h.trans_le (Nat.pow_le_pow_right (by decide) few)

theorem Cursor.isWritable_of_lineNumber {c : Cursor} {number : Nat}
    (h : c.lineNumber.1 = .ok (some number)) : isWritable number = true := by
  unfold lineNumber at h
  dsimp only at h
  split at h
  · cases h
  · split at h
    · cases h
    · rename_i few
      cases h
      exact isWritable_of_lt (Text.digitsValue_lt _) (Nat.le_of_not_lt few)

end NumberedBasic
