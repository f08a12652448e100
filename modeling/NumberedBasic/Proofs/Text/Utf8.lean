import Mathlib.Data.List.Basic
import NumberedBasic.Directory

/-! # What is decoded

The characters of a text are spelled by the octets of its encoding, and no other octets
are read as text. So a file that holds the encoding of a text is that text, and every other
file is binary, behind a part that is text.
-/

namespace NumberedBasic

namespace Utf8

def encode (text : Text) : List UInt8 :=
  text.flatMap String.utf8EncodeChar

@[simp] theorem encode_nil : encode [] = [] := rfl

@[simp] theorem encode_cons (c : Char) (text : Text) :
    encode (c :: text) = String.utf8EncodeChar c ++ encode text := rfl

theorem encode_append (text text' : Text) : encode (text ++ text') = encode text ++ encode text' :=
  List.flatMap_append

/-- The numbers of the octets that spell a code. -/
def spelling (code : Nat) : List Nat :=
  if code < 0x80 then [code]
  else if code < 0x800 then [code / 0x40 + 0xC0, code % 0x40 + 0x80]
  else if code < 0x10000 then
    [code / 0x1000 + 0xE0, code / 0x40 % 0x40 + 0x80, code % 0x40 + 0x80]
  else
    [code / 0x40000 + 0xF0, code / 0x1000 % 0x40 + 0x80, code / 0x40 % 0x40 + 0x80,
      code % 0x40 + 0x80]

section Characters

variable {c : Char} {octets : List UInt8}

theorem code_valid (c : Char) : c.toNat < 0xD800 ∨ 0xDFFF < c.toNat ∧ c.toNat < 0x110000 :=
  c.valid

theorem toNat_ofNat {code : Nat} (h : code < 0xD800 ∨ 0xDFFF < code ∧ code < 0x110000) :
    (Char.ofNat code).toNat = code := by
  have valid : code.isValidChar := h
  rw [Char.ofNat, dif_pos valid]
  rfl

theorem map_utf8EncodeChar (c : Char) :
    (String.utf8EncodeChar c).map UInt8.toNat = spelling c.toNat := by
  have valid := code_valid c
  have code : c.val.toNat = c.toNat := rfl
  simp only [String.utf8EncodeChar, spelling, code]
  generalize c.toNat = v at valid ⊢
  repeat' split
  all_goals
    simp only [List.map_cons, List.map_nil, UInt8.toNat_ofNat', List.cons.injEq, and_true]
    omega

theorem eq_utf8EncodeChar_iff :
    octets = String.utf8EncodeChar c ↔ octets.map UInt8.toNat = spelling c.toNat := by
  rw [← map_utf8EncodeChar]
  exact (List.map_injective_iff.mpr fun _ _ => UInt8.toNat_inj.mp).eq_iff.symm

theorem canFollow_iff {first second : Nat} : canFollow first second = true ↔
    (0xC2 ≤ first ∧ first ≤ 0xF4) ∧ (0x80 ≤ second ∧ second ≤ 0xBF) ∧
      (first = 0xE0 → 0xA0 ≤ second) ∧ (first = 0xF0 → 0x90 ≤ second) ∧
        (first = 0xF4 → second ≤ 0x8F) := by
  simp only [canFollow, isLead, isContinuation, Bool.and_eq_true, Bool.or_eq_true,
    decide_eq_true_eq, bne_iff_ne]
  omega

theorem isSurrogate_iff {first second : Nat} :
    isSurrogate first second = true ↔ first = 0xED ∧ 0xA0 ≤ second := by
  simp [isSurrogate]

theorem isContinuation_iff {octet : Nat} :
    isContinuation octet = true ↔ 0x80 ≤ octet ∧ octet ≤ 0xBF := by
  simp [isContinuation]

theorem sequence_spelling {code : Nat} (valid : code < 0xD800 ∨ 0xDFFF < code ∧ code < 0x110000) :
    sequence (spelling code) = .whole (Char.ofNat code) := by
  unfold spelling
  repeat' split
  all_goals
    simp only [sequence, Bool.not_eq_true', Bool.or_eq_true, ← Bool.not_eq_true, Bool.and_eq_true,
      canFollow_iff, isSurrogate_iff, isContinuation_iff, decide_eq_true_eq]
  · rw [if_pos ‹_›]
  · rw [if_neg (by omega), if_pos (by omega)]
    congr
    omega
  · rw [if_neg (by omega), if_pos (by omega)]
    congr
    omega
  · rw [if_neg (by omega)]
    congr
    omega

theorem spelling_of_sequence {octets : List Nat} (h : sequence octets = .whole c) :
    octets = spelling c.toNat := by
  unfold sequence at h
  split at h
  any_goals
    simp only [Bool.not_eq_true', Bool.or_eq_true, ← Bool.not_eq_true, Bool.and_eq_true,
      canFollow_iff, isSurrogate_iff, isContinuation_iff, decide_eq_true_eq] at h
  · split at h
    · cases h
      rw [toNat_ofNat (by omega), spelling, if_pos ‹_›]
    · split at h <;> cases h
  · split at h
    · cases h
    · split at h
      · cases h
        rw [toNat_ofNat (by omega), spelling, if_neg (by omega), if_pos (by omega)]
        congr <;> omega
      · cases h
  · split at h
    · cases h
    · split at h
      · cases h
        rw [toNat_ofNat (by omega), spelling, if_neg (by omega), if_neg (by omega),
          if_pos (by omega)]
        congr <;> omega
      · cases h
  · split at h
    · cases h
    · cases h
      rw [toNat_ofNat (by omega), spelling, if_neg (by omega), if_neg (by omega),
        if_neg (by omega)]
      congr <;> omega
  · cases h

theorem isLead_iff {octet : Nat} : isLead octet = true ↔ 0xC2 ≤ octet ∧ octet ≤ 0xF4 := by
  simp [isLead]

theorem sequence_lead {a : Nat} (ha : isLead a = true) : sequence [a] = .begun := by
  rw [isLead_iff] at ha
  rw [sequence, if_neg (by omega), if_pos (isLead_iff.mpr ha)]

theorem sequence_second {a b : Nat} (hab : canFollow a b = true) (ha : 0xE0 ≤ a) :
    sequence [a, b] = .begun := by
  rw [sequence, hab, if_neg (by decide), if_neg (by omega)]

theorem sequence_third {a b c : Nat} (hab : canFollow a b = true) (ha : 0xF0 ≤ a)
    (hc : isContinuation c = true) : sequence [a, b, c] = .begun := by
  have surrogate : isSurrogate a b = false := by
    rw [← Bool.not_eq_true, isSurrogate_iff]
    omega
  have lead : 0xE0 ≤ a := by omega
  simp only [sequence, hab, hc, lead, surrogate, decide_true, Bool.and_self, Bool.not_true,
    Bool.or_self]
  rw [if_neg (by decide), if_neg (by omega)]

/-- Some octets of a character, but not all, are read as the beginning of one. -/
theorem sequence_of_spelling_eq {code : Nat} {begun rest : List Nat}
    (valid : code < 0xD800 ∨ 0xDFFF < code ∧ code < 0x110000) (h : spelling code = begun ++ rest)
    (some : begun ≠ []) (more : rest ≠ []) : sequence begun = .begun := by
  unfold spelling at h
  rcases begun with _ | ⟨a, _ | ⟨b, _ | ⟨c, _ | ⟨d, begun⟩⟩⟩⟩
  · exact absurd rfl some
  all_goals
    repeat' split at h
    all_goals
      simp only [List.cons_append, List.nil_append, List.cons.injEq, reduceCtorEq, and_false] at h
  · exact absurd h.2.symm more
  · exact sequence_lead (isLead_iff.mpr (by omega))
  · exact sequence_lead (isLead_iff.mpr (by omega))
  · exact sequence_lead (isLead_iff.mpr (by omega))
  · exact absurd h.2.2.symm more
  · exact sequence_second (canFollow_iff.mpr (by omega)) (by omega)
  · exact sequence_second (canFollow_iff.mpr (by omega)) (by omega)
  · exact absurd h.2.2.2.symm more
  · exact sequence_third (canFollow_iff.mpr (by omega)) (by omega)
      (isContinuation_iff.mpr (by omega))
  · have none := (List.append_eq_nil_iff.mp h.2.2.2.2.symm).2
    exact absurd none more

end Characters

section Decoding

variable {c : Char} {text text' : Text} {begun ahead octets : List UInt8}

theorem decodeFrom_character (h : String.utf8EncodeChar c = begun ++ ahead) (more : ahead ≠ [])
    (text : Text) (rest : List UInt8) :
    decodeFrom text begun (ahead ++ rest) = decodeFrom (c :: text) [] rest := by
  induction ahead generalizing begun with
  | nil => exact absurd rfl more
  | cons octet ahead ih =>
    have grown : String.utf8EncodeChar c = (begun ++ [octet]) ++ ahead := by
      rw [h, List.append_assoc, List.singleton_append]
    have spelled := congrArg (List.map UInt8.toNat) grown
    rw [map_utf8EncodeChar, List.map_append] at spelled
    rw [List.cons_append, decodeFrom]
    by_cases last : ahead = []
    · rw [last, List.map_nil, List.append_nil] at spelled
      rw [last, ← spelled, sequence_spelling (code_valid c), Char.ofNat_toNat]
      rfl
    · have goes := sequence_of_spelling_eq (code_valid c) spelled (by simp) (by simpa using last)
      rw [goes]
      exact ih grown last

theorem decodeFrom_encode (text text' : Text) (rest : List UInt8) :
    decodeFrom text [] (encode text' ++ rest) = decodeFrom (text'.reverse ++ text) [] rest := by
  induction text' generalizing text with
  | nil => rfl
  | cons c text' ih =>
    have nonempty : String.utf8EncodeChar c ≠ [] := by
      intro none
      have spelled := map_utf8EncodeChar c
      rw [none, spelling] at spelled
      repeat' split at spelled
      all_goals cases spelled
    rw [encode_cons, List.append_assoc, decodeFrom_character (List.nil_append _).symm nonempty, ih]
    simp

theorem decode_encode (text : Text) : decode (encode text) = ⟨text, [], []⟩ := by
  have decoded := decodeFrom_encode [] text []
  rw [List.append_nil, List.append_nil] at decoded
  rw [decode, decoded, decodeFrom, List.reverse_reverse]

/-- No octet is lost, and the text is decoded from its own encoding. -/
theorem octets_decodeFrom (text : Text) (begun octets : List UInt8) :
    encode (decodeFrom text begun octets).text ++ (decodeFrom text begun octets).unfinished ++
      (decodeFrom text begun octets).unread = encode text.reverse ++ begun ++ octets := by
  induction octets generalizing text begun with
  | nil => rfl
  | cons octet octets ih =>
    rw [decodeFrom]
    split
    · rename_i c whole
      have spelled : begun ++ [octet] = String.utf8EncodeChar c :=
        eq_utf8EncodeChar_iff.mpr (spelling_of_sequence whole)
      rw [ih, List.reverse_cons, encode_append, encode_cons, ← spelled]
      simp
    · rw [ih]
      simp
    · rfl

theorem octets_decode (octets : List UInt8) :
    encode (decode octets).text ++ (decode octets).unfinished ++ (decode octets).unread = octets :=
  octets_decodeFrom [] [] octets

theorem encode_text_begins (octets : List UInt8) : encode (decode octets).text <+: octets := by
  refine ⟨(decode octets).unfinished ++ (decode octets).unread, ?_⟩
  rw [← List.append_assoc, octets_decode]

end Decoding

end Utf8

namespace Content

open Utf8

variable {octets : List UInt8} {text before : Text}

theorem ofOctets_encode (text : Text) : ofOctets (encode text) = .text text := by
  simp only [ofOctets, decode_encode, List.isEmpty_nil, if_true]

/-- Before a file turns out to be no text, only a text that it begins with is decoded. -/
theorem ofOctets_binary (h : ofOctets octets = .binary before) :
    (∀ text, octets ≠ encode text) ∧ encode before <+: octets := by
  constructor
  · rintro text rfl
    cases (ofOctets_encode text).symm.trans h
  · unfold ofOctets at h
    dsimp only at h
    split at h
    · split at h
      · cases h
      · cases h
        exact encode_text_begins octets
    · cases h
      exact (encode_text_begins _).trans (List.take_prefix _ octets)

end Content

end NumberedBasic
