import NumberedBasic.Proofs.Grammar.Token

/-! # Matchers on spelled tokens

A matcher at the spelling of a list of tokens finds its token if it comes first, and
otherwise it moves over blanks only. What is ahead then spells the tokens that are left.
-/

namespace NumberedBasic

open Text

namespace Token

def key? : Token → Option Text
  | name v => some (lower v.spelling)
  | function b => some b.name
  | _ => none

def Avoids (word : Text) (t : Token) : Prop :=
  ∀ text, t.Spells text → lower (text.takeWhile isLetter) ≠ word

variable {t : Token} {ts : List Token} {text rest word : Text}

theorem Apart.not_isLetter (h : t.Apart ts rest) (hk : t.kind = .letters) (hr : Spelled ts rest) :
    ∀ c ∈ rest.head?, isLetter c = false := by
  intro c hc
  rw [Bool.eq_false_iff]
  intro hl
  have hn : isBlank c = false := not_isBlank_of_isNameChar (isNameChar_of_isLetter hl)
  rcases hr.begins hc with hb | ⟨t', ht', hb, -⟩
  · simp [hb] at hn
  · obtain ⟨c', hc', hb'⟩ := h hk ⟨t', ht', hb.isLetter_iff.mp hl⟩
    cases hc.symm.trans hc'
    simp [hb'] at hn

theorem Apart.not_isNameChar (h : t.Apart ts rest) (hk : t.kind = .letters) (hr : Spelled ts rest)
    (hd : ∀ t' ∈ ts.head?, t'.kind ≠ .digits) : ∀ c ∈ rest.head?, isNameChar c = false := by
  intro c hc
  rcases hr.begins hc with hb | ⟨t', ht', hb, -⟩
  · exact not_isNameChar_of_isBlank hb
  · cases hk' : t'.kind with
    | digits => exact absurd hk' (hd t' ht')
    | letters =>
      have hl := h.not_isLetter hk hr c hc
      simp [hb.isLetter_iff.mpr hk'] at hl
    | sign =>
      rw [hk'] at hb
      exact (sign_class c hb).1

theorem lower_of_keyword (h : t.keyword? = some word) : lower word = word := by
  cases t with
  | operator o => cases o <;> cases h <;> rfl
  | not => cases h; rfl
  | _ => cases h

theorem Spells.of_keyword (h : t.Spells text) (hk : t.keyword? = some word) :
    (∀ c ∈ text, isLetter c = true) ∧ lower text = word := by
  cases h with
  | keyword keyword letters spelled =>
    cases keyword.symm.trans hk
    exact ⟨letters, spelled⟩
  | sign sign => exact absurd ((kind_of_keyword hk).1.symm.trans (begins_of_sign sign).1) nofun
  | _ => cases hk

theorem Spells.of_key (h : t.Spells text) (hk : t.key? = some word) :
    t.kind = .letters ∧ IsName text ∧ lower text = word := by
  cases t with
  | name v =>
    cases hk
    cases h with
    | name => exact ⟨rfl, v.isName, rfl⟩
    | keyword keyword => cases keyword
    | sign sign => cases sign
  | function b =>
    cases hk
    cases h with
    | function isName named => exact ⟨rfl, isName, named⟩
    | keyword keyword => cases keyword
    | sign sign => cases sign
  | _ => cases hk

theorem initial?_not_mem_of_not_relation (h : ∀ r, t ≠ relation r) {c : Char}
    (hc : t.initial? = some c) : c ∉ ['<', '=', '>'] := by
  cases t with
  | relation r => exact absurd rfl (h r)
  | operator o => cases o <;> simp_all [initial?, sign?, eq_comm]
  | _ => simp_all [initial?, sign?, eq_comm]

end Token

theorem Spelled.takeWhile_isLetter_ne {ts : List Token} {text word : Text} (h : Spelled ts text)
    (hw : word ≠ []) (hts : ∀ t ∈ ts.head?, t.Avoids word) :
    lower ((text.dropWhile isBlank).takeWhile isLetter) ≠ word := by
  cases ts with
  | nil =>
    rw [h.dropWhile_of_nil]
    exact hw.symm
  | cons t ts =>
    obtain ⟨spelling, rest, hr, spells, apart, others⟩ := h.dropWhile_of_cons
    have hs : (spelling ++ rest).takeWhile isLetter = spelling.takeWhile isLetter := by
      obtain ⟨c, tail, rfl, hb⟩ := spells.begins
      by_cases hk : t.kind = .letters
      · exact takeWhile_append_of_head (apart.not_isLetter hk others)
      · have hc : isLetter c = false := by simpa [hk] using hb.isLetter_iff
        simp [hc]
    rw [hr, hs]
    exact hts t rfl spelling spells

theorem Spelled.head_not_relation {ts : List Token} {text : Text} (h : Spelled ts text)
    (hts : ∀ t ∈ ts.head?, ∀ r, t ≠ .relation r) :
    ∀ c ∈ text.head?, c ≠ '<' ∧ c ≠ '=' ∧ c ≠ '>' := by
  have hn (sign : Char) (hs : Token.Kind.sign.Begins sign) (hr : sign ∈ ['<', '=', '>']) :
      ∀ c ∈ text.head?, c ≠ sign := by
    refine h.head_ne hs fun t ht hi => ?_
    simpa using Token.initial?_not_mem_of_not_relation (hts t ht) hi hr
  exact fun c hc => ⟨hn '<' (by simp [Token.Kind.Begins]) (by simp) c hc,
    hn '=' (by simp [Token.Kind.Begins]) (by simp) c hc,
    hn '>' (by simp [Token.Kind.Begins]) (by simp) c hc⟩

namespace Relation

/-- A sign that no longer sign continues is found as it is. -/
theorem find?_sign {r : Relation} {rest : Text}
    (h : ∀ c ∈ rest.head?, c ≠ '<' ∧ c ≠ '=' ∧ c ≠ '>') :
    all.find? (·.sign.isPrefixOf (r.sign ++ rest)) = some r := by
  cases rest with
  | nil => cases r <;> rfl
  | cons c rest =>
    obtain ⟨-, he, hg⟩ := h c rfl
    cases r <;> simp [all, sign, List.isPrefixOf_cons_cons, he.symm, hg.symm]

theorem find?_none {text : Text} (h : ∀ c ∈ text.head?, c ≠ '<' ∧ c ≠ '=' ∧ c ≠ '>') :
    all.find? (·.sign.isPrefixOf text) = none := by
  cases text with
  | nil => rfl
  | cons c text =>
    obtain ⟨hl, he, hg⟩ := h c rfl
    simp [all, sign, List.isPrefixOf_cons_cons, hl.symm, he.symm, hg.symm]

end Relation

namespace Cursor

variable {α : Type} {c : Cursor} {t : Token} {ts : List Token}

/-- At the spelling of some tokens and others behind them, the matcher gives the value
and leaves the others ahead. -/
def Scans (matcher : Cursor → α × Cursor) (tokens ts : List Token) (a : α) : Prop :=
  ∀ c : Cursor, Spelled (tokens ++ ts) c.rest → (matcher c).1 = a ∧ Spelled ts (matcher c).2.rest

theorem Scans.exists_eq {matcher : Cursor → α × Cursor} {tokens : List Token} {a : α}
    (h : Scans matcher tokens ts a) (hc : Spelled (tokens ++ ts) c.rest) :
    ∃ d, matcher c = (a, d) ∧ Spelled ts d.rest :=
  ⟨(matcher c).2, Prod.ext (h c hc).1 rfl, (h c hc).2⟩

theorem Scans.of_exists_eq {matcher : Cursor → α × Cursor} {tokens : List Token} {a : α}
    (h : ∀ c : Cursor, Spelled (tokens ++ ts) c.rest →
      ∃ d, matcher c = (a, d) ∧ Spelled ts d.rest) : Scans matcher tokens ts a := by
  intro c hc
  obtain ⟨d, hm, hd⟩ := h c hc
  rw [hm]
  exact ⟨rfl, hd⟩

theorem advance_rest {word rest : Text} (h : c.rest = word ++ rest) :
    (c.advance word.length).rest = rest := by
  simp [advance, h]

section Signs

variable {sign : Text}

theorem scans_literal (h : t.sign? = some sign) : Scans (literal sign) [t] ts true := by
  intro c hc
  obtain ⟨word, rest, hr, spells, -, others⟩ := hc.dropWhile_of_cons
  obtain rfl : sign = word :=
    Option.some_inj.mp (h.symm.trans (spells.sign_eq (Token.begins_of_sign h).1))
  have hr : c.skipBlanks.rest = sign ++ rest := hr
  have hp : sign.isPrefixOf c.skipBlanks.rest = true := by
    rw [hr]
    exact List.isPrefixOf_iff_prefix.mpr (List.prefix_append _ _)
  simp only [literal, hp, if_true, advance_rest hr, true_and]
  exact others

theorem scans_literal_miss {first : Char} (hf : Token.Kind.sign.Begins first)
    (hts : ∀ t ∈ ts.head?, t.initial? ≠ some first) : Scans (literal [first]) [] ts false := by
  intro c hc
  have hs : Spelled ts c.skipBlanks.rest := hc.dropWhile
  have hp : [first].isPrefixOf c.skipBlanks.rest = false := by
    have hn := hs.head_ne hf hts
    cases hr : c.skipBlanks.rest with
    | nil => rfl
    | cons c' rest =>
      have hc' : c' ≠ first := hn c' (by rw [hr]; rfl)
      simp [List.isPrefixOf_cons_cons, hc'.symm]
  simp only [literal, hp, Bool.false_eq_true, if_false, true_and]
  exact hs

theorem scans_relation {r : Relation} (hts : ∀ t ∈ ts.head?, ∀ r, t ≠ .relation r) :
    Scans relation [.relation r] ts (some r) := by
  intro c hc
  obtain ⟨word, rest, hr, spells, -, others⟩ := hc.dropWhile_of_cons
  obtain rfl : r.sign = word := Option.some_inj.mp (spells.sign_eq rfl)
  have hr : c.skipBlanks.rest = r.sign ++ rest := hr
  have hf : Relation.all.find? (·.sign.isPrefixOf c.skipBlanks.rest) = some r := by
    rw [hr]
    exact Relation.find?_sign (others.head_not_relation hts)
  simp only [relation, hf, advance_rest hr, true_and]
  exact others

theorem scans_relation_miss (hts : ∀ t ∈ ts.head?, ∀ r, t ≠ .relation r) :
    Scans relation [] ts none := by
  intro c hc
  have hs : Spelled ts c.skipBlanks.rest := hc.dropWhile
  have hf := Relation.find?_none (hs.head_not_relation hts)
  simp only [relation, hf, true_and]
  exact hs

end Signs

section Words

variable {word : Text}

theorem word_of_run {run : Text} (h : c.rest.takeWhile isLetter = run) (hn : run ≠ []) :
    c.word = (some (lower run), c.skipWhile isLetter) := by
  unfold Cursor.word
  rw [h]
  cases run with
  | nil => exact absurd rfl hn
  | cons first run => rfl

theorem word_none (h : c.rest.takeWhile isLetter = []) : c.word = (none, c) := by
  unfold Cursor.word
  rw [h]

theorem scans_keyword (h : t.keyword? = some word) : Scans (keyword word) [t] ts true := by
  intro c hc
  obtain ⟨hk, hw⟩ := Token.kind_of_keyword h
  obtain ⟨text, rest, hr, spells, apart, others⟩ := hc.dropWhile_of_cons
  obtain ⟨letters, hl⟩ := spells.of_keyword h
  have hr : c.skipBlanks.rest = text ++ rest := hr
  have ho := apart.not_isLetter hk others
  have hn : text ≠ [] := by
    rintro rfl
    exact hw hl.symm
  have hs := word_of_run ((congrArg _ hr).trans (takeWhile_run letters ho)) hn
  have hd : (c.skipBlanks.skipWhile isLetter).rest = rest :=
    (congrArg _ hr).trans (dropWhile_run letters ho)
  simp only [keyword, hs, hl, Token.lower_of_keyword h, if_true, hd, true_and]
  exact others

theorem scans_keyword_miss (hw : lower word = word) (hn : word ≠ [])
    (hts : ∀ t ∈ ts.head?, t.Avoids word) : Scans (keyword word) [] ts false := by
  intro c hc
  have hl : lower (c.skipBlanks.rest.takeWhile isLetter) ≠ word :=
    hc.takeWhile_isLetter_ne hn hts
  have hm : c.keyword word = (false, c) := by
    by_cases hr : c.skipBlanks.rest.takeWhile isLetter = []
    · simp only [keyword, word_none hr]
    · simp only [keyword, word_of_run rfl hr, hw, if_neg hl]
  simp only [hm, true_and]
  exact hc

theorem scans_identifier {key : Text} (h : t.key? = some key)
    (hts : ∀ t ∈ ts.head?, t.kind ≠ .digits) : Scans identifier [t] ts (some key) := by
  intro c hc
  obtain ⟨text, rest, hr, spells, apart, others⟩ := hc.dropWhile_of_cons
  obtain ⟨hk, ⟨⟨first, hf, hl⟩, inside⟩, rfl⟩ := spells.of_key h
  have hr : c.skipBlanks.rest = text ++ rest := hr
  have outside := apart.not_isNameChar hk others hts
  have hf : c.skipBlanks.rest.head? = some first := by
    rw [hr, List.head?_append, hf]
    rfl
  have ht : c.skipBlanks.rest.takeWhile isNameChar = text :=
    (congrArg _ hr).trans (takeWhile_run inside outside)
  have hd : (c.skipBlanks.skipWhile isNameChar).rest = rest :=
    (congrArg _ hr).trans (dropWhile_run inside outside)
  simp only [identifier, hf, Option.any_some, hl, if_true, ht, hd, true_and]
  exact others

theorem scans_identifier_miss (hts : ∀ t ∈ ts.head?, t.kind ≠ .letters) :
    Scans identifier [] ts none := by
  intro c hc
  have hs : Spelled ts c.skipBlanks.rest := hc.dropWhile
  have hl : c.skipBlanks.rest.head?.any isLetter = false := by
    rw [Option.any_eq_false]
    intro first hf
    obtain ⟨t, ht, hb⟩ := hc.begins_dropWhile hf
    simpa [hts t ht] using hb.isLetter_iff
  simp only [identifier, hl, Bool.false_eq_true, if_false, true_and]
  exact hs

end Words

section Numbers

theorem number_whole {whole rest : Text} (h : c.skipBlanks.rest = whole ++ rest) (hn : whole ≠ [])
    (inside : ∀ c ∈ whole, isDigit c = true)
    (outside : ∀ c ∈ rest.head?, isDigit c = false ∧ c ≠ '.') :
    c.number.1 = some whole ∧ c.number.2.rest = rest := by
  have ht : c.skipBlanks.rest.takeWhile isDigit = whole :=
    (congrArg _ h).trans (takeWhile_run inside fun c hc => (outside c hc).1)
  have hd : c.skipBlanks.rest.dropWhile isDigit = rest :=
    (congrArg _ h).trans (dropWhile_run inside fun c hc => (outside c hc).1)
  unfold number
  dsimp only
  rw [ht, hd]
  split
  · exact absurd rfl hn
  · split
    · exact absurd rfl (outside '.' rfl).2
    · exact ⟨rfl, hd⟩

theorem number_fraction {whole digits rest : Text}
    (h : c.skipBlanks.rest = whole ++ '.' :: digits ++ rest) (hn : whole ≠ [])
    (inside : ∀ c ∈ whole, isDigit c = true) (inside' : ∀ c ∈ digits, isDigit c = true)
    (outside : ∀ c ∈ rest.head?, isDigit c = false) :
    c.number.1 = some (whole ++ '.' :: digits) ∧ c.number.2.rest = rest := by
  have hp : ∀ c ∈ ('.' :: digits ++ rest).head?, isDigit c = false := by
    rintro _ ⟨⟩
    decide +kernel
  have h' : c.skipBlanks.rest = whole ++ ('.' :: digits ++ rest) := by
    rw [h, List.append_assoc]
  have ht : c.skipBlanks.rest.takeWhile isDigit = whole :=
    (congrArg _ h').trans (takeWhile_run inside hp)
  have hd : c.skipBlanks.rest.dropWhile isDigit = '.' :: (digits ++ rest) :=
    (congrArg _ h').trans (dropWhile_run inside hp)
  have hf : (digits ++ rest).takeWhile isDigit = digits := takeWhile_run inside' outside
  unfold number
  dsimp only
  rw [ht, hd]
  split
  · exact absurd rfl hn
  · simp only [hf, true_and]
    exact advance_rest h

theorem number_literal {l : Literal} {rest : Text} (h : c.skipBlanks.rest = l.text ++ rest)
    (outside : ∀ c ∈ rest.head?, isDigit c = false ∧ c ≠ '.') :
    c.number.1 = some l.text ∧ c.number.2.rest = rest := by
  obtain ⟨whole, fraction, hn, inside, inside'⟩ := l
  cases fraction with
  | none => exact number_whole h hn inside outside
  | some digits =>
    exact number_fraction h hn inside (inside' digits rfl) fun c hc => (outside c hc).1

theorem scans_number {l : Literal} (hts : ∀ t ∈ ts.head?, t.kind ≠ .digits) :
    Scans number [.number l] ts (some l.text) := by
  intro c hc
  obtain ⟨text, rest, hr, spells, -, others⟩ := hc.dropWhile_of_cons
  have hr : c.skipBlanks.rest = text ++ rest := hr
  have outside : ∀ c ∈ rest.head?, isDigit c = false ∧ c ≠ '.' := by
    intro first hf
    rcases others.begins hf with hb | ⟨t, ht, hb, -⟩
    · exact ⟨not_isDigit_of_isBlank hb, ne_point_of_isBlank hb⟩
    · exact ⟨by simpa [hts t ht] using hb.isDigit_iff, hb.ne_point⟩
  obtain rfl : l.text = text := by
    cases spells with
    | number => rfl
    | keyword keyword => cases keyword
    | sign sign => cases sign
  obtain ⟨value, behind⟩ := number_literal hr outside
  exact ⟨value, behind ▸ others⟩

theorem scans_number_miss (hts : ∀ t ∈ ts.head?, t.kind ≠ .digits) :
    Scans number [] ts none := by
  intro c hc
  have hs : Spelled ts c.skipBlanks.rest := hc.dropWhile
  have hd : c.skipBlanks.rest.takeWhile isDigit = [] := by
    refine takeWhile_eq_nil fun first hf => ?_
    obtain ⟨t, ht, hb⟩ := hc.begins_dropWhile hf
    simpa [hts t ht] using hb.isDigit_iff
  simp only [number, hd, true_and]
  exact hs

end Numbers

end Cursor

end NumberedBasic
