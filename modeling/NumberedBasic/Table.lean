/-! # Ordered tables

A table maps keys to values and lists its entries by increasing key, so two
tables with the same entries are equal whatever order they were filled in.
-/

namespace NumberedBasic

/-- Finitely many entries with increasing keys. -/
structure Table (κ α : Type) [Ord κ] where
  entries : List (κ × α)
  increasing : entries.Pairwise fun a b => compare a.1 b.1 = .lt
  deriving DecidableEq

namespace Table

variable {κ α : Type} [Ord κ]

def empty : Table κ α := ⟨[], .nil⟩

instance : Inhabited (Table κ α) := ⟨empty⟩

def keys (t : Table κ α) : List κ :=
  t.entries.map (·.1)

def size (t : Table κ α) : Nat :=
  t.entries.length

def get? [DecidableEq κ] (t : Table κ α) (key : κ) : Option α :=
  t.entries.lookup key

def contains [DecidableEq κ] (t : Table κ α) (key : κ) : Bool :=
  (t.get? key).isSome

/-- Puts an entry in its place, instead of one with the same key. -/
def place (key : κ) (value : α) : List (κ × α) → List (κ × α)
  | [] => [(key, value)]
  | entry :: rest =>
    match compare key entry.1 with
    | .lt => (key, value) :: entry :: rest
    | .eq => (key, value) :: rest
    | .gt => entry :: place key value rest

theorem mem_place {key : κ} {value : α} {entries : List (κ × α)} {entry : κ × α}
    (h : entry ∈ place key value entries) : entry = (key, value) ∨ entry ∈ entries := by
  fun_induction place key value entries with
  | case1 => simpa using h
  | case2 => simpa using h
  | case3 =>
    rcases List.mem_cons.mp h with h | h
    · exact .inl h
    · exact .inr (List.mem_cons_of_mem _ h)
  | case4 first rest _ ih =>
    rcases List.mem_cons.mp h with h | h
    · exact .inr (h ▸ List.mem_cons_self)
    · rcases ih h with h | h
      · exact .inl h
      · exact .inr (List.mem_cons_of_mem _ h)

theorem place_increasing [Std.TransOrd κ] [Std.LawfulEqOrd κ] (key : κ) (value : α)
    {entries : List (κ × α)} (h : entries.Pairwise fun a b => compare a.1 b.1 = .lt) :
    (place key value entries).Pairwise fun a b => compare a.1 b.1 = .lt := by
  fun_induction place key value entries with
  | case1 => exact List.pairwise_singleton _ _
  | case2 first rest hc =>
    refine List.pairwise_cons.mpr ⟨fun entry he => ?_, h⟩
    rcases List.mem_cons.mp he with he | he
    · exact he ▸ hc
    · exact Std.TransCmp.lt_trans hc ((List.pairwise_cons.mp h).1 entry he)
  | case3 first rest hc =>
    have hk : key = first.1 := Std.LawfulEqOrd.eq_of_compare hc
    obtain ⟨hf, hr⟩ := List.pairwise_cons.mp h
    exact List.pairwise_cons.mpr ⟨fun entry he => hk ▸ hf entry he, hr⟩
  | case4 first rest hc ih =>
    obtain ⟨hf, hr⟩ := List.pairwise_cons.mp h
    refine List.pairwise_cons.mpr ⟨fun entry he => ?_, ih hr⟩
    rcases mem_place he with he | he
    · exact he ▸ Std.OrientedCmp.lt_of_gt hc
    · exact hf entry he

def insert [Std.TransOrd κ] [Std.LawfulEqOrd κ] (t : Table κ α) (key : κ) (value : α) :
    Table κ α :=
  ⟨place key value t.entries, place_increasing key value t.increasing⟩

def erase [DecidableEq κ] (t : Table κ α) (key : κ) : Table κ α :=
  ⟨t.entries.filter (·.1 ≠ key), t.increasing.filter _⟩

end Table

end NumberedBasic
