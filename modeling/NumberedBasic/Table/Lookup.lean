import NumberedBasic.Table

/-! # What tables hold

Inserting and erasing change the value of one key and no other. A table is known
by its values, so the order of insertions leaves no trace.
-/

namespace NumberedBasic.Table

section Entries

variable {κ α : Type} [DecidableEq κ]

theorem lookup_cons_of_ne {key k : κ} (h : key ≠ k) (value : α) (entries : List (κ × α)) :
    ((k, value) :: entries).lookup key = entries.lookup key := by
  rw [List.lookup_cons, beq_false_of_ne h]

theorem lookup_filter_ne (key other : κ) (entries : List (κ × α)) :
    (entries.filter (·.1 ≠ key)).lookup other =
      if other = key then none else entries.lookup other := by
  induction entries with
  | nil => simp
  | cons first rest ih => grind

end Entries

variable {κ α : Type} [Ord κ]

theorem not_mem_of_lt [Std.LawfulEqOrd κ] {key : κ} {value : α} {entries : List (κ × α)}
    (h : ∀ entry ∈ entries, compare key entry.1 = .lt) : (key, value) ∉ entries := by
  intro hm
  simpa [Std.ReflCmp.compare_self] using h _ hm

variable [DecidableEq κ]

@[simp] theorem get?_empty (key : κ) : (empty : Table κ α).get? key = none := rfl

theorem get?_erase (t : Table κ α) (key other : κ) :
    (t.erase key).get? other = if other = key then none else t.get? other :=
  lookup_filter_ne key other t.entries

theorem lookup_place_of_ne [Std.LawfulEqOrd κ] {key other : κ} (h : other ≠ key) (value : α)
    (entries : List (κ × α)) :
    (place key value entries).lookup other = entries.lookup other := by
  fun_induction place key value entries with
  | case1 => exact lookup_cons_of_ne h value []
  | case2 first rest => exact lookup_cons_of_ne h value _
  | case3 first rest hc =>
    have hk : other ≠ first.1 := Std.LawfulEqOrd.eq_of_compare hc ▸ h
    rw [lookup_cons_of_ne h, lookup_cons_of_ne hk]
  | case4 first rest _ ih => rw [List.lookup_cons, List.lookup_cons, ih]

variable [Std.TransOrd κ] [Std.LawfulEqOrd κ]

theorem lookup_place_self (key : κ) (value : α) (entries : List (κ × α)) :
    (place key value entries).lookup key = some value := by
  fun_induction place key value entries with
  | case1 => exact List.lookup_cons_self
  | case2 => exact List.lookup_cons_self
  | case3 => exact List.lookup_cons_self
  | case4 first rest hc ih =>
    have hne : key ≠ first.1 := by
      intro h
      simp [← h, Std.ReflCmp.compare_self] at hc
    rw [lookup_cons_of_ne hne, ih]

theorem get?_insert (t : Table κ α) (key other : κ) (value : α) :
    (t.insert key value).get? other = if other = key then some value else t.get? other := by
  split
  · rename_i h
    exact h ▸ lookup_place_self key value t.entries
  · rename_i h
    exact lookup_place_of_ne h value t.entries

theorem get?_eq_some_iff (t : Table κ α) (key : κ) (value : α) :
    t.get? key = some value ↔ (key, value) ∈ t.entries := by
  obtain ⟨entries, increasing⟩ := t
  change entries.lookup key = some value ↔ (key, value) ∈ entries
  induction entries with
  | nil => simp
  | cons first rest ih =>
    obtain ⟨k, x⟩ := first
    obtain ⟨hf, hr⟩ := List.pairwise_cons.mp increasing
    by_cases hk : key = k
    · subst hk
      have habsent : (key, value) ∉ rest := not_mem_of_lt hf
      simp [habsent, eq_comm]
    · rw [lookup_cons_of_ne hk, ih hr]
      simp [hk]

theorem ext_get? {t u : Table κ α} (h : ∀ key, t.get? key = u.get? key) : t = u := by
  have hperm : t.entries.Perm u.entries := by
    have nodup (v : Table κ α) : v.entries.Nodup :=
      v.increasing.imp fun hlt he => by simp [he, Std.ReflCmp.compare_self] at hlt
    refine (List.perm_ext_iff_of_nodup (nodup t) (nodup u)).mpr fun entry => ?_
    rw [← get?_eq_some_iff, ← get?_eq_some_iff, h]
  have heq : t.entries = u.entries :=
    hperm.eq_of_pairwise (fun a b _ _ hab hba => by
      simpa [Std.ReflCmp.compare_self] using Std.TransCmp.lt_trans hab hba)
      t.increasing u.increasing
  cases t
  cases u
  cases heq
  rfl

end NumberedBasic.Table
