/-!
# Sorted tables

A finite map kept as its entries in ascending order of their keys.  The order is part of the type,
so that a list of the entries is a sorted list of the map and each key has one entry.
-/

namespace DocAccess.Store

/-- Entries in ascending order of their keys, each key once. -/
structure Table (κ α : Type) [LT κ] where
  entries : List (κ × α)
  ascending : entries.Pairwise fun a b => a.1 < b.1

/-! ### Entries -/

namespace Entries

variable {κ α : Type} [DecidableEq κ]

/-- The value at a key. -/
def find? (key : κ) : List (κ × α) → Option α
  | [] => none
  | (k, value) :: rest => if k = key then some value else find? key rest

/-- Sets the value at a key. -/
def insert [LT κ] [DecidableLT κ] (key : κ) (value : α) : List (κ × α) → List (κ × α)
  | [] => [(key, value)]
  | (k, old) :: rest =>
      if k = key then (key, value) :: rest
      else if key < k then (key, value) :: (k, old) :: rest
      else (k, old) :: insert key value rest

/-- Removes the value at a key. -/
def erase (key : κ) (entries : List (κ × α)) : List (κ × α) := entries.filter (·.1 ≠ key)

theorem find?_insert [LT κ] [DecidableLT κ] (key other : κ) (value : α) (entries : List (κ × α)) :
    find? other (insert key value entries) =
      if other = key then some value else find? other entries := by
  induction entries with
  | nil =>
      by_cases hother : other = key
      · simp [insert, find?, hother]
      · simp [insert, find?, hother, Ne.symm hother]
  | cons entry rest ih =>
      obtain ⟨k, old⟩ := entry
      simp only [insert]
      split
      · next hk =>
          subst hk
          by_cases hother : other = k
          · simp [find?, hother]
          · simp [find?, hother, Ne.symm hother]
      · next hk =>
          split
          · by_cases hother : other = key
            · simp [find?, hother]
            · simp [find?, hother, Ne.symm hother]
          · by_cases hother : other = key
            · subst hother
              simp [find?, hk, ih]
            · simp [find?, ih, hother]

theorem find?_erase (key other : κ) (entries : List (κ × α)) :
    find? other (erase key entries) = if other = key then none else find? other entries := by
  induction entries with
  | nil => simp [erase, find?]
  | cons entry rest ih =>
      obtain ⟨k, old⟩ := entry
      simp only [erase, List.filter_cons, find?] at ih ⊢
      by_cases hk : k = key
      · subst hk
        by_cases hother : other = k
        · simpa [hother] using ih
        · simpa [hother, Ne.symm hother] using ih
      · by_cases hother : other = key
        · subst hother
          simpa [hk, find?] using ih
        · simp [hk, hother, find?] at ih ⊢
          rw [ih]

theorem mem_insert [LT κ] [DecidableLT κ] {key : κ} {value : α} {entries : List (κ × α)}
    {entry : κ × α} (hmem : entry ∈ insert key value entries) :
    entry = (key, value) ∨ entry ∈ entries := by
  induction entries with
  | nil => exact Or.inl (by simpa [insert] using hmem)
  | cons first rest ih =>
      obtain ⟨k, old⟩ := first
      simp only [insert] at hmem
      split at hmem
      · rcases List.mem_cons.mp hmem with heq | hrest
        · exact Or.inl heq
        · exact Or.inr (List.mem_cons_of_mem _ hrest)
      · split at hmem
        · exact List.mem_cons.mp hmem
        · rcases List.mem_cons.mp hmem with heq | hrest
          · exact Or.inr (heq ▸ List.mem_cons_self)
          · exact (ih hrest).imp_right (List.mem_cons_of_mem _)

/-- Inserting keeps the order, whether the key is new or not. -/
theorem insert_ascending [LT κ] [LE κ] [DecidableLT κ] [Std.IsLinearOrder κ] [Std.LawfulOrderLT κ]
    (key : κ) (value : α) {entries : List (κ × α)}
    (hentries : entries.Pairwise fun a b => a.1 < b.1) :
    (insert key value entries).Pairwise fun a b => a.1 < b.1 := by
  induction entries with
  | nil => simp [insert]
  | cons first rest ih =>
      obtain ⟨k, old⟩ := first
      obtain ⟨hfirst, hrest⟩ := List.pairwise_cons.mp hentries
      simp only [insert]
      split
      · next hk =>
          subst hk
          exact List.pairwise_cons.mpr ⟨hfirst, hrest⟩
      · next hk =>
          split
          · next hlt =>
              refine List.pairwise_cons.mpr ⟨?_, hentries⟩
              intro entry hentry
              rcases List.mem_cons.mp hentry with heq | hmem
              · exact heq ▸ hlt
              · exact Std.lt_trans hlt (hfirst entry hmem)
          · next hlt =>
              -- neither the same nor below, so the key belongs behind the first one
              have hgt : k < key := by
                rcases Std.lt_trichotomy k key with h | h | h
                · exact h
                · exact absurd h hk
                · exact absurd h hlt
              refine List.pairwise_cons.mpr ⟨?_, ih hrest⟩
              intro entry hentry
              rcases mem_insert hentry with heq | hmem
              · exact heq ▸ hgt
              · exact hfirst entry hmem

/-- Among entries in ascending order, those listed are those found. -/
theorem mem_iff_find? [LT κ] [Std.Irrefl (α := κ) (· < ·)] {entries : List (κ × α)}
    (hentries : entries.Pairwise fun a b => a.1 < b.1) (key : κ) (value : α) :
    (key, value) ∈ entries ↔ find? key entries = some value := by
  induction entries with
  | nil => simp [find?]
  | cons first rest ih =>
      obtain ⟨k, old⟩ := first
      obtain ⟨hfirst, hrest⟩ := List.pairwise_cons.mp hentries
      simp only [List.mem_cons, Prod.mk.injEq, find?]
      by_cases hk : k = key
      · subst hk
        have hnot : (k, value) ∉ rest := by
          intro hmem
          have hself : k < k := hfirst (k, value) hmem
          exact Std.lt_irrefl hself
        simp [hnot, eq_comm]
      · simp [hk, Ne.symm hk, ih hrest]

end Entries

/-! ### Tables -/

namespace Table

variable {κ α : Type} [LT κ]

/-- The table without entries. -/
def empty : Table κ α := ⟨[], List.Pairwise.nil⟩

/-- The values in ascending order of their keys. -/
def values (table : Table κ α) : List α := table.entries.map (·.2)

/-- The number of entries. -/
def size (table : Table κ α) : Nat := table.entries.length

variable [DecidableEq κ]

/-- The value at a key. -/
def find? (table : Table κ α) (key : κ) : Option α := Entries.find? key table.entries

/-- Sets the value at a key. -/
def insert [LE κ] [DecidableLT κ] [Std.IsLinearOrder κ] [Std.LawfulOrderLT κ] (table : Table κ α)
    (key : κ) (value : α) : Table κ α :=
  ⟨Entries.insert key value table.entries, Entries.insert_ascending key value table.ascending⟩

/-- Removes the value at a key. -/
def erase (table : Table κ α) (key : κ) : Table κ α :=
  ⟨Entries.erase key table.entries, table.ascending.filter _⟩

@[simp] theorem find?_empty (key : κ) : (empty : Table κ α).find? key = none := rfl

theorem find?_insert [LE κ] [DecidableLT κ] [Std.IsLinearOrder κ] [Std.LawfulOrderLT κ]
    (table : Table κ α) (key other : κ) (value : α) :
    (table.insert key value).find? other = if other = key then some value else table.find? other :=
  Entries.find?_insert key other value table.entries

theorem find?_erase (table : Table κ α) (key other : κ) :
    (table.erase key).find? other = if other = key then none else table.find? other :=
  Entries.find?_erase key other table.entries

theorem mem_entries [Std.Irrefl (α := κ) (· < ·)] (table : Table κ α) (key : κ) (value : α) :
    (key, value) ∈ table.entries ↔ table.find? key = some value :=
  Entries.mem_iff_find? table.ascending key value

end Table

end DocAccess.Store
