/-!
Finite tables: each key has at most one value.

* `Table.get?` is the view of a table; each operation is described by what it does to the view
  (`get?_insert`, `get?_insertNew`, `get?_filter`, `get?_modify`).
* `Table.size` counts the keys; `size_filter_le`.
-/

namespace AccountAccess

/-- A finite map as a list of entries without a repeated key. -/
structure Table (κ α : Type) where
  entries : List (κ × α)
  nodup : (entries.map Prod.fst).Nodup

namespace Table

variable {κ α : Type} [DecidableEq κ]

/-- The table without entries. -/
def empty : Table κ α := ⟨[], List.nodup_nil⟩

instance : EmptyCollection (Table κ α) := ⟨empty⟩

/-- The value of a key. -/
def get? (t : Table κ α) (k : κ) : Option α := t.entries.lookup k

/-- How many keys there are. -/
def size (t : Table κ α) : Nat := t.entries.length

/-- The values. -/
def values (t : Table κ α) : List α := t.entries.map Prod.snd

theorem lookup_cons_ite (j k : κ) (v : α) (es : List (κ × α)) :
    ((j, v) :: es).lookup k = if k = j then some v else es.lookup k := by
  rw [List.lookup_cons]
  by_cases h : k = j
  · simp [h]
  · simp [h, beq_false_of_ne h]

@[simp] theorem get?_empty (k : κ) : (∅ : Table κ α).get? k = none := rfl

omit [DecidableEq κ] in
@[simp] theorem size_empty : (∅ : Table κ α).size = 0 := rfl

/-- An entry is the value of its key. -/
theorem get?_eq_some_iff {t : Table κ α} {k : κ} {v : α} :
    t.get? k = some v ↔ (k, v) ∈ t.entries := by
  obtain ⟨entries, nodup⟩ := t
  simp only [get?]
  induction entries with
  | nil => simp
  | cons e rest ih =>
    obtain ⟨k', v'⟩ := e
    simp only [List.map_cons, List.nodup_cons, List.mem_map] at nodup
    rw [lookup_cons_ite]
    by_cases h : k = k'
    · subst h
      have : ∀ w, (k, w) ∉ rest := fun w hw => nodup.1 ⟨_, hw, rfl⟩
      simp [this, eq_comm]
    · simp [h, ih nodup.2]

/-! ### Keeping some entries -/

/-- Keeps the entries that a test accepts. -/
def filter (p : κ → α → Bool) (t : Table κ α) : Table κ α where
  entries := t.entries.filter fun e => p e.1 e.2
  nodup := t.nodup.sublist (List.filter_sublist.map _)

theorem get?_filter (p : κ → α → Bool) (t : Table κ α) (k : κ) :
    (t.filter p).get? k = (t.get? k).filter (p k) := by
  ext v
  rw [get?_eq_some_iff, Option.filter_eq_some_iff, get?_eq_some_iff]
  simp [filter]

omit [DecidableEq κ] in
theorem size_filter_le (p : κ → α → Bool) (t : Table κ α) : (t.filter p).size ≤ t.size :=
  List.length_filter_le _ _

/-- Takes a key out. -/
def erase (t : Table κ α) (k : κ) : Table κ α := t.filter fun k' _ => k' != k

theorem get?_erase (t : Table κ α) (k k' : κ) :
    (t.erase k).get? k' = if k' = k then none else t.get? k' := by
  rw [erase, get?_filter]
  by_cases h : k' = k <;> cases ht : t.get? k' <;> simp [h]

/-! ### Adding entries -/

/-- Sets the value of a key. -/
def insert (t : Table κ α) (k : κ) (v : α) : Table κ α where
  entries := (k, v) :: (t.erase k).entries
  nodup := by
    simp only [List.map_cons, List.nodup_cons]
    exact ⟨by simp [erase, filter], (t.erase k).nodup⟩

theorem get?_insert (t : Table κ α) (k k' : κ) (v : α) :
    (t.insert k v).get? k' = if k' = k then some v else t.get? k' := by
  have : (t.insert k v).get? k' = if k' = k then some v else (t.erase k).get? k' := by
    simp only [get?, insert, lookup_cons_ite]
  rw [this, get?_erase]
  by_cases h : k' = k <;> simp [h]

/-- A new key makes the table larger by one. -/
theorem size_insert_of_none {t : Table κ α} {k : κ} (h : t.get? k = none) (v : α) :
    (t.insert k v).size = t.size + 1 := by
  have hall : ∀ e ∈ t.entries, (e.1 != k) = true := by
    intro e he
    rw [bne_iff_ne]
    rintro rfl
    rw [get?_eq_some_iff.2 he] at h
    cases h
  show (t.entries.filter fun e => e.1 != k).length + 1 = t.entries.length + 1
  rw [List.filter_eq_self.2 hall]

/-- Gives a key a value unless it has one. -/
def insertNew (t : Table κ α) (k : κ) (v : α) : Table κ α :=
  if (t.get? k).isSome then t else t.insert k v

theorem get?_insertNew (t : Table κ α) (k k' : κ) (v : α) :
    (t.insertNew k v).get? k' = if k' = k then some ((t.get? k).getD v) else t.get? k' := by
  unfold insertNew
  split
  · rename_i h
    obtain ⟨w, hw⟩ := Option.isSome_iff_exists.1 h
    by_cases hk : k' = k <;> simp [hk, hw]
  · rename_i h
    rw [get?_insert]
    simp_all

/-! ### Changing a value -/

/-- Changes the value of a key, if it has one. -/
def modify (t : Table κ α) (k : κ) (f : α → α) : Table κ α where
  entries := t.entries.map fun e => if e.1 = k then (e.1, f e.2) else e
  nodup := by
    have : (t.entries.map fun e => if e.1 = k then (e.1, f e.2) else e).map Prod.fst =
        t.entries.map Prod.fst := by
      rw [List.map_map]
      exact List.map_congr_left fun e _ => by by_cases h : e.1 = k <;> simp [h]
    rw [this]
    exact t.nodup

@[simp] theorem size_modify (t : Table κ α) (k : κ) (f : α → α) : (t.modify k f).size = t.size := by
  simp [size, modify]

theorem get?_modify (t : Table κ α) (k k' : κ) (f : α → α) :
    (t.modify k f).get? k' = if k' = k then (t.get? k).map f else t.get? k' := by
  obtain ⟨entries, nodup⟩ := t
  simp only [get?, modify]
  clear nodup
  induction entries with
  | nil => simp
  | cons e rest ih =>
    obtain ⟨j, v⟩ := e
    simp only [List.map_cons]
    by_cases hj : j = k <;> by_cases hk : k' = k <;> by_cases hkj : k' = j <;>
      simp_all [lookup_cons_ite]

end Table
end AccountAccess
