import RecordSelection.Dictionary

/-!
# Looking up in a dictionary

What a dictionary holds under a key after a value was put there, replaced or removed. An entry is
listed exactly when it is found by its key, because no key is listed twice.
-/

set_option autoImplicit false

namespace RecordSelection.Dictionary

variable {α : Type}

def find (key : String) (entries : List (String × α)) : Option α :=
  (entries.find? (·.1 == key)).map (·.2)

theorem get?_eq_find (d : Dictionary α) (key : String) : d.get? key = find key d.entries := rfl

@[simp] theorem find_nil (key : String) : find key ([] : List (String × α)) = none := rfl

theorem find_cons (key k : String) (v : α) (rest : List (String × α)) :
    find key ((k, v) :: rest) = if k = key then some v else find key rest := by
  by_cases h : k = key
  · simp [find, h]
  · simp [find, h]

theorem find_put (key : String) (value : α) (entries : List (String × α)) (k : String) :
    find k (put key value entries) = if key = k then some value else find k entries := by
  induction entries with
  | nil => simp [put, find_cons]
  | cons first rest ih =>
    obtain ⟨k', v⟩ := first
    simp only [put]
    split
    · simp [find_cons]
    · rename_i hlow
      split
      · rename_i hhigh
        have hne : key ≠ k' := fun h => String.lt_irrefl k' (h ▸ hhigh)
        rw [find_cons, find_cons, ih]
        by_cases hk : key = k
        · simp [hk, show k' ≠ k from fun h => hne (hk.trans h.symm)]
        · simp [hk]
      · rename_i hhigh
        have hsame : key = k' :=
          String.le_antisymm (String.not_lt.1 hhigh) (String.not_lt.1 hlow)
        rw [find_cons, find_cons, hsame]
        split <;> simp [*]

theorem find_filter_ne (key k : String) (entries : List (String × α)) :
    find k (entries.filter (·.1 != key)) = if k = key then none else find k entries := by
  induction entries with
  | nil => simp
  | cons first rest ih =>
    obtain ⟨k', v⟩ := first
    rw [List.filter_cons]
    by_cases h : k' = key
    · have hb : (k' != key) = false := by simpa using h
      simp only [hb, Bool.false_eq_true, if_false, ih, find_cons]
      by_cases hk : k = key
      · simp [hk]
      · simp [hk, h, Ne.symm hk]
    · have hb : (k' != key) = true := by simpa using h
      simp only [hb, if_true, find_cons, ih]
      by_cases hk : k' = k
      · simp [hk.symm, h]
      · simp [hk]

theorem mem_iff_find (entries : List (String × α)) (h : Ordered entries) (key : String) (v : α) :
    (key, v) ∈ entries ↔ find key entries = some v := by
  induction entries with
  | nil => simp
  | cons first rest ih =>
    obtain ⟨k, w⟩ := first
    obtain ⟨hk, hrest⟩ := List.pairwise_cons.1 h
    rw [List.mem_cons, ih hrest, find_cons]
    by_cases hkey : k = key
    · subst hkey
      have habsent : find k rest ≠ some v := fun hf =>
        String.lt_irrefl k (hk (k, v) ((ih hrest).2 hf))
      simp [habsent, eq_comm]
    · simp [hkey, Ne.symm hkey]

@[simp] theorem get?_empty (key : String) : (empty : Dictionary α).get? key = none := rfl

theorem get?_insert (d : Dictionary α) (key : String) (value : α) (k : String) :
    (d.insert key value).get? k = if key = k then some value else d.get? k :=
  find_put key value d.entries k

theorem get?_erase (d : Dictionary α) (key k : String) :
    (d.erase key).get? k = if k = key then none else d.get? k :=
  find_filter_ne key k d.entries

theorem get?_update (d : Dictionary α) (key : String) (change : Option α → α) (k : String) :
    (d.update key change).get? k = if key = k then some (change (d.get? key)) else d.get? k :=
  get?_insert d key _ k

theorem mem_entries_iff (d : Dictionary α) (key : String) (v : α) :
    (key, v) ∈ d.entries ↔ d.get? key = some v :=
  mem_iff_find d.entries d.ordered key v

theorem mem_keys_iff (d : Dictionary α) (key : String) :
    key ∈ d.keys ↔ ∃ v, d.get? key = some v := by
  simp only [← mem_entries_iff, keys, List.mem_map, Prod.exists]
  constructor
  · rintro ⟨k, v, h, rfl⟩
    exact ⟨v, h⟩
  · rintro ⟨v, h⟩
    exact ⟨key, v, h, rfl⟩

theorem contains_iff (d : Dictionary α) (key : String) :
    d.contains key = true ↔ ∃ v, d.get? key = some v := by
  rw [← mem_keys_iff]
  simp only [contains, keys, List.any_eq_true, beq_iff_eq, List.mem_map]

theorem entries_eq_nil_iff (d : Dictionary α) :
    d.entries = [] ↔ ∀ key, d.get? key = none := by
  constructor
  · intro h key
    rw [get?_eq_find, h, find_nil]
  · intro h
    rw [List.eq_nil_iff_forall_not_mem]
    rintro ⟨key, v⟩ hm
    rw [mem_entries_iff, h] at hm
    exact absurd hm (by simp)

end RecordSelection.Dictionary
