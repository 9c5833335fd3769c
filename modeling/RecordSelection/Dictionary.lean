/-!
Dictionaries: values under texts, listed in the order of their keys, each key once. A value put
under a key that is there replaces the old one.
-/

set_option autoImplicit false

namespace RecordSelection

namespace Dictionary

variable {α : Type}

/-- Puts a value into a list of entries that is sorted by key. -/
def put (key : String) (value : α) : List (String × α) → List (String × α)
  | [] => [(key, value)]
  | (k, v) :: rest =>
    if key < k then (key, value) :: (k, v) :: rest
    else if k < key then (k, v) :: put key value rest
    else (key, value) :: rest

def Ordered (entries : List (String × α)) : Prop := entries.Pairwise fun a b => a.1 < b.1

theorem eq_or_mem_of_mem_put {key : String} {value : α} {entries : List (String × α)}
    {entry : String × α} (h : entry ∈ put key value entries) :
    entry.1 = key ∨ entry ∈ entries := by
  induction entries with
  | nil => simp [put] at h; simp [h]
  | cons first rest ih =>
    obtain ⟨k, v⟩ := first
    simp only [put] at h
    split at h
    · rcases List.mem_cons.1 h with h | h
      · simp [h]
      · exact .inr h
    · split at h
      · rcases List.mem_cons.1 h with h | h
        · simp [h]
        · rcases ih h with h | h
          · exact .inl h
          · exact .inr (List.mem_cons_of_mem _ h)
      · rcases List.mem_cons.1 h with h | h
        · simp [h]
        · exact .inr (List.mem_cons_of_mem _ h)

theorem ordered_put (key : String) (value : α) {entries : List (String × α)}
    (h : Ordered entries) : Ordered (put key value entries) := by
  induction entries with
  | nil => exact List.pairwise_singleton _ _
  | cons first rest ih =>
    obtain ⟨k, v⟩ := first
    have hk := List.pairwise_cons.1 h
    simp only [put]
    split
    case isTrue lt =>
      refine List.pairwise_cons.2 ⟨fun entry mem => ?_, h⟩
      rcases List.mem_cons.1 mem with rfl | mem
      · exact lt
      · exact String.lt_trans lt (hk.1 entry mem)
    case isFalse nlt =>
      split
      case isTrue lt =>
        refine List.pairwise_cons.2 ⟨fun entry mem => ?_, ih hk.2⟩
        rcases eq_or_mem_of_mem_put mem with rfl | mem
        · exact lt
        · exact hk.1 entry mem
      case isFalse ngt =>
        have same : key = k := String.le_antisymm (String.not_lt.1 ngt) (String.not_lt.1 nlt)
        exact List.pairwise_cons.2 ⟨fun entry mem => same ▸ hk.1 entry mem, hk.2⟩

end Dictionary

structure Dictionary (α : Type) where
  entries : List (String × α)
  ordered : Dictionary.Ordered entries

namespace Dictionary

variable {α : Type}

def empty : Dictionary α := ⟨[], .nil⟩

def insert (d : Dictionary α) (key : String) (value : α) : Dictionary α :=
  ⟨put key value d.entries, ordered_put key value d.ordered⟩

def ofList (entries : List (String × α)) : Dictionary α :=
  entries.foldl (fun d entry => d.insert entry.1 entry.2) empty

def get? (d : Dictionary α) (key : String) : Option α :=
  (d.entries.find? (·.1 == key)).map (·.2)

def contains (d : Dictionary α) (key : String) : Bool := d.entries.any (·.1 == key)

def keys (d : Dictionary α) : List String := d.entries.map (·.1)

def update (d : Dictionary α) (key : String) (change : Option α → α) : Dictionary α :=
  d.insert key (change (d.get? key))

def erase (d : Dictionary α) (key : String) : Dictionary α :=
  ⟨d.entries.filter (·.1 != key), d.ordered.filter _⟩

instance : EmptyCollection (Dictionary α) := ⟨empty⟩

instance : Inhabited (Dictionary α) := ⟨empty⟩

end Dictionary

end RecordSelection
