/-!
Selection trees. The root names a collection, every node below it a relation of the node above.
A node lists the fields wanted at its level, or wants all of them, and the relations to expand.
Sorting, filtering and the request key matter at the root alone.
-/

set_option autoImplicit false

namespace RecordSelection

structure Selection where
  key : String
  fields : Option (List String) := none
  expand : List Selection := []
  sort : Option String := none
  filter : Option String := none
  requestKey : Option String := none
  deriving Repr, Inhabited

namespace Selection

def ofKey (key : String) : Selection := { key }

def hasExpand (s : Selection) : Bool := !s.expand.isEmpty

def addExpand (s child : Selection) : Selection := { s with expand := s.expand ++ [child] }

mutual

def decideEq : (a b : Selection) → Decidable (a = b)
  | ⟨key, fields, expand, sort, filter, requestKey⟩,
    ⟨key', fields', expand', sort', filter', requestKey'⟩ =>
    match decideEqAll expand expand' with
    | isTrue same =>
      if h : key = key' ∧ fields = fields' ∧ sort = sort' ∧ filter = filter'
          ∧ requestKey = requestKey' then
        isTrue (by obtain ⟨rfl, rfl, rfl, rfl, rfl⟩ := h; rw [same])
      else isFalse (by rintro ⟨⟩; exact h ⟨rfl, rfl, rfl, rfl, rfl⟩)
    | isFalse different => isFalse (by rintro ⟨⟩; exact different rfl)

def decideEqAll : (a b : List Selection) → Decidable (a = b)
  | [], [] => isTrue rfl
  | [], _ :: _ => isFalse nofun
  | _ :: _, [] => isFalse nofun
  | a :: as, b :: bs =>
    match decideEq a b, decideEqAll as bs with
    | isTrue h, isTrue hs => isTrue (by rw [h, hs])
    | isFalse h, _ => isFalse (by rintro ⟨⟩; exact h rfl)
    | _, isFalse hs => isFalse (by rintro ⟨⟩; exact hs rfl)

end

instance : DecidableEq Selection := decideEq

def isBare (s : Selection) : Bool := s == ofKey s.key

/-- Levels of containers in the written form of a tree, the outermost counted. -/
def nesting : Selection → Nat
  | ⟨_, fields, expand, _, _, _⟩ =>
    1 + max (if fields.isSome then 1 else 0) (match expand with
      | [] => 0
      | child :: rest => 1 + max (nesting child) (deepest rest))
where
  deepest : List Selection → Nat
    | [] => 0
    | child :: rest => max (nesting child) (deepest rest)

end Selection

end RecordSelection
