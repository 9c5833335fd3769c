import RecordSelection.Selection.Walk

/-!
# Selection trees node by node

Induction over a tree, the list of its nodes, and the nodes that a chain of relations leads to.
A tree alone is what is left of a selection without sorting, filtering and request keys; its
skeleton has the relations only.
-/

set_option autoImplicit false

namespace RecordSelection.Selection

theorem induct {P : Selection → Prop} (node : ∀ s : Selection, (∀ c ∈ s.expand, P c) → P s)
    (s : Selection) : P s :=
  @Selection.rec P (fun children => ∀ c ∈ children, P c)
    (fun key fields expand sort filter requestKey below =>
      node ⟨key, fields, expand, sort, filter, requestKey⟩ below)
    (by simp) (fun _ _ first rest => List.forall_mem_cons.mpr ⟨first, rest⟩) s

mutual

def nodes : Selection → List Selection
  | ⟨key, fields, expand, sort, filter, requestKey⟩ =>
    ⟨key, fields, expand, sort, filter, requestKey⟩ :: nodesOf expand

def nodesOf : List Selection → List Selection
  | [] => []
  | child :: rest => nodes child ++ nodesOf rest

end

theorem nodesOf_eq (children : List Selection) : nodesOf children = children.flatMap nodes := by
  induction children with
  | nil => rfl
  | cons c rest ih => rw [nodesOf, ih, List.flatMap_cons]

theorem nodes_eq (s : Selection) : s.nodes = s :: s.expand.flatMap nodes := by
  cases s
  rw [nodes, nodesOf_eq]

def Everywhere (P : Selection → Prop) (s : Selection) : Prop := ∀ n ∈ s.nodes, P n

instance (P : Selection → Prop) [DecidablePred P] (s : Selection) : Decidable (s.Everywhere P) :=
  inferInstanceAs (Decidable (∀ n ∈ s.nodes, P n))

theorem everywhere_iff (P : Selection → Prop) (s : Selection) :
    s.Everywhere P ↔ P s ∧ ∀ c ∈ s.expand, c.Everywhere P := by
  unfold Everywhere
  rw [nodes_eq, List.forall_mem_cons]
  simp only [List.mem_flatMap, forall_exists_index, and_imp]
  exact and_congr_right fun _ =>
    ⟨fun h c hc n hn => h n c hc hn, fun h n c hc hn => h c hc n hn⟩

def listsFields (s : Selection) : Bool := s.nodes.any (·.fields.isSome)

theorem listsFields_eq (s : Selection) :
    s.listsFields = (s.fields.isSome || s.expand.any listsFields) := by
  unfold listsFields
  rw [nodes_eq, List.any_cons, List.any_flatMap]

theorem hasExpand_eq_false_iff (s : Selection) : s.hasExpand = false ↔ s.expand = [] := by
  simp [hasExpand]

mutual

/-- The tree with the lists of fields changed, and without what matters at a root alone. -/
def redraw (change : Option (List String) → Option (List String)) : Selection → Selection
  | ⟨key, fields, expand, _, _, _⟩ =>
    { key, fields := change fields, expand := redrawAll change expand }

def redrawAll (change : Option (List String) → Option (List String)) :
    List Selection → List Selection
  | [] => []
  | child :: rest => redraw change child :: redrawAll change rest

end

theorem redraw_eq (change : Option (List String) → Option (List String)) (s : Selection) :
    s.redraw change =
      { key := s.key, fields := change s.fields, expand := s.expand.map (redraw change) } := by
  have hall : ∀ children, redrawAll change children = children.map (redraw change) := by
    intro children
    induction children with
    | nil => rfl
    | cons c rest ih => rw [redrawAll, ih, List.map_cons]
  cases s
  rw [redraw, hall]

def tree : Selection → Selection := redraw id

def skeleton : Selection → Selection := redraw fun _ => none

theorem tree_eq (s : Selection) :
    s.tree = { key := s.key, fields := s.fields, expand := s.expand.map tree } :=
  redraw_eq id s

theorem skeleton_eq (s : Selection) :
    s.skeleton = { key := s.key, expand := s.expand.map skeleton } :=
  redraw_eq _ s

theorem tree_eq_skeleton (s : Selection) (h : s.listsFields = false) : s.tree = s.skeleton := by
  induction s using induct with
  | node s ih =>
    rw [listsFields_eq, Bool.or_eq_false_iff, List.any_eq_false] at h
    obtain ⟨hf, hc⟩ := h
    have hmap : s.expand.map tree = s.expand.map skeleton :=
      List.map_congr_left fun c mem => ih c mem (by simpa using hc c mem)
    rw [tree_eq, skeleton_eq, hmap]
    simpa using hf

theorem map_skeleton_eq (children : List Selection) (h : children.any listsFields = false) :
    children.map skeleton = children.map tree :=
  List.map_congr_left fun c hc =>
    (tree_eq_skeleton c (by simpa using List.any_eq_false.mp h c hc)).symm

/-- The node that a chain of relations leads to. -/
inductive Reaches : Selection → List String → Selection → Prop where
  | here (s : Selection) : Reaches s [] s
  | step {s c n : Selection} {chain : List String} (child : c ∈ s.expand)
      (rest : Reaches c chain n) : Reaches s (c.key :: chain) n

end RecordSelection.Selection
