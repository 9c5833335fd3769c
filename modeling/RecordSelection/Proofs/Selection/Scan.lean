import RecordSelection.Proofs.Selection.Walk

/-!
# Paths by scanning subtrees

The paths of a tree as they read off from the top: each node looks through everything below it for
a list of fields before it writes what is below. The walk goes over the tree once, bottom up, and
carries a flag instead. Both write the same paths from every node and under every base.
-/

set_option autoImplicit false

namespace RecordSelection.Selection

/-- The part of a node alone: its fields under the base if it lists any, and else a wildcard, or
the base without a dot at its end where nothing is expanded. -/
def scanOwn (base : String) (fields : Option (List String)) (expand : List Selection) : String :=
  match fields with
  | some names => ",".intercalate (names.map (base ++ ·))
  | none =>
    if expand ≠ [] then base ++ "*"
    else if base.toList.getLast? = some '.' then String.ofList base.toList.dropLast
    else base

mutual

/-- The part of a node, then what is below it: the parts of all children, if any node below lists
fields, and else one wildcard. -/
def scan (base : String) : Selection → String
  | ⟨_, fields, expand, _, _, _⟩ =>
    if expand = [] then scanOwn base fields expand
    else if (nodesOf expand).any (·.fields.isSome) then
      ",".intercalate (scanOwn base fields expand :: scanAll base expand)
    else ",".intercalate [scanOwn base fields expand, base ++ "expand.*"]

def scanAll (base : String) : List Selection → List String
  | [] => []
  | child :: rest => scan (base ++ "expand." ++ child.key ++ ".") child :: scanAll base rest

end

theorem scanAll_eq (base : String) (children : List Selection) :
    scanAll base children =
      children.map fun c => scan (base ++ "expand." ++ c.key ++ ".") c := by
  induction children with
  | nil => rfl
  | cons c rest ih => rw [scanAll, ih, List.map_cons]

theorem any_nodesOf (children : List Selection) :
    (nodesOf children).any (·.fields.isSome) = children.any listsFields := by
  rw [nodesOf_eq, List.any_flatMap]
  rfl

theorem withoutDot_eq (base : String) :
    withoutDot base =
      if base.toList.getLast? = some '.' then String.ofList base.toList.dropLast else base := by
  unfold withoutDot
  rcases List.eq_nil_or_concat base.toList with hnil | ⟨front, last, hlast⟩
  · simp [hnil]
  · rw [hlast, List.concat_eq_append, List.reverse_append]
    by_cases hdot : last = '.'
    · simp [hdot]
    · simp [hdot]

theorem scanOwn_eq (base : String) (s : Selection) :
    scanOwn base s.fields s.expand = ownPath base s.fields s.hasExpand := by
  unfold scanOwn ownPath
  cases s.fields with
  | some names => rfl
  | none =>
    rw [withoutDot_eq]
    simp [hasExpand]

theorem scan_eq_joinPaths (base : String) (s : Selection) :
    scan base s =
      joinPaths base (ownPath base s.fields s.hasExpand) (s.expand.any listsFields)
        (s.expand.map fun c => scan (childBase base c.key) c) := by
  have hown := scanOwn_eq base s
  cases s with
  | mk key fields expand sort filter requestKey =>
    rw [scan, any_nodesOf, scanAll_eq, hown]
    unfold joinPaths
    simp [childBase, String.append_assoc]

theorem scan_eq_segments (s : Selection) (base : String) :
    scan base s = ",".intercalate (segments base s) := by
  induction s using induct generalizing base with
  | node s ih =>
    have hchildren : (s.expand.map fun c => scan (childBase base c.key) c) =
        s.expand.map fun c => ",".intercalate (segments (childBase base c.key) c) :=
      List.map_congr_left fun c hc => ih c hc _
    rw [scan_eq_joinPaths, hchildren, joinPaths_eq]

theorem scan_eq_empty_iff (s : Selection) (base : String) :
    scan base s = "" ↔ s.expand = [] ∧ scanOwn base s.fields s.expand = "" := by
  cases s with
  | mk key fields expand sort filter requestKey =>
    by_cases hnil : expand = []
    · simp [scan, hnil]
    · obtain ⟨c, rest, rfl⟩ := List.exists_cons_of_ne_nil hnil
      rw [scan, if_neg hnil]
      split <;> simp [scanAll, String.intercalate_cons_cons]

theorem listsFields_eq_false_iff (s : Selection) :
    s.listsFields = false ↔ ∀ n ∈ s.nodes, n.fields = none := by
  simp [listsFields]

theorem compile_fields_of_lists (s : Selection) (lists : s.listsFields = true) :
    s.compile.fields = nonEmpty (some (scan "" s)) := by
  rw [compile_fields, if_pos lists, compileFields_eq, scan_eq_segments]

/-- The scan of a root that lists fields somewhere is empty when the root alone has a list and the
list joins to the empty text. -/
theorem scan_root_eq_empty_iff (s : Selection) (lists : s.listsFields = true) :
    scan "" s = "" ↔
      s.expand = [] ∧ ∃ names, s.fields = some names ∧ ",".intercalate names = "" := by
  rw [scan_eq_empty_iff]
  refine and_congr_right fun hnil => ?_
  obtain ⟨names, hnames⟩ : ∃ names, s.fields = some names := by
    rw [listsFields_eq, hnil] at lists
    simpa [Option.isSome_iff_exists] using lists
  simp [scanOwn, hnames]

/-- The walk writes the paths that a scan of the subtree at each node writes, under every base.
The parameter is left out exactly when no node of the tree lists fields, or when the root expands
nothing and its list joins to the empty text. -/
theorem walk_writes_scan (s : Selection) :
    (∀ base, compileFields base s = scan base s) ∧
    (s.compile.fields = none ∨ s.compile.fields = some (scan "" s)) ∧
    (s.compile.fields = none ↔
      (∀ n ∈ s.nodes, n.fields = none) ∨
        s.expand = [] ∧ ∃ names, s.fields = some names ∧ ",".intercalate names = "") := by
  refine ⟨fun base => by rw [compileFields_eq, scan_eq_segments], ?_⟩
  rw [← listsFields_eq_false_iff]
  cases lists : s.listsFields with
  | false =>
    have hnone : s.compile.fields = none := by
      rw [compile_fields, lists]
      rfl
    simp [hnone]
  | true =>
    rw [compile_fields_of_lists s lists, ← scan_root_eq_empty_iff s lists]
    by_cases hempty : scan "" s = ""
    · simp [nonEmpty, Option.filter, hempty]
    · simp [nonEmpty, Option.filter, hempty]

/-- A wildcard for the author, next to a list of fields further down in another branch. -/
example :
    let comments : Selection :=
      { key := "comments", expand := [{ key := "post", fields := some [] }] }
    let root : Selection := { key := "posts", expand := [{ key := "author" }, comments] }
    compileFields "" root = "*,expand.author,expand.comments.*," := by
  decide

end RecordSelection.Selection
