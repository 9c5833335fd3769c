import RecordSelection.Proofs.Selection.Faithful
import RecordSelection.Proofs.Shape.Checked

/-!
# The selection that a shape records

The shape of an accepted selection says which selection it belongs to: the keys, the lists of
fields and the nesting are read back from it. So a shape may be kept in place of its selection and
compiled again.
-/

set_option autoImplicit false

namespace RecordSelection

namespace Shape

theorem selections_eq (expand : List (Expanded Shape)) :
    selections expand = expand.map fun x => x.shape.selectionFrom x.key := by
  induction expand with
  | nil => rfl
  | cons x rest ih =>
    obtain ⟨key, cardinality, shape⟩ := x
    rw [selections, ih, List.map_cons]

theorem selectionFrom_eq (key : String) (s : Shape) :
    s.selectionFrom key =
      { key
        fields := if s.projected then some (s.fields.map (·.name)) else none
        expand := s.expand.map fun x => x.shape.selectionFrom x.key } := by
  cases s
  rw [selectionFrom, selections_eq]

end Shape

theorem names_of_fieldsOf (known : Entity) (wanted : Option (List String))
    (fields : List ShapeField) (h : FieldsOf known wanted fields) :
    (if wanted.isSome then some (fields.map (·.name)) else none) = wanted := by
  cases wanted with
  | none => rfl
  | some names => exact congrArg some h.2

namespace Schema

variable (s : Schema)

theorem selectionFrom_walk (base : String) (t : Target) (n : Selection) (w : Walked Shape)
    (hw : Selection.walk s.channel base t n = .ok w) :
    w.shape.selectionFrom n.key = n.tree := by
  induction n using Selection.induct generalizing base t w with
  | node n ih =>
    obtain ⟨ws, hws, hshape, -, -⟩ := (Selection.walk_ok_iff s.channel base t n w).mp hw
    obtain ⟨-, -, fields, hfields, hw⟩ := nodeShape_ok t n (Selection.seen ws) _ hshape
    have hchildren : List.Forall₂
        (fun c w' => c.tree = w'.walked.shape.selectionFrom w'.key) n.expand ws := by
      rw [List.forall₂_iff_zip] at hws ⊢
      refine ⟨hws.1, fun {c w'} mem => ?_⟩
      obtain ⟨hkey, -, hchild⟩ := hws.2 mem
      rw [hkey]
      exact (ih c (List.of_mem_zip mem).1 _ _ _ hchild).symm
    have hmap : n.expand.map Selection.tree =
        ws.map fun w' => w'.walked.shape.selectionFrom w'.key := by
      rw [← List.forall₂_eq_eq_eq, List.forall₂_map_left_iff, List.forall₂_map_right_iff]
      exact hchildren
    rw [Selection.tree_eq, hmap, hw, Shape.selectionFrom_eq, Selection.seen]
    simp only [List.map_map, names_of_fieldsOf t.fields n.fields fields hfields]
    rfl

theorem walk_tree (base : String) (t : Target) (n : Selection) (w : Walked Shape)
    (hw : Selection.walk s.channel base t n = .ok w) :
    Selection.walk s.channel base t n.tree = .ok w := by
  induction n using Selection.induct generalizing base t w with
  | node n ih =>
    obtain ⟨ws, hws, hshape, hflag, hpaths⟩ :=
      (Selection.walk_ok_iff s.channel base t n w).mp hw
    have hkey : ∀ c : Selection, c.tree.key = c.key := fun c => by rw [Selection.tree_eq]
    have hchildren : List.Forall₂ (Selection.WalksTo s.channel base t)
        (n.expand.map Selection.tree) ws := by
      rw [List.forall₂_map_left_iff]
      rw [List.forall₂_iff_zip] at hws ⊢
      refine ⟨hws.1, fun {c w'} mem => ?_⟩
      obtain ⟨hname, hresolve, hchild⟩ := hws.2 mem
      unfold Selection.WalksTo
      rw [hkey]
      exact ⟨hname, hresolve, ih c (List.of_mem_zip mem).1 _ _ _ hchild⟩
    rw [Selection.walk_ok_iff, Selection.tree_eq]
    refine ⟨ws, hchildren, hshape, hflag, ?_⟩
    rw [hpaths]
    simp [Selection.hasExpand]

theorem entity_of_compile (root : Selection) (c : Compiled) (hc : s.compile root = .ok c) :
    c.shape.entity = root.key := by
  obtain ⟨t, w, ht, hw, rfl⟩ := (compile_ok_iff_walk s root c).mp hc
  obtain ⟨ws, -, hshape, -, -⟩ := (Selection.walk_ok_iff s.channel "" t root w).mp hw
  obtain ⟨-, -, fields, -, hshape⟩ := nodeShape_ok t root (Selection.seen ws) _ hshape
  rw [hshape]
  unfold target at ht
  split at ht
  · obtain rfl := Except.ok.inj ht
    rfl
  · exact absurd ht (by simp)

/-- The shape of an accepted selection records the selection without sorting, filtering and request
keys, and compiles to the same shape and the same parameters but for these. -/
theorem recorded_selection_compiles (root : Selection) (c : Compiled)
    (hc : s.compile root = .ok c) :
    c.shape.selection = root.tree ∧
      s.compile c.shape.selection =
        .ok ⟨{ fields := c.parameters.fields, expand := c.parameters.expand }, c.shape⟩ := by
  have hentity := entity_of_compile s root c hc
  have hparameters := parameters_eq_compile s root c hc
  obtain ⟨t, w, ht, hw, rfl⟩ := (compile_ok_iff_walk s root c).mp hc
  have hselection : w.shape.selection = root.tree := by
    rw [Shape.selection, hentity]
    exact selectionFrom_walk s "" t root w hw
  refine ⟨hselection, ?_⟩
  have hwalk := walk_tree s "" t root w hw
  have htarget : s.target root.tree.key .one = .ok t := by
    rw [Selection.tree_eq]
    exact ht
  dsimp only at hparameters ⊢
  rw [hselection, hparameters, ← Selection.compile_tree root,
    ← Selection.assemble_eq_compile root.tree w (Selection.walk_paths _ _ _ _ _ hwalk)]
  exact (compile_ok_iff_walk s root.tree _).mpr ⟨t, w, htarget, hwalk, rfl⟩

/-- What the root is sorted by and the request key of a child are not recorded; the empty list of
fields is. -/
theorem recorded_selection_of_posts :
    let entities := Dictionary.ofList
      [("posts", Dictionary.ofList [("title", FieldKind.text)]),
       ("comments", Dictionary.ofList [("post", FieldKind.relation), ("text", FieldKind.text)])]
    let declared := Dictionary.ofList
      [("post", ⟨"posts", false⟩), ("comments(post)", ⟨"comments", true⟩)]
    let comments : Selection :=
      { key := "comments(post)", fields := some [], expand := [{ key := "post" }],
        requestKey := some "feed" }
    let root : Selection := { key := "posts", expand := [comments], sort := some "-title" }
    ∃ s c, ofDeclarations entities declared = .ok s ∧ s.compile root = .ok c ∧
      root.tree ≠ root ∧ c.shape.selection = root.tree ∧
      s.compile c.shape.selection =
        .ok ⟨{ fields := c.parameters.fields, expand := c.parameters.expand }, c.shape⟩ := by
  intro entities declared comments root
  refine ⟨_, _, rfl, rfl, by decide, ?_⟩
  exact recorded_selection_compiles _ root _ rfl

end Schema

end RecordSelection
