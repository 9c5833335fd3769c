import RecordSelection.Proofs.Selection.Requested
import RecordSelection.Proofs.Shape.Checked

/-!
# What the shape promises

The parameters of an accepted selection ask for exactly the fields that its shape lists, at every
place that the expansions of the shape lead to.
-/

set_option autoImplicit false

namespace RecordSelection

/-- The shape that the expansions along a chain of relations lead to. -/
inductive Shape.Follows : Shape → List String → Shape → Prop where
  | here (s : Shape) : Follows s [] s
  | step {s t : Shape} {x : Expanded Shape} {chain : List String} (entry : x ∈ s.expand)
      (rest : Follows x.shape chain t) : Follows s (x.key :: chain) t

namespace Schema

variable (entities : Dictionary Entity) (declared : Dictionary RelationDeclaration)

theorem describesBelow_of_mem (children : List Selection) (expand : List (Expanded Shape))
    (h : List.Forall₂ (DescribesBelow entities declared) children expand) (x : Expanded Shape)
    (hx : x ∈ expand) : ∃ c ∈ children, DescribesBelow entities declared c x := by
  induction h with
  | nil => simp at hx
  | cons hfirst _ ih =>
    rcases List.mem_cons.mp hx with rfl | hx
    · exact ⟨_, List.mem_cons_self, hfirst⟩
    · obtain ⟨c, hc, hbelow⟩ := ih hx
      exact ⟨c, List.mem_cons_of_mem _ hc, hbelow⟩

theorem reaches_of_follows (entity : String) (root : Selection) (shape t : Shape)
    (chain : List String) (h : Describes entities declared entity root shape)
    (hfollows : shape.Follows chain t) :
    ∃ n target, Selection.Reaches root chain n ∧ Describes entities declared target n t := by
  induction hfollows generalizing entity root with
  | here s => exact ⟨root, entity, .here root, h⟩
  | step hx _ ih =>
    obtain ⟨-, -, -, -, -, hchildren⟩ := (describes_iff ..).mp h
    obtain ⟨c, hc, hkey, -, -, hbelow⟩ :=
      describesBelow_of_mem entities declared _ _ hchildren _ hx
    obtain ⟨n, target, hreach, hdescribes⟩ := ih _ c hbelow
    rw [hkey]
    exact ⟨n, target, .step hc hreach, hdescribes⟩

theorem distinct_of_fits (s : Schema) (h : ofDeclarations entities declared = .ok s)
    (entity : String) (known : Entity) (n : Selection)
    (hfits : Fits entities declared entity known n) : n.Everywhere Selection.DistinctNode := by
  induction n using Selection.induct generalizing entity known with
  | node n ih =>
    obtain ⟨-, hdistinct, hchildren⟩ := (fits_iff ..).mp hfits
    refine (Selection.everywhere_iff _ n).mpr ⟨hdistinct, fun c hc => ?_⟩
    obtain ⟨d, hd, -, hbelow⟩ := hchildren c hc
    obtain ⟨target, htarget⟩ := target_known entities declared s h c.key d hd
    exact ih c hc d.target target (hbelow target htarget)

/-- The parameters ask for a field at the end of a chain of expansions exactly when the shape lists
it there, unless an empty list at a root without expansions leaves nothing to write. -/
theorem requests_iff_listed (s : Schema) (h : ofDeclarations entities declared = .ok s)
    (root : Selection) (c : Compiled) (hc : s.compile root = .ok c)
    (hplain : root.Everywhere Selection.PlainNode)
    (hroot : ¬(root.expand = [] ∧ root.fields = some [])) (chain : List String) (t : Shape)
    (hfollows : c.shape.Follows chain t) :
    ∃ known, entities.get? t.entity = some known ∧ ∀ name,
      name ∈ t.fields.map (·.name) ↔
        known.contains name = true ∧ FieldPath.Requests c.parameters.fields chain name := by
  have haccepted := compile_ok_iff_fits entities declared s h root
  obtain ⟨rootKnown, -, hfits⟩ := haccepted.1.mp ⟨c, hc⟩
  have hdistinct := distinct_of_fits entities declared s h _ rootKnown root hfits
  obtain ⟨n, target, hreach, hdescribes⟩ :=
    reaches_of_follows entities declared _ root c.shape t chain (haccepted.2 c hc) hfollows
  obtain ⟨known, hfound, rfl, -, hwanted, -⟩ := (describes_iff ..).mp hdescribes
  refine ⟨known, hfound, fun name => ?_⟩
  rw [mem_fieldsOf known n.fields t.fields hwanted name,
    parameters_eq_compile s root c hc,
    Selection.requests_compile root n chain name hplain hdistinct hroot hreach]
  rfl

/-- The wildcard for the posts does not reach the comments, which list their fields. -/
theorem not_requests_unlisted :
    let entities := Dictionary.ofList
      [("posts", Dictionary.ofList [("title", FieldKind.text)]),
       ("comments", Dictionary.ofList [("post", FieldKind.relation), ("text", FieldKind.text)])]
    let declared := Dictionary.ofList
      [("post", ⟨"posts", false⟩), ("comments(post)", ⟨"comments", true⟩)]
    let root : Selection :=
      { key := "posts", expand := [{ key := "comments(post)", fields := some ["text"] }] }
    ∃ s, ofDeclarations entities declared = .ok s ∧ ∃ c, s.compile root = .ok c ∧
      ¬ FieldPath.Requests c.parameters.fields ["comments(post)"] "post" := by
  intro entities declared root
  let comments : Expanded Shape :=
    ⟨"comments(post)", .many, ⟨"comments", true, [⟨"text", .text⟩], []⟩⟩
  let posts : Shape := ⟨"posts", false, [⟨"title", .text⟩], [comments]⟩
  refine ⟨_, rfl, ⟨_, posts⟩, rfl, fun hrequests => ?_⟩
  have hfollows : posts.Follows ["comments(post)"] comments.shape :=
    .step (x := comments) List.mem_cons_self (.here _)
  obtain ⟨known, hknown, hlisted⟩ := requests_iff_listed entities declared _ rfl root _ rfl
    (by decide) (by decide) ["comments(post)"] _ hfollows
  obtain rfl := Option.some.inj hknown
  exact absurd ((hlisted "post").mpr ⟨by decide, hrequests⟩) (by decide)

end Schema

end RecordSelection
