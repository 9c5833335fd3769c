import RecordSelection.Proofs.Schema.Relations
import RecordSelection.Proofs.Selection.FieldPaths
import RecordSelection.Shape.Derive

/-!
# Selections that fit a schema

A selection is accepted exactly when it fits the declarations of the schema at every node, and the
shape it is given describes it node by node. Both are said by rules that go down the tree, each
node standing for the entity that its relation leads to.
-/

set_option autoImplicit false

namespace RecordSelection

def Lists (known : Entity) (wanted : Option (List String)) : Prop :=
  ∀ names ∈ wanted, names.Nodup ∧ ∀ name ∈ names, known.contains name = true

instance (known : Entity) (wanted : Option (List String)) : Decidable (Lists known wanted) :=
  inferInstanceAs (Decidable (∀ names ∈ wanted, _ ∧ _))

def FieldsOf (known : Entity) (wanted : Option (List String)) (fields : List ShapeField) : Prop :=
  (∀ f ∈ fields, known.get? f.name = some f.kind) ∧
    match wanted with
    | some names => fields.map (·.name) = names
    | none =>
      (fields.map (·.name)).Pairwise (· < ·) ∧
        ∀ name, known.contains name = true → name ∈ fields.map (·.name)

theorem mem_fieldsOf (known : Entity) (wanted : Option (List String)) (fields : List ShapeField)
    (h : FieldsOf known wanted fields) (name : String) :
    name ∈ fields.map (·.name) ↔
      known.contains name = true ∧ ∀ names ∈ wanted, name ∈ names := by
  obtain ⟨hkinds, hwanted⟩ := h
  have hknown : name ∈ fields.map (·.name) → known.contains name = true := by
    intro hname
    obtain ⟨f, hf, rfl⟩ := List.mem_map.mp hname
    exact (Dictionary.contains_iff known f.name).mpr ⟨f.kind, hkinds f hf⟩
  cases wanted with
  | none => exact ⟨fun hname => ⟨hknown hname, by simp⟩, fun h => hwanted.2 name h.1⟩
  | some names =>
    obtain rfl := hwanted
    exact ⟨fun hname => ⟨hknown hname, by simpa using hname⟩, fun h => h.2 _ rfl⟩

section Rules

variable (entities : Dictionary Entity) (declared : Dictionary RelationDeclaration)

mutual

/-- The selection may be made from the records of an entity that has the fields `known`. -/
inductive Fits : String → Entity → Selection → Prop where
  | node {entity : String} {known : Entity} {s : Selection}
      (lists : Lists known s.fields)
      (distinct : s.DistinctNode)
      (children : ∀ c ∈ s.expand, FitsBelow entity known c) : Fits entity known s

inductive FitsBelow : String → Entity → Selection → Prop where
  | child {entity : String} {known : Entity} {c : Selection} {d : RelationDeclaration}
      (relation : declared.get? c.key = some d)
      (once : ReachedOnce declared entity known c.key)
      (below : ∀ target, entities.get? d.target = some target → Fits d.target target c) :
      FitsBelow entity known c

end

mutual

/-- The shape is that of the records which the selection returns from an entity. -/
inductive Describes : String → Selection → Shape → Prop where
  | node {entity : String} {s : Selection} {known : Entity} {fields : List ShapeField}
      {expand : List (Expanded Shape)}
      (found : entities.get? entity = some known)
      (wanted : FieldsOf known s.fields fields)
      (children : List.Forall₂ DescribesBelow s.expand expand) :
      Describes entity s ⟨entity, s.fields.isSome, fields, expand⟩

inductive DescribesBelow : Selection → Expanded Shape → Prop where
  | child {c : Selection} {x : Expanded Shape} {d : RelationDeclaration}
      (key : x.key = c.key)
      (relation : declared.get? c.key = some d)
      (cardinality : x.cardinality = .many ↔ d.many = true)
      (below : Describes d.target c x.shape) : DescribesBelow c x

end

theorem fits_iff (entity : String) (known : Entity) (s : Selection) :
    Fits entities declared entity known s ↔
      Lists known s.fields ∧ s.DistinctNode ∧
        ∀ c ∈ s.expand, ∃ d, declared.get? c.key = some d ∧
          ReachedOnce declared entity known c.key ∧
          ∀ target, entities.get? d.target = some target →
            Fits entities declared d.target target c := by
  constructor
  · rintro ⟨lists, distinct, children⟩
    refine ⟨lists, distinct, fun c hc => ?_⟩
    obtain ⟨relation, once, below⟩ := children c hc
    exact ⟨_, relation, once, below⟩
  · rintro ⟨lists, distinct, children⟩
    refine .node lists distinct fun c hc => ?_
    obtain ⟨d, relation, once, below⟩ := children c hc
    exact .child relation once below

theorem describes_iff (entity : String) (s : Selection) (shape : Shape) :
    Describes entities declared entity s shape ↔
      ∃ known, entities.get? entity = some known ∧ shape.entity = entity ∧
        shape.projected = s.fields.isSome ∧ FieldsOf known s.fields shape.fields ∧
        List.Forall₂ (DescribesBelow entities declared) s.expand shape.expand := by
  constructor
  · rintro ⟨found, wanted, children⟩
    exact ⟨_, found, rfl, rfl, wanted, children⟩
  · obtain ⟨entity', projected, fields, expand⟩ := shape
    rintro ⟨known, found, rfl, rfl, wanted, children⟩
    exact .node found wanted children

end Rules

namespace Schema

def Fresh (seen names : List String) : Prop := names.Nodup ∧ ∀ name ∈ names, name ∉ seen

theorem fresh_nil_iff (names : List String) : Fresh [] names ↔ names.Nodup := by
  simp [Fresh]

theorem fresh_cons_iff (seen : List String) (name : String) (names : List String) :
    Fresh seen (name :: names) ↔ name ∉ seen ∧ Fresh (name :: seen) names := by
  unfold Fresh
  rw [List.nodup_cons, List.forall_mem_cons]
  constructor
  · rintro ⟨⟨hname, hnodup⟩, hfirst, hseen⟩
    refine ⟨hfirst, hnodup, fun n hn => ?_⟩
    have hne : n ≠ name := fun h => hname (h ▸ hn)
    simp [hne, hseen n hn]
  · rintro ⟨hfirst, hnodup, hseen⟩
    have hname : name ∉ names := fun hmem => hseen name hmem List.mem_cons_self
    exact ⟨⟨hname, hnodup⟩, hfirst, fun n hn hmem => hseen n hn (List.mem_cons_of_mem name hmem)⟩

theorem listedFields_ok (t : Target) (seen names : List String) (fields : List ShapeField)
    (h : listedFields t seen names = .ok fields) :
    Fresh seen names ∧ fields.map (·.name) = names ∧
      ∀ f ∈ fields, t.fields.get? f.name = some f.kind := by
  induction names generalizing seen fields with
  | nil =>
    obtain rfl := Except.ok.inj h
    simp [Fresh]
  | cons name rest ih =>
    unfold listedFields at h
    split at h
    · simp at h
    · rename_i hseen
      split at h
      · simp at h
      · rename_i kind hkind
        obtain ⟨others, hothers, hfields⟩ := (bind_eq_ok _ _ _).mp h
        obtain rfl := Except.ok.inj hfields
        obtain ⟨hfresh, hnames, hkinds⟩ := ih _ _ hothers
        refine ⟨(fresh_cons_iff seen name rest).mpr ⟨by simpa using hseen, hfresh⟩, ?_, ?_⟩
        · simp [hnames]
        · exact List.forall_mem_cons.mpr ⟨hkind, hkinds⟩

theorem listedFields_complete (t : Target) (seen names : List String) (hfresh : Fresh seen names)
    (hknown : ∀ name ∈ names, t.fields.contains name = true) :
    ∃ fields, listedFields t seen names = .ok fields := by
  induction names generalizing seen with
  | nil => exact ⟨[], rfl⟩
  | cons name rest ih =>
    obtain ⟨hseen, hrest⟩ := (fresh_cons_iff seen name rest).mp hfresh
    obtain ⟨hfirst, hknown⟩ := List.forall_mem_cons.mp hknown
    obtain ⟨kind, hkind⟩ := (Dictionary.contains_iff t.fields name).mp hfirst
    obtain ⟨fields, hfields⟩ := ih (name :: seen) hrest hknown
    refine ⟨⟨name, kind⟩ :: fields, ?_⟩
    simp [listedFields, hseen, hkind, hfields, bind, Except.bind, pure, Except.pure]

def entry (c : String × Target × Shape) : Expanded Shape := ⟨c.1, c.2.1.cardinality, c.2.2⟩

theorem expansions_ok_iff (t : Target) (seen : List String)
    (children : List (String × Target × Shape)) (expand : List (Expanded Shape)) :
    expansions t seen children = .ok expand ↔
      Fresh seen (children.map (·.1)) ∧ expand = children.map entry := by
  induction children generalizing seen expand with
  | nil => simp [expansions, Fresh, eq_comm]
  | cons c rest ih =>
    obtain ⟨key, target, shape⟩ := c
    rw [List.map_cons, fresh_cons_iff, expansions]
    by_cases hseen : key ∈ seen
    · simp [hseen]
    · simp only [List.contains_eq_mem, hseen, decide_false, Bool.false_eq_true, if_false,
        bind_eq_ok, ih, pure, Except.pure, Except.ok.injEq, not_false_eq_true, true_and]
      constructor
      · rintro ⟨others, ⟨hfresh, rfl⟩, rfl⟩
        exact ⟨hfresh, rfl⟩
      · rintro ⟨hfresh, rfl⟩
        exact ⟨rest.map entry, ⟨hfresh, rfl⟩, rfl⟩

def fieldsOf (t : Target) (wanted : Option (List String)) : Except SchemaFault (List ShapeField) :=
  match wanted with
  | some names => listedFields t [] names
  | none => .ok (t.fields.entries.map fun (name, kind) => ⟨name, kind⟩)

theorem nodeShape_eq (t : Target) (n : Selection) (children : List (String × Target × Shape)) :
    nodeShape t n children = do
      let fields ← fieldsOf t n.fields
      let expand ← expansions t [] children
      return ⟨t.entity, n.fields.isSome, fields, expand⟩ := by
  unfold nodeShape fieldsOf
  cases n.fields <;> rfl

theorem fieldsOf_ok (t : Target) (wanted : Option (List String)) (fields : List ShapeField)
    (h : fieldsOf t wanted = .ok fields) :
    Lists t.fields wanted ∧ FieldsOf t.fields wanted fields := by
  cases wanted with
  | none =>
    obtain rfl := Except.ok.inj h
    refine ⟨by simp [Lists], ?_, ?_, ?_⟩
    · intro f hf
      obtain ⟨⟨name, kind⟩, hmem, rfl⟩ := List.mem_map.mp hf
      exact (Dictionary.mem_entries_iff t.fields name kind).mp hmem
    · rw [List.map_map]
      exact List.pairwise_map.mpr t.fields.ordered
    · intro name hname
      rw [List.map_map]
      exact (Dictionary.mem_keys_iff t.fields name).mpr
        ((Dictionary.contains_iff t.fields name).mp hname)
  | some names =>
    obtain ⟨hfresh, hnames, hkinds⟩ := listedFields_ok t [] names fields h
    refine ⟨?_, hkinds, hnames⟩
    rintro _ ⟨⟩
    refine ⟨(fresh_nil_iff names).mp hfresh, fun name hname => ?_⟩
    obtain ⟨f, hf, rfl⟩ := List.mem_map.mp (hnames ▸ hname)
    exact (Dictionary.contains_iff t.fields f.name).mpr ⟨f.kind, hkinds f hf⟩

theorem fieldsOf_complete (t : Target) (wanted : Option (List String))
    (h : Lists t.fields wanted) : ∃ fields, fieldsOf t wanted = .ok fields := by
  cases wanted with
  | none => exact ⟨_, rfl⟩
  | some names =>
    obtain ⟨hnodup, hknown⟩ := h names rfl
    exact listedFields_complete t [] names ((fresh_nil_iff names).mpr hnodup) hknown

theorem nodeShape_ok (t : Target) (n : Selection) (children : List (String × Target × Shape))
    (shape : Shape) (h : nodeShape t n children = .ok shape) :
    Lists t.fields n.fields ∧ (children.map (·.1)).Nodup ∧
      ∃ fields, FieldsOf t.fields n.fields fields ∧
        shape = ⟨t.entity, n.fields.isSome, fields, children.map entry⟩ := by
  rw [nodeShape_eq] at h
  obtain ⟨fields, hfields, h⟩ := (bind_eq_ok _ _ _).mp h
  obtain ⟨expand, hexpand, h⟩ := (bind_eq_ok _ _ _).mp h
  obtain rfl := Except.ok.inj h
  obtain ⟨hkeys, rfl⟩ := (expansions_ok_iff t [] children expand).mp hexpand
  obtain ⟨hlists, hof⟩ := fieldsOf_ok t n.fields fields hfields
  exact ⟨hlists, (fresh_nil_iff _).mp hkeys, fields, hof, rfl⟩

theorem nodeShape_complete (t : Target) (n : Selection)
    (children : List (String × Target × Shape)) (hlists : Lists t.fields n.fields)
    (hkeys : (children.map (·.1)).Nodup) : ∃ shape, nodeShape t n children = .ok shape := by
  obtain ⟨fields, hfields⟩ := fieldsOf_complete t n.fields hlists
  have hexpand := (expansions_ok_iff t [] children _).mpr ⟨(fresh_nil_iff _).mpr hkeys, rfl⟩
  rw [nodeShape_eq, hfields, hexpand]
  exact ⟨_, rfl⟩

theorem compile_ok_iff_walk (s : Schema) (root : Selection) (c : Compiled) :
    s.compile root = .ok c ↔
      ∃ t w, s.target root.key .one = .ok t ∧ Selection.walk s.channel "" t root = .ok w ∧
        c = ⟨root.assemble w, w.shape⟩ := by
  unfold compile
  simp only [bind_eq_ok, pure, Except.pure, Except.ok.injEq]
  constructor
  · rintro ⟨t, ht, w, hw, rfl⟩
    exact ⟨t, w, ht, hw, rfl⟩
  · rintro ⟨t, w, ht, hw, rfl⟩
    exact ⟨t, ht, w, hw, rfl⟩

/-- The parameters of an accepted selection are those of the same selection unchecked, because
the walks through the two channels write the same paths. -/
theorem parameters_eq_compile (s : Schema) (root : Selection) (c : Compiled)
    (hc : s.compile root = .ok c) : c.parameters = root.compile := by
  obtain ⟨t, w, -, hw, rfl⟩ := (compile_ok_iff_walk s root c).mp hc
  exact Selection.assemble_eq_compile root w (Selection.walk_paths _ _ _ _ _ hw)

section Accepted

variable (entities : Dictionary Entity) (declared : Dictionary RelationDeclaration) (s : Schema)
  (h : ofDeclarations entities declared = .ok s)

include h

theorem target_ok_iff (entity : String) (cardinality : Cardinality) (t : Target) :
    s.target entity cardinality = .ok t ↔
      ∃ known, entities.get? entity = some known ∧ t = ⟨entity, known, cardinality⟩ := by
  rw [← (ofDeclarations_ok entities declared s h).1]
  unfold target entity?
  cases s.entities.get? entity <;> simp [eq_comm]

theorem resolveChild_ok_iff (parent : Target) (key : String) (t : Target) :
    s.resolveChild parent key = .ok t ↔
      ∃ d known, declared.get? key = some d ∧
        ReachedOnce declared parent.entity parent.fields key ∧
        entities.get? d.target = some known ∧ t = ⟨d.target, known, d.cardinality⟩ := by
  obtain ⟨-, hbuild⟩ := ofDeclarations_ok entities declared s h
  unfold resolveChild
  rw [bind_eq_ok]
  constructor
  · rintro ⟨r, hr, ht⟩
    obtain ⟨d, hd, honce, rfl⟩ :=
      (RelationIndex.resolve_ok_iff entities declared _ hbuild ..).mp hr
    obtain ⟨known, hknown, rfl⟩ := (target_ok_iff entities declared s h ..).mp ht
    exact ⟨d, known, hd, honce, hknown, rfl⟩
  · rintro ⟨d, known, hd, honce, hknown, rfl⟩
    refine ⟨RelationIndex.declare declared key d, ?_, ?_⟩
    · exact (RelationIndex.resolve_ok_iff entities declared _ hbuild ..).mpr ⟨d, hd, honce, rfl⟩
    · exact (target_ok_iff entities declared s h ..).mpr ⟨known, hknown, rfl⟩

theorem walk_sound (base : String) (t : Target) (n : Selection) (w : Walked Shape)
    (hknown : entities.get? t.entity = some t.fields)
    (hw : Selection.walk s.channel base t n = .ok w) :
    Fits entities declared t.entity t.fields n ∧
      Describes entities declared t.entity n w.shape := by
  induction n using Selection.induct generalizing base t w with
  | node n ih =>
    obtain ⟨ws, hws, hshape, -, -⟩ := (Selection.walk_ok_iff s.channel base t n w).mp hw
    obtain ⟨hlists, hkeys, fields, hfields, hw⟩ := nodeShape_ok t n (Selection.seen ws) _ hshape
    rw [Selection.seen_keys _ _ _ _ _ hws] at hkeys
    have hbelow : List.Forall₂ (fun c w => FitsBelow entities declared t.entity t.fields c ∧
        DescribesBelow entities declared c (entry (w.key, w.context, w.walked.shape)))
        n.expand ws := by
      rw [List.forall₂_iff_zip] at hws ⊢
      refine ⟨hws.1, fun {c w'} mem => ?_⟩
      obtain ⟨hkey, hresolve, hchild⟩ := hws.2 mem
      obtain ⟨d, known, hd, honce, hfound, hcontext⟩ :=
        (resolveChild_ok_iff entities declared s h t c.key w'.context).mp hresolve
      have htarget : entities.get? w'.context.entity = some w'.context.fields := by
        rw [hcontext]
        exact hfound
      obtain ⟨hfits, hdescribes⟩ := ih c (List.of_mem_zip mem).1 _ _ _ htarget hchild
      rw [hcontext] at hfits hdescribes
      have hbelow : ∀ target, entities.get? d.target = some target →
          Fits entities declared d.target target c := by
        intro target htarget
        obtain rfl := Option.some.inj (hfound.symm.trans htarget)
        exact hfits
      refine ⟨.child hd honce hbelow, .child hkey hd ?_ hdescribes⟩
      simp [entry, hcontext, d.cardinality_eq_many_iff]
    obtain ⟨hfits, hdescribes⟩ := (List.forall₂_and_left _ _).mp hbelow
    refine ⟨.node hlists hkeys hfits, ?_⟩
    rw [hw]
    refine .node hknown hfields ?_
    rw [Selection.seen, List.map_map]
    exact List.forall₂_map_right_iff.mpr hdescribes

theorem walk_complete (base : String) (t : Target) (n : Selection)
    (hfits : Fits entities declared t.entity t.fields n) :
    ∃ w, Selection.walk s.channel base t n = .ok w := by
  induction n using Selection.induct generalizing base t with
  | node n ih =>
    obtain ⟨hlists, hdistinct, hchildren⟩ := (fits_iff ..).mp hfits
    have hwalks : ∀ c ∈ n.expand, ∃ w, Selection.WalksTo s.channel base t c w := by
      intro c hc
      obtain ⟨d, hd, honce, hbelow⟩ := hchildren c hc
      obtain ⟨target, htarget⟩ := target_known entities declared s h c.key d hd
      obtain ⟨w, hw⟩ := ih c hc (Selection.childBase base c.key)
        ⟨d.target, target, d.cardinality⟩ (hbelow target htarget)
      refine ⟨⟨c.key, _, w⟩, rfl, ?_, hw⟩
      exact (resolveChild_ok_iff entities declared s h t c.key _).mpr
        ⟨d, target, hd, honce, htarget, rfl⟩
    obtain ⟨ws, hws⟩ := Selection.exists_walks s.channel base t n.expand hwalks
    have hkeys := Selection.seen_keys _ _ _ _ _ hws
    obtain ⟨shape, hshape⟩ := nodeShape_complete t n (Selection.seen ws) hlists
      (hkeys ▸ hdistinct)
    exact ⟨_, (Selection.walk_ok_iff s.channel base t n ⟨_, _, shape⟩).mpr
      ⟨ws, hws, hshape, rfl, rfl⟩⟩

theorem compile_eq_ok_iff (root : Selection) (c : Compiled) :
    s.compile root = .ok c ↔
      ∃ known w, entities.get? root.key = some known ∧
        Selection.walk s.channel "" ⟨root.key, known, .one⟩ root = .ok w ∧
        c = ⟨root.assemble w, w.shape⟩ := by
  rw [compile_ok_iff_walk]
  simp only [target_ok_iff entities declared s h]
  constructor
  · rintro ⟨_, w, ⟨known, hknown, rfl⟩, hw, rfl⟩
    exact ⟨known, w, hknown, hw, rfl⟩
  · rintro ⟨known, w, hknown, hw, rfl⟩
    exact ⟨_, w, ⟨known, hknown, rfl⟩, hw, rfl⟩

/-- A selection is accepted exactly when its root names an entity that it fits, and the shape then
describes it. -/
theorem compile_ok_iff_fits (root : Selection) :
    ((∃ c, s.compile root = .ok c) ↔
      ∃ known, entities.get? root.key = some known ∧
        Fits entities declared root.key known root) ∧
    ∀ c, s.compile root = .ok c → Describes entities declared root.key root c.shape := by
  refine ⟨⟨?_, ?_⟩, ?_⟩
  · rintro ⟨c, hc⟩
    obtain ⟨known, w, hknown, hw, rfl⟩ := (compile_eq_ok_iff entities declared s h root c).mp hc
    exact ⟨known, hknown, (walk_sound entities declared s h "" _ root w hknown hw).1⟩
  · rintro ⟨known, hknown, hfits⟩
    obtain ⟨w, hw⟩ := walk_complete entities declared s h "" ⟨root.key, known, .one⟩ root hfits
    exact ⟨_, (compile_eq_ok_iff entities declared s h root _).mpr ⟨known, w, hknown, hw, rfl⟩⟩
  · intro c hc
    obtain ⟨known, w, hknown, hw, rfl⟩ := (compile_eq_ok_iff entities declared s h root c).mp hc
    exact (walk_sound entities declared s h "" _ root w hknown hw).2

end Accepted

/-- The comments of a post are reached back through the relation that leads to it. -/
theorem compile_ok_back :
    let entities := Dictionary.ofList
      [("posts", Dictionary.ofList [("title", FieldKind.text)]),
       ("comments", Dictionary.ofList [("post", FieldKind.relation)])]
    let declared := Dictionary.ofList
      [("post", ⟨"posts", false⟩), ("comments(post)", ⟨"comments", true⟩)]
    let root : Selection :=
      { key := "posts", fields := some ["title"], expand := [{ key := "comments(post)" }] }
    ∃ s, ofDeclarations entities declared = .ok s ∧ ∃ c, s.compile root = .ok c := by
  intro entities declared root
  have hback : ReachedBack declared "posts" "comments(post)" :=
    ⟨"comments", "post", ⟨"posts", false⟩, ⟨by decide, by decide, by decide⟩, rfl, rfl⟩
  have hcomments : ∀ known, Fits entities declared "comments" known { key := "comments(post)" } :=
    fun known => .node (by simp [Lists]) (by decide) (by simp)
  have hposts : Fits entities declared "posts" (Dictionary.ofList [("title", .text)]) root := by
    refine .node (by decide) (by decide) ?_
    intro c hc
    obtain rfl := List.mem_singleton.mp hc
    exact .child (d := ⟨"comments", true⟩) rfl (.inr ⟨hback, by decide⟩) fun known _ =>
      hcomments known
  exact ⟨_, rfl, (compile_ok_iff_fits entities declared _ rfl root).1.mpr ⟨_, rfl, hposts⟩⟩

end Schema

end RecordSelection
