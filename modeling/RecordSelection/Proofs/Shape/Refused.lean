import Mathlib.Data.List.Sort
import RecordSelection.Proofs.Schema.Index
import RecordSelection.Proofs.Shape.Checked

/-!
# Selections that are refused

Everything that is wrong with a selection is listed from the declarations: at a node first what is
wrong with the children and below them, in order, then with the list of fields, then with children
that share a relation. A selection that is refused is refused for the first entry of the list.
-/

set_option autoImplicit false

namespace RecordSelection

instance (declared : Dictionary RelationDeclaration) (entity key : String) :
    Decidable (ReachedBack declared entity key) :=
  decidable_of_iff _ (RelationIndex.isBackFrom_declare declared entity key ⟨"", false⟩)

instance (declared : Dictionary RelationDeclaration) (entity : String) (fields : Entity)
    (key : String) : Decidable (Leaves declared entity fields key) :=
  inferInstanceAs (Decidable (_ ∧ _))

def SchemaFault.Concerns (entity : String) (n : Selection) : SchemaFault → Prop
  | .unknownField e field | .repeatedField e field => e = entity ∧ field ∈ n.fields.getD []
  | .noRelation e key _ | .ambiguousRelation e key | .repeatedRelation e key =>
    e = entity ∧ key ∈ n.expand.map (·.key)
  | .unknownEntity _ | .unknownTarget _ _ | .unreadable _ => False

namespace Schema

section Faults

variable (entities : Dictionary Entity) (declared : Dictionary RelationDeclaration)

def usableKeys (entity : String) (known : Entity) : List String :=
  declared.keys.filter fun key => Leaves declared entity known key

def relationFault (entity : String) (known : Entity) (key : String) : Option SchemaFault :=
  if ¬Leaves declared entity known key then
    some (.noRelation entity key (usableKeys declared entity known))
  else if known.contains key = true ∧ ReachedBack declared entity key then
    some (.ambiguousRelation entity key)
  else none

def fieldFault (entity : String) (known : Entity) (before : List String) (name : String) :
    Option SchemaFault :=
  if name ∈ before then some (.repeatedField entity name)
  else if known.contains name = true then none
  else some (.unknownField entity name)

def siblingFault (entity : String) (before : List String) (key : String) : Option SchemaFault :=
  if key ∈ before then some (.repeatedRelation entity key) else none

def faultsAlong (fault : List String → String → Option SchemaFault) (before : List String) :
    List String → List SchemaFault
  | [] => []
  | text :: rest => (fault before text).toList ++ faultsAlong fault (text :: before) rest

def destination? (key : String) : Option (String × Entity) := do
  let d ← declared.get? key
  let known ← entities.get? d.target
  return (d.target, known)

mutual

/-- What is wrong with a selection made from an entity, in the order in which it is found. -/
def faults (entity : String) (known : Entity) : Selection → List SchemaFault
  | ⟨_, fields, expand, _, _, _⟩ =>
    faultsBelow entity known expand ++
      (faultsAlong (fieldFault entity known) [] (fields.getD []) ++
        faultsAlong (siblingFault entity) [] (expand.map (·.key)))

def faultsBelow (entity : String) (known : Entity) : List Selection → List SchemaFault
  | [] => []
  | child :: rest =>
    (match relationFault declared entity known child.key,
        destination? entities declared child.key with
      | some fault, _ => [fault]
      | none, some (target, fields) => faults target fields child
      | none, none => []) ++ faultsBelow entity known rest

end

theorem faults_eq (entity : String) (known : Entity) (s : Selection) :
    faults entities declared entity known s =
      faultsBelow entities declared entity known s.expand ++
        (faultsAlong (fieldFault entity known) [] (s.fields.getD []) ++
          faultsAlong (siblingFault entity) [] (s.expand.map (·.key))) := by
  cases s
  rw [faults]

def rootFaults (root : Selection) : List SchemaFault :=
  match entities.get? root.key with
  | none => [.unknownEntity root.key]
  | some known => faults entities declared root.key known root

def entityAt (entity : String) : List String → Option String
  | [] => some entity
  | key :: chain => do
    let d ← declared.get? key
    entityAt d.target chain

end Faults

/-- The result is there when nothing is wrong, and otherwise is the first of the faults. -/
def StopsAtFirst {α : Type} (r : Except SchemaFault α) (faults : List SchemaFault) : Prop :=
  match r with
  | .ok _ => faults = []
  | .error fault => faults.head? = some fault

theorem StopsAtFirst.bind {α β : Type} {r : Except SchemaFault α}
    {next : α → Except SchemaFault β} {first rest : List SchemaFault}
    (hr : StopsAtFirst r first)
    (hnext : ∀ a, r = .ok a → StopsAtFirst (next a) rest) :
    StopsAtFirst (r >>= next) (first ++ rest) := by
  cases r with
  | ok a =>
    obtain rfl : first = [] := hr
    exact hnext a rfl
  | error fault =>
    obtain ⟨others, rfl⟩ := List.head?_eq_some_iff.mp hr
    rfl

theorem StopsAtFirst.map {α β : Type} {r : Except SchemaFault α} {faults : List SchemaFault}
    (f : α → β) (hr : StopsAtFirst r faults) :
    StopsAtFirst (do let a ← r; return f a) faults := by
  cases r with
  | ok a => exact hr
  | error fault => exact hr

theorem StopsAtFirst.error_iff {α : Type} {r : Except SchemaFault α} {faults : List SchemaFault}
    (hr : StopsAtFirst r faults) (fault : SchemaFault) :
    r = .error fault ↔ faults.head? = some fault := by
  cases r with
  | ok a =>
    obtain rfl : faults = [] := hr
    simp
  | error other =>
    have hhead : faults.head? = some other := hr
    simp [hhead]

theorem listedFields_stops (t : Target) (before names : List String) :
    StopsAtFirst (listedFields t before names)
      (faultsAlong (fieldFault t.entity t.fields) before names) := by
  induction names generalizing before with
  | nil => rfl
  | cons name rest ih =>
    unfold listedFields faultsAlong fieldFault
    by_cases hbefore : name ∈ before
    · simp [hbefore, StopsAtFirst]
    · cases hkind : t.fields.get? name with
      | none =>
        have hunknown : ¬t.fields.contains name = true := by
          simp [Dictionary.contains_iff, hkind]
        simp [hbefore, hunknown, StopsAtFirst]
      | some kind =>
        have hknown : t.fields.contains name = true :=
          (Dictionary.contains_iff t.fields name).mpr ⟨kind, hkind⟩
        simp only [List.contains_eq_mem, hbefore, decide_false, hknown, if_true, if_false,
          Bool.false_eq_true, Option.toList_none, List.nil_append]
        exact (ih (name :: before)).map _

theorem expansions_stops (t : Target) (before : List String)
    (children : List (String × Target × Shape)) :
    StopsAtFirst (expansions t before children)
      (faultsAlong (siblingFault t.entity) before (children.map (·.1))) := by
  induction children generalizing before with
  | nil => rfl
  | cons c rest ih =>
    obtain ⟨key, target, shape⟩ := c
    rw [List.map_cons]
    unfold expansions faultsAlong siblingFault
    by_cases hbefore : key ∈ before
    · simp [hbefore, StopsAtFirst]
    · simp only [List.contains_eq_mem, hbefore, decide_false, if_false, Bool.false_eq_true,
        Option.toList_none, List.nil_append]
      exact (ih (key :: before)).map _

theorem nodeShape_stops (t : Target) (n : Selection) (children : List (String × Target × Shape)) :
    StopsAtFirst (nodeShape t n children)
      (faultsAlong (fieldFault t.entity t.fields) [] (n.fields.getD []) ++
        faultsAlong (siblingFault t.entity) [] (children.map (·.1))) := by
  rw [nodeShape_eq]
  refine StopsAtFirst.bind ?_ fun fields _ => (expansions_stops t [] children).map _
  cases hfields : n.fields with
  | none => rfl
  | some names => exact listedFields_stops t [] names

section Accepted

variable (entities : Dictionary Entity) (declared : Dictionary RelationDeclaration) (s : Schema)
  (h : ofDeclarations entities declared = .ok s)

include h

theorem outgoing_eq_usableKeys (entity : String) (known : Entity)
    (hknown : entities.get? entity = some known) :
    s.relations.outgoing entity = usableKeys declared entity known := by
  have hbuild := (ofDeclarations_ok entities declared s h).2
  have hordered : (usableKeys declared entity known).Pairwise (· < ·) :=
    (List.pairwise_map.mpr declared.ordered).filter _
  refine (KeySets.keysOf_ordered _ entity).eq_of_mem_iff hordered fun key => ?_
  have hdeclared : Leaves declared entity known key → key ∈ declared.keys := fun hleaves =>
    (Dictionary.mem_keys_iff declared key).mpr ((Dictionary.contains_iff declared key).mp hleaves.1)
  have husable : key ∈ usableKeys declared entity known ↔ Leaves declared entity known key := by
    simp only [usableKeys, List.mem_filter, decide_eq_true_eq]
    exact ⟨And.right, fun hleaves => ⟨hdeclared hleaves, hleaves⟩⟩
  rw [husable]
  exact (RelationIndex.mem_of_build entities declared _ hbuild entity known hknown key).2

theorem target_eq (entity : String) (cardinality : Cardinality) :
    s.target entity cardinality =
      match entities.get? entity with
      | some known => .ok ⟨entity, known, cardinality⟩
      | none => .error (.unknownEntity entity) := by
  rw [← (ofDeclarations_ok entities declared s h).1]
  rfl

/-- A relation is refused where it is used. That it leads to an entity of the schema needs no
check at this point. -/
theorem resolveChild_stops (t : Target) (key : String)
    (hknown : entities.get? t.entity = some t.fields) :
    StopsAtFirst (s.resolveChild t key) (relationFault declared t.entity t.fields key).toList := by
  have hbuild := (ofDeclarations_ok entities declared s h).2
  unfold resolveChild relationFault
  rcases RelationIndex.resolve_of_build entities declared _ hbuild t.entity t.fields key with
    ⟨r, hr, hleaves, honce⟩ | ⟨hr, hd, hfield, hback⟩ | ⟨hr, hleaves⟩
  · obtain ⟨d, hd, -, rfl⟩ :=
      (RelationIndex.resolve_ok_iff entities declared _ hbuild ..).mp hr
    obtain ⟨known, hfound⟩ := target_known entities declared s h key d hd
    have htarget : s.target d.target d.cardinality = .ok ⟨d.target, known, d.cardinality⟩ := by
      rw [target_eq entities declared s h, hfound]
    rw [hr, if_neg (not_not.mpr hleaves), if_neg honce]
    exact (congrArg (StopsAtFirst · []) htarget).mpr rfl
  · have hleaves : Leaves declared t.entity t.fields key := ⟨hd, .inl hfield⟩
    rw [hr, if_neg (not_not.mpr hleaves), if_pos ⟨hfield, hback⟩]
    rfl
  · rw [hr, if_pos hleaves, outgoing_eq_usableKeys entities declared s h _ _ hknown]
    rfl

theorem walkAll_stops (base : String) (t : Target) (children : List Selection)
    (hknown : entities.get? t.entity = some t.fields)
    (hwalks : ∀ c ∈ children, ∀ (base : String) (t : Target),
      entities.get? t.entity = some t.fields →
      StopsAtFirst (Selection.walk s.channel base t c)
        (faults entities declared t.entity t.fields c)) :
    StopsAtFirst (Selection.walkAll s.channel base t children)
      (faultsBelow entities declared t.entity t.fields children) := by
  induction children with
  | nil => rfl
  | cons c rest ih =>
    obtain ⟨hwalk, hrest⟩ := List.forall_mem_cons.mp hwalks
    have hresolve := resolveChild_stops entities declared s h t c.key hknown
    have hchannel : s.channel.resolve t c.key = s.resolveChild t c.key := rfl
    rw [Selection.walkAll, faultsBelow, hchannel]
    cases hinner : s.resolveChild t c.key with
    | error fault =>
      rw [hinner] at hresolve
      have hfault : relationFault declared t.entity t.fields c.key = some fault := by
        simpa [StopsAtFirst] using hresolve
      rw [hfault]
      rfl
    | ok inner =>
      rw [hinner] at hresolve
      have hnone : relationFault declared t.entity t.fields c.key = none := by
        simpa [StopsAtFirst] using hresolve
      obtain ⟨d, known, hd, -, hfound, rfl⟩ :=
        (resolveChild_ok_iff entities declared s h t c.key inner).mp hinner
      have hdestination : destination? entities declared c.key = some (d.target, known) := by
        simp [destination?, hd, hfound]
      rw [hnone, hdestination]
      have hchild := hwalk (Selection.childBase base c.key) ⟨d.target, known, d.cardinality⟩
        hfound
      exact hchild.bind fun walked _ => (ih hrest).map _

theorem walk_stops (base : String) (t : Target) (n : Selection)
    (hknown : entities.get? t.entity = some t.fields) :
    StopsAtFirst (Selection.walk s.channel base t n)
      (faults entities declared t.entity t.fields n) := by
  induction n using Selection.induct generalizing base t with
  | node n ih =>
    have hbelow := walkAll_stops entities declared s h base t n.expand hknown
      fun c hc base t hknown => ih c hc base t hknown
    rw [faults_eq]
    obtain ⟨key, fields, expand, sort, filter, requestKey⟩ := n
    rw [Selection.walk]
    refine hbelow.bind fun ws hws => StopsAtFirst.map _ ?_
    have hkeys := Selection.seen_keys s.channel base t expand ws
      ((Selection.walkAll_ok_iff s.channel base t expand ws).mp hws)
    rw [← hkeys]
    exact nodeShape_stops t _ (Selection.seen ws)

theorem compile_stops (root : Selection) :
    StopsAtFirst (s.compile root) (rootFaults entities declared root) := by
  unfold compile rootFaults
  rw [target_eq entities declared s h]
  cases hknown : entities.get? root.key with
  | none => rfl
  | some known =>
    exact (walk_stops entities declared s h "" ⟨root.key, known, .one⟩ root hknown).map _

end Accepted

theorem relationFault_concerns (declared : Dictionary RelationDeclaration) (entity : String)
    (known : Entity) (n : Selection) (key : String) (f : SchemaFault)
    (hf : relationFault declared entity known key = some f) (hkey : key ∈ n.expand.map (·.key)) :
    f.Concerns entity n := by
  unfold relationFault at hf
  split at hf
  · obtain rfl := Option.some.inj hf
    exact ⟨rfl, hkey⟩
  · split at hf
    · obtain rfl := Option.some.inj hf
      exact ⟨rfl, hkey⟩
    · simp at hf

theorem fieldFault_concerns (entity : String) (known : Entity) (n : Selection)
    (before : List String) (name : String) (f : SchemaFault)
    (hf : fieldFault entity known before name = some f) (hname : name ∈ n.fields.getD []) :
    f.Concerns entity n := by
  unfold fieldFault at hf
  split at hf
  · obtain rfl := Option.some.inj hf
    exact ⟨rfl, hname⟩
  · split at hf
    · simp at hf
    · obtain rfl := Option.some.inj hf
      exact ⟨rfl, hname⟩

theorem siblingFault_concerns (entity : String) (n : Selection) (before : List String)
    (key : String) (f : SchemaFault) (hf : siblingFault entity before key = some f)
    (hkey : key ∈ n.expand.map (·.key)) : f.Concerns entity n := by
  unfold siblingFault at hf
  split at hf
  · obtain rfl := Option.some.inj hf
    exact ⟨rfl, hkey⟩
  · simp at hf

theorem mem_faultsAlong (fault : List String → String → Option SchemaFault)
    (before texts : List String) (f : SchemaFault) (hf : f ∈ faultsAlong fault before texts) :
    ∃ earlier, ∃ text ∈ texts, fault earlier text = some f := by
  induction texts generalizing before with
  | nil => simp [faultsAlong] at hf
  | cons text rest ih =>
    rcases List.mem_append.mp hf with hf | hf
    · exact ⟨before, text, List.mem_cons_self, Option.mem_toList.mp hf⟩
    · obtain ⟨earlier, other, hother, hfault⟩ := ih _ hf
      exact ⟨earlier, other, List.mem_cons_of_mem text hother, hfault⟩

section Places

variable (entities : Dictionary Entity) (declared : Dictionary RelationDeclaration)

theorem mem_faultsBelow (entity : String) (known : Entity) (children : List Selection)
    (f : SchemaFault) (hf : f ∈ faultsBelow entities declared entity known children) :
    ∃ c ∈ children, relationFault declared entity known c.key = some f ∨
      ∃ target fields, destination? entities declared c.key = some (target, fields) ∧
        f ∈ faults entities declared target fields c := by
  induction children with
  | nil => simp [faultsBelow] at hf
  | cons c rest ih =>
    rw [faultsBelow] at hf
    rcases List.mem_append.mp hf with hf | hf
    · refine ⟨c, List.mem_cons_self, ?_⟩
      split at hf
      case h_1 fault _ hfault =>
        rw [List.mem_singleton.mp hf]
        exact .inl hfault
      case h_2 target fields _ hdestination =>
        exact .inr ⟨target, fields, hdestination, hf⟩
      case h_3 => simp at hf
    · obtain ⟨child, hchild, hplace⟩ := ih hf
      exact ⟨child, List.mem_cons_of_mem c hchild, hplace⟩

theorem exists_place_of_fault (entity : String) (known : Entity) (s : Selection) (f : SchemaFault)
    (hf : f ∈ faults entities declared entity known s) :
    ∃ chain n e, s.Reaches chain n ∧ entityAt declared entity chain = some e ∧ f.Concerns e n := by
  induction s using Selection.induct generalizing entity known with
  | node s ih =>
    have hhere : f.Concerns entity s →
        ∃ chain n e, s.Reaches chain n ∧ entityAt declared entity chain = some e ∧
          f.Concerns e n := fun hconcerns => ⟨[], s, entity, .here s, rfl, hconcerns⟩
    rw [faults_eq] at hf
    rcases List.mem_append.mp hf with hf | hf
    · obtain ⟨c, hc, hfault | ⟨target, fields, hdestination, hbelow⟩⟩ :=
        mem_faultsBelow entities declared entity known s.expand f hf
      · exact hhere (relationFault_concerns declared entity known s c.key f hfault
          (List.mem_map_of_mem hc))
      · obtain ⟨chain, n, e, hreach, hentity, hconcerns⟩ := ih c hc target fields hbelow
        refine ⟨c.key :: chain, n, e, .step hc hreach, ?_, hconcerns⟩
        simp only [destination?, Option.bind_eq_bind, Option.bind_eq_some_iff, Option.pure_def,
          Option.some.injEq, Prod.mk.injEq] at hdestination
        obtain ⟨d, hd, -, -, rfl, -⟩ := hdestination
        rw [entityAt, hd]
        exact hentity
    · refine hhere ?_
      rcases List.mem_append.mp hf with hf | hf
      · obtain ⟨before, name, hname, hfault⟩ := mem_faultsAlong _ _ _ f hf
        exact fieldFault_concerns entity known s before name f hfault hname
      · obtain ⟨before, key, hkey, hfault⟩ := mem_faultsAlong _ _ _ f hf
        exact siblingFault_concerns entity s before key f hfault hkey

/-- A selection is refused for the first of its faults: for an unknown entity only when its root
names none, and otherwise at one of its nodes, where the entity reached is named. -/
theorem compile_error_iff_first (s : Schema) (h : ofDeclarations entities declared = .ok s)
    (root : Selection) :
    (∀ f, s.compile root = .error f ↔ (rootFaults entities declared root).head? = some f) ∧
    (∀ name, s.compile root = .error (.unknownEntity name) ↔
      entities.get? root.key = none ∧ name = root.key) ∧
    ∀ known f, entities.get? root.key = some known → s.compile root = .error f →
      ∃ chain n e, root.Reaches chain n ∧ entityAt declared root.key chain = some e ∧
        f.Concerns e n := by
  have hfirst := (compile_stops entities declared s h root).error_iff
  have hplace : ∀ known f, entities.get? root.key = some known → s.compile root = .error f →
      ∃ chain n e, root.Reaches chain n ∧ entityAt declared root.key chain = some e ∧
        f.Concerns e n := by
    intro known f hknown hf
    have hhead := (hfirst f).mp hf
    rw [rootFaults, hknown] at hhead
    exact exists_place_of_fault entities declared root.key known root f
      (List.mem_of_mem_head? hhead)
  refine ⟨hfirst, fun name => ?_, hplace⟩
  cases hknown : entities.get? root.key with
  | none => simp [hfirst, rootFaults, hknown, eq_comm]
  | some known =>
    simp only [reduceCtorEq, false_and, iff_false]
    intro hf
    obtain ⟨_, _, _, -, -, hconcerns⟩ := hplace known _ hknown hf
    exact hconcerns

/-- A field unknown below a back-relation is found before the field that the root lists twice, and
before a later child that resolves to nothing. -/
theorem compile_error_of_comments :
    let entities := Dictionary.ofList
      [("posts", Dictionary.ofList [("title", FieldKind.text)]),
       ("comments", Dictionary.ofList [("post", FieldKind.relation), ("text", FieldKind.text)])]
    let declared := Dictionary.ofList
      [("post", ⟨"posts", false⟩), ("comments(post)", ⟨"comments", true⟩)]
    let comments : Selection :=
      { key := "comments(post)", fields := some ["text", "title"],
        expand := [{ key := "post", fields := some ["title"] }] }
    let root : Selection :=
      { key := "posts", fields := some ["title", "title"], expand := [comments, { key := "post" }] }
    ∃ s, ofDeclarations entities declared = .ok s ∧
      s.compile root = .error (.unknownField "comments" "title") := by
  intro entities declared comments root
  exact ⟨_, rfl, ((compile_error_iff_first entities declared _ rfl root).1 _).mpr (by decide)⟩

end Places

end Schema

end RecordSelection
