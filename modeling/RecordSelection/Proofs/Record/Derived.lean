import RecordSelection.Proofs.Selection.Walk
import RecordSelection.Record.Declaration
import RecordSelection.Selection.Basic

/-!
# What a declared structure asks for

The options of a field count together, over all of its attributes and in any order: a mark holds if
it is there at all, and of several texts the last one holds. A structure with at most one field
marked as the one that is expanded asks for all fields without a mark, each under its own name, and
for the relations of the type inside the wrappers of the marked one.
-/

set_option autoImplicit false

namespace RecordSelection

/-! ## Types inside wrappers -/

namespace TypeExpr

/-- A type with wrappers, each left by its first argument, and the type inside them all. -/
inductive Unwraps : TypeExpr → TypeExpr → Prop where
  | wrapper {scope name opening : String} {inner t : TypeExpr} {rest : List TypeArgument}
      {trailing : Bool} (known : name ∈ ["Option", "Vec", "Box"]) (unwraps : Unwraps inner t) :
      Unwraps (.applied scope name opening (.type inner :: rest) trailing) t
  | bare {t : TypeExpr} (unwrapped : ∀ scope name opening inner rest trailing,
      name ∈ ["Option", "Vec", "Box"] →
        t ≠ .applied scope name opening (.type inner :: rest) trailing) : Unwraps t t

theorem isWrapper_iff (name : String) :
    isWrapper name = true ↔ name ∈ ["Option", "Vec", "Box"] := by
  simp [isWrapper, or_assoc]

theorem Unwraps.unwrap_eq {t u : TypeExpr} (h : Unwraps t u) : t.unwrap = u := by
  induction h with
  | wrapper known unwraps ih =>
    rw [unwrap, if_pos ((isWrapper_iff _).mpr known), ih]
  | @bare t unwrapped =>
    unfold unwrap
    split
    · rename_i scope name opening inner rest trailing
      have hname : ¬isWrapper name = true := fun hknown =>
        unwrapped _ _ _ _ _ _ ((isWrapper_iff name).mp hknown) rfl
      rw [if_neg hname]
    · rfl

theorem unwraps_unwrap (t : TypeExpr) : Unwraps t t.unwrap := by
  induction t using unwrap.induct with
  | case1 scope name opening inner rest trailing hknown ih =>
    rw [unwrap, if_pos hknown]
    exact .wrapper ((isWrapper_iff name).mp hknown) ih
  | case2 scope name opening inner rest trailing hunknown =>
    rw [unwrap, if_neg hunknown]
    refine .bare fun _ _ _ _ _ _ hname h => hunknown ((isWrapper_iff name).mpr ?_)
    cases h
    exact hname
  | case3 t hbare =>
    have hsame : t.unwrap = t := by
      unfold unwrap
      split
      · exact absurd rfl (hbare _ _ _ _ _ _)
      · rfl
    rw [hsame]
    exact .bare fun _ _ _ _ _ _ _ h => hbare _ _ _ _ _ _ h

theorem unwraps_iff (t u : TypeExpr) : Unwraps t u ↔ t.unwrap = u :=
  ⟨Unwraps.unwrap_eq, fun h => h ▸ unwraps_unwrap t⟩

end TypeExpr

/-! ## Options -/

namespace Declaration

def isKnown (named alone : List String) (o : DeclaredOption) : Bool :=
  match o.value with
  | some (.text _) => named.contains o.name
  | some .other => false
  | none => alone.contains o.name

def text? (name : String) (o : DeclaredOption) : Option String :=
  if o.name = name then
    match o.value with
    | some (.text text) => some text
    | _ => none
  else none

def lastText? (name : String) (options : List DeclaredOption) : Option String :=
  (options.filterMap (text? name)).getLast?

def marks (name : String) (options : List DeclaredOption) : Bool := options.any (·.name == name)

theorem lastText?_cons_or (name : String) (o : DeclaredOption) (options : List DeclaredOption)
    (before : Option String) :
    (lastText? name (o :: options)).or before =
      (lastText? name options).or ((text? name o).or before) := by
  unfold lastText?
  cases htext : text? name o with
  | none => rw [List.filterMap_cons_none htext, Option.none_or]
  | some text =>
    rw [List.filterMap_cons_some htext, List.getLast?_cons]
    cases (options.filterMap (text? name)).getLast? <;> rfl

theorem fieldOption_of_known (before : FieldOptions) (o : DeclaredOption)
    (h : isKnown ["rename"] ["expand", "skip"] o = true) :
    fieldOption before o = .ok {
      rename := (text? "rename" o).or before.rename
      expand := before.expand || o.name == "expand"
      skip := before.skip || o.name == "skip" } := by
  obtain ⟨name, value⟩ := o
  match value with
  | some (.text text) =>
    obtain rfl : name = "rename" := by simpa [isKnown] using h
    simp [fieldOption, textOf, text?, pure, Except.pure, bind, Except.bind]
  | some .other => exact absurd h nofun
  | none =>
    obtain rfl | rfl : name = "expand" ∨ name = "skip" := by simpa [isKnown] using h
    all_goals simp [fieldOption, alone, text?, pure, Except.pure, bind, Except.bind]

theorem foldlM_fieldOption (options : List DeclaredOption) (before : FieldOptions)
    (h : ∀ o ∈ options, isKnown ["rename"] ["expand", "skip"] o = true) :
    options.foldlM fieldOption before = .ok {
      rename := (lastText? "rename" options).or before.rename
      expand := before.expand || marks "expand" options
      skip := before.skip || marks "skip" options } := by
  induction options generalizing before with
  | nil => simp [lastText?, marks, pure, Except.pure]
  | cons o options ih =>
    obtain ⟨ho, hoptions⟩ := List.forall_mem_cons.mp h
    rw [List.foldlM_cons, fieldOption_of_known before o ho]
    simp only [bind, Except.bind, ih _ hoptions, lastText?_cons_or, marks, List.any_cons,
      Bool.or_assoc]

theorem containerOption_of_known (before : ContainerOptions) (o : DeclaredOption)
    (h : isKnown ["collection"] ["all_fields"] o = true) :
    containerOption before o = .ok {
      collection := (text? "collection" o).or before.collection
      allFields := before.allFields || o.name == "all_fields" } := by
  obtain ⟨name, value⟩ := o
  match value with
  | some (.text text) =>
    obtain rfl : name = "collection" := by simpa [isKnown] using h
    simp [containerOption, textOf, text?, pure, Except.pure, bind, Except.bind]
  | some .other => exact absurd h nofun
  | none =>
    obtain rfl : name = "all_fields" := by simpa [isKnown] using h
    simp [containerOption, alone, text?, pure, Except.pure, bind, Except.bind]

theorem foldlM_containerOption (options : List DeclaredOption) (before : ContainerOptions)
    (h : ∀ o ∈ options, isKnown ["collection"] ["all_fields"] o = true) :
    options.foldlM containerOption before = .ok {
      collection := (lastText? "collection" options).or before.collection
      allFields := before.allFields || marks "all_fields" options } := by
  induction options generalizing before with
  | nil => simp [lastText?, marks, pure, Except.pure]
  | cons o options ih =>
    obtain ⟨ho, hoptions⟩ := List.forall_mem_cons.mp h
    rw [List.foldlM_cons, containerOption_of_known before o ho]
    simp only [bind, Except.bind, ih _ hoptions, lastText?_cons_or, marks, List.any_cons,
      Bool.or_assoc]

/-! ## Fields -/

def bareName (name : String) : String :=
  if name.toList.take 2 = ['r', '#'] then String.ofList (name.toList.drop 2) else name

theorem withoutRaw_eq (name : String) : withoutRaw name = bareName name := by
  unfold withoutRaw bareName
  rcases name.toList with - | ⟨first, - | ⟨second, rest⟩⟩
  · rfl
  · simp [Text.dropLead]
  · by_cases hfirst : first = 'r'
    · by_cases hsecond : second = '#'
      · simp [Text.dropLead, hfirst, hsecond]
      · simp [Text.dropLead, hfirst, hsecond, Ne.symm hsecond]
    · simp [Text.dropLead, hfirst, Ne.symm hfirst]

end Declaration

namespace DeclaredField

open Declaration

def options (field : DeclaredField) : List DeclaredOption := field.attributes.flatten

def expands (field : DeclaredField) : Bool := marks "expand" field.options

def asked (field : DeclaredField) : Bool :=
  !marks "expand" field.options && !marks "skip" field.options

/-- The last name given to a field, or else its own. -/
def requestName (field : DeclaredField) : String :=
  (lastText? "rename" field.options).getD (bareName field.name)

end DeclaredField

namespace Declaration

def WellMarked (field : DeclaredField) : Prop :=
  ∀ o ∈ field.options, isKnown ["rename"] ["expand", "skip"] o = true

def together (field : DeclaredField) : FieldOptions where
  rename := lastText? "rename" field.options
  expand := marks "expand" field.options
  skip := marks "skip" field.options

theorem fieldOptions_eq (field : DeclaredField) (h : WellMarked field) :
    fieldOptions field.attributes = .ok (together field) := by
  have hfold := foldlM_fieldOption field.options {} h
  simp only [Option.or_none, Bool.false_or] at hfold
  exact hfold

theorem wireName_together (field : DeclaredField) :
    wireName field (together field) = field.requestName := by
  rw [wireName, withoutRaw_eq]
  rfl

theorem projection_eq (fields : List DeclaredField) (before : Option TypeExpr)
    (h : ∀ field ∈ fields, WellMarked field) :
    projection before fields =
      let types := before.toList ++ (fields.filter (·.expands)).map (·.type.unwrap)
      if types.length ≤ 1 then .ok ((fields.filter (·.asked)).map (·.requestName), types.head?)
      else .error .secondExpand := by
  induction fields generalizing before with
  | nil => cases before <;> rfl
  | cons field fields ih =>
    obtain ⟨hfield, hfields⟩ := List.forall_mem_cons.mp h
    rw [projection, fieldOptions_eq field hfield]
    simp only [bind, Except.bind, wireName_together]
    cases hexpand : marks "expand" field.options with
    | true =>
      have hexpands : field.expands = true := hexpand
      have hasked : ¬field.asked = true := by simp [DeclaredField.asked, hexpand]
      rw [if_pos (show (together field).expand = true from hexpand),
        List.filter_cons_of_pos hexpands, List.filter_cons_of_neg hasked]
      cases before with
      | none => exact ih (some field.type.unwrap) hfields
      | some type => simp
    | false =>
      have hexpands : ¬field.expands = true := by simp [DeclaredField.expands, hexpand]
      have hasked : (if (together field).skip then (fields.filter (·.asked)).map (·.requestName)
          else field.requestName :: (fields.filter (·.asked)).map (·.requestName)) =
          ((field :: fields).filter (·.asked)).map (·.requestName) := by
        cases hskip : marks "skip" field.options <;>
          simp [DeclaredField.asked, together, hexpand, hskip]
      rw [if_neg (show ¬(together field).expand = true by simp [together, hexpand]),
        ih before hfields, List.filter_cons_of_neg hexpands, ← hasked]
      dsimp only
      split_ifs <;> rfl

end Declaration

/-! ## Records -/

def DerivedRecord.relations (r : DerivedRecord) (children : TypeExpr → List Selection) :
    List Selection :=
  match r.expand with
  | some type => children type
  | none => []

namespace Declaration

/-- A structure with named fields whose options are all known. -/
structure WellFormed (d : Declaration) : Prop where
  form : d.form = .named
  options : ∀ o ∈ d.attributes.flatten, isKnown ["collection"] ["all_fields"] o = true
  fields : ∀ field ∈ d.fields, WellMarked field

theorem deriveRecord_eq (d : Declaration) (h : WellFormed d) :
    d.deriveRecord =
      if (d.fields.filter (·.expands)).length ≤ 1 then .ok {
        collection := (lastText? "collection" d.attributes.flatten).getD (Text.snakeCase d.name)
        fields := if marks "all_fields" d.attributes.flatten then none
          else some ((d.fields.filter (·.asked)).map (·.requestName))
        expand := ((d.fields.filter (·.expands)).head?).map (·.type.unwrap) }
      else .error .secondExpand := by
  have hoptions := foldlM_containerOption d.attributes.flatten {} h.options
  simp only [Option.or_none, Bool.false_or] at hoptions
  rw [deriveRecord, containerOptions, hoptions, h.form, projection_eq d.fields none h.fields]
  simp only [bind, Except.bind, checkForm, Option.toList_none, List.nil_append, List.length_map,
    List.head?_map]
  split_ifs <;> rfl

theorem deriveRecord_ok_iff (d : Declaration) (h : WellFormed d) :
    (∃ r, d.deriveRecord = .ok r) ↔ (d.fields.filter (·.expands)).length ≤ 1 := by
  rw [deriveRecord_eq d h]
  by_cases hone : (d.fields.filter (·.expands)).length ≤ 1
  · rw [if_pos hone]
    exact ⟨fun _ => hone, fun _ => ⟨_, rfl⟩⟩
  · rw [if_neg hone]
    exact ⟨fun ⟨_, hr⟩ => absurd hr nofun, fun hmost => absurd hmost hone⟩

theorem head?_filter_expands (d : Declaration) (hone : (d.fields.filter (·.expands)).length ≤ 1)
    (field : DeclaredField) (hfield : field ∈ d.fields) (hexpands : field.expands = true) :
    (d.fields.filter (·.expands)).head? = some field := by
  have hmem : field ∈ d.fields.filter (·.expands) := List.mem_filter.mpr ⟨hfield, hexpands⟩
  have hlength : (d.fields.filter (·.expands)).length = 1 :=
    Nat.le_antisymm hone (List.length_pos_of_mem hmem)
  obtain ⟨only, honly⟩ := List.length_eq_one_iff.mp hlength
  rw [honly] at hmem ⊢
  rw [List.mem_singleton.mp hmem, List.head?_cons]

/-- The record of a structure mirrors it: there is one exactly when at most one field is marked to be
expanded. It asks for all fields if the structure says so, and else for those without a mark, in
order, each under the last name given to it or its own; and it expands the relations of the type
inside the wrappers of the marked field, or none. -/
theorem record_mirrors_structure (d : Declaration) (h : WellFormed d) :
    ((∃ r, d.deriveRecord = .ok r) ↔ (d.fields.filter (·.expands)).length ≤ 1) ∧
    ∀ r, d.deriveRecord = .ok r →
      (r.fields = if marks "all_fields" d.attributes.flatten then none
        else some ((d.fields.filter (·.asked)).map (·.requestName))) ∧
      ∀ children : TypeExpr → List Selection,
        (∀ field ∈ d.fields, field.expands = true →
          ∃ type, field.type.Unwraps type ∧ r.relations children = children type) ∧
        ((∀ field ∈ d.fields, field.expands = false) → r.relations children = []) := by
  refine ⟨deriveRecord_ok_iff d h, fun r hr => ?_⟩
  have hone := (deriveRecord_ok_iff d h).mp ⟨r, hr⟩
  rw [deriveRecord_eq d h, if_pos hone] at hr
  obtain rfl := Except.ok.inj hr
  refine ⟨rfl, fun children => ⟨fun field hfield hexpands => ?_, fun hnone => ?_⟩⟩
  · refine ⟨field.type.unwrap, (TypeExpr.unwraps_iff _ _).mpr rfl, ?_⟩
    rw [DerivedRecord.relations, head?_filter_expands d hone field hfield hexpands]
    rfl
  · have hempty : d.fields.filter (·.expands) = [] :=
      List.filter_eq_nil_iff.mpr fun field hfield => by simp [hnone field hfield]
    rw [DerivedRecord.relations, hempty]
    rfl

/-- A name is given twice, a raw one loses its mark, and the field that is expanded is not asked for
under any name. -/
theorem record_mirrors_post :
    let typeName (name : String) : TypeExpr := .other name
    let inside (wrapper : String) (inner : TypeExpr) : TypeExpr :=
      .applied "" wrapper "<" [.type inner] false
    let text (name value : String) : DeclaredOption := ⟨name, some (.text value)⟩
    let mark (name : String) : DeclaredOption := ⟨name, none⟩
    let d : Declaration :=
      { name := "Post"
        attributes := [[text "collection" "posts"]]
        fields :=
          [⟨"id", typeName "String", []⟩, ⟨"r#type", typeName "String", []⟩,
           ⟨"created_at", typeName "String", [[text "rename" "at"], [text "rename" "created"]]⟩,
           ⟨"local", typeName "bool", [[mark "skip"]]⟩,
           ⟨"expand", inside "Option" (inside "Box" (typeName "PostExpand")),
            [[mark "skip"], [text "rename" "all", mark "expand"]]⟩] }
    d.WellFormed ∧ ∃ r, d.deriveRecord = .ok r ∧ r.fields = some ["id", "type", "created"] ∧
      ∀ children, r.relations children = children (typeName "PostExpand") := by
  intro typeName inside text mark d
  have hwell : d.WellFormed := by
    refine ⟨rfl, List.all_eq_true.mp rfl, ?_⟩
    intro field hfield
    have hmarked : d.fields.all fun field =>
        field.options.all (isKnown ["rename"] ["expand", "skip"]) := rfl
    exact List.all_eq_true.mp (List.all_eq_true.mp hmarked field hfield)
  have hone : (d.fields.filter (·.expands)).length ≤ 1 := Nat.le_of_eq rfl
  obtain ⟨hderives, hmirrors⟩ := record_mirrors_structure d hwell
  obtain ⟨r, hr⟩ := hderives.mpr hone
  obtain ⟨hfields, hchildren⟩ := hmirrors r hr
  have hasked : (if marks "all_fields" d.attributes.flatten then none
      else some ((d.fields.filter (·.asked)).map (·.requestName))) =
        some ["id", "type", "created"] := by
    simp only [d, typeName, inside, text, mark]
    decide +kernel
  refine ⟨hwell, r, hr, hfields.trans hasked, fun children => ?_⟩
  obtain ⟨type, hunwraps, htype⟩ := (hchildren children).1 _
    (.tail _ (.tail _ (.tail _ (.tail _ (.head _))))) rfl
  rw [htype, ← hunwraps.unwrap_eq]
  rfl

end Declaration

end RecordSelection
