import RecordSelection.Proofs.Text.Parts
import RecordSelection.Proofs.Text.Quoted
import RecordSelection.Shape.Render

/-!
# Rendered types are unambiguous

A rendered shape is the text of an outline: the name of a kind, a block of members, or an array.
The text of an outline tells the outline and where it ends, since a name ends with the first sign
that no name has and a quoted name with its quote. So two shapes rendered alike have the same
fields and the same relations at every level.
-/

set_option autoImplicit false

namespace RecordSelection.Shape

open RecordSelection.Text (Stops)

/-! ## Outlines -/

inductive Outline where
  | kind (kind : FieldKind)
  | block (members : List (String × Outline))
  | array (item : Outline)

namespace Outline

theorem induct {P : Outline → Prop} (kind : ∀ k, P (.kind k))
    (block : ∀ members, (∀ m ∈ members, P m.2) → P (.block members))
    (array : ∀ item, P item → P (.array item)) (o : Outline) : P o :=
  @Outline.rec P (fun members => ∀ m ∈ members, P m.2) (fun m => P m.2) kind block array
    (by simp) (fun _ _ first rest => List.forall_mem_cons.mpr ⟨first, rest⟩)
    (fun _ _ value => value) o

mutual

def text : Outline → String
  | .kind k => k.name
  | .block members => braced (memberTexts members)
  | .array item => "Array<" ++ text item ++ ">"

def memberTexts : List (String × Outline) → List String
  | [] => []
  | (key, value) :: rest => (renderKey key ++ ": " ++ text value) :: memberTexts rest

end

def memberChars (m : String × Outline) : List Char :=
  (renderKey m.1).toList ++ ':' :: ' ' :: m.2.text.toList

theorem memberText_eq (m : String × Outline) :
    renderKey m.1 ++ ": " ++ text m.2 = String.ofList (memberChars m) := by
  apply String.toList_inj.mp
  simp [memberChars]

theorem memberTexts_eq (members : List (String × Outline)) :
    memberTexts members = members.map fun m => String.ofList (memberChars m) := by
  induction members with
  | nil => rfl
  | cons m rest ih => rw [memberTexts, ih, memberText_eq, List.map_cons]

def furtherChars (members : List (String × Outline)) : List Char :=
  members.flatMap fun m => ';' :: ' ' :: memberChars m

theorem toList_block_cons (m : String × Outline) (rest : List (String × Outline)) :
    (text (.block (m :: rest))).toList =
      '\x7b' :: ' ' :: (memberChars m ++ (furtherChars rest ++ [' ', '\x7d'])) := by
  rw [text, memberTexts_eq, List.map_cons, braced, if_neg (by simp)]
  simp only [String.toList_append, Text.toList_intercalate_cons, String.toList_ofList,
    List.flatMap_map, List.append_assoc]
  rfl

theorem toList_array (item : Outline) :
    (text (.array item)).toList = "Array<".toList ++ (text item).toList ++ ['>'] := by
  simp only [text, String.toList_append]
  rfl

/-! ## Where a text ends -/

theorem plain_ne_quoted (a : List Char) (s : String) (x y : List Char)
    (ha : ∀ c ∈ a, isPlain c = true) : a ++ ':' :: x ≠ (Text.quoted s).toList ++ y := by
  rw [Text.toList_quoted]
  cases a with
  | nil => exact fun h => absurd (List.cons.inj h).1 (by decide)
  | cons c a =>
    intro h
    have hc := ha c (by simp)
    rw [(List.cons.inj h).1] at hc
    exact absurd hc (by decide)

theorem renderKey_inj (k l : String) (x y : List Char)
    (h : (renderKey k).toList ++ ':' :: x = (renderKey l).toList ++ ':' :: y) :
    k = l ∧ x = y := by
  have hcolon : ∀ s, Stops isPlain (':' :: s) :=
    fun s => (Text.stops_cons isPlain ':' s).mpr (by decide)
  unfold renderKey at h
  split at h
  case isTrue hk =>
    rw [List.all_eq_true] at hk
    split at h
    case isTrue hl =>
      rw [List.all_eq_true] at hl
      obtain ⟨hkl, hrest⟩ := Text.run_inj isPlain _ _ hk (hcolon x) _ _ hl (hcolon y) h
      exact ⟨String.toList_inj.mp hkl, (List.cons.inj hrest).2⟩
    case isFalse => exact absurd h (plain_ne_quoted _ l x _ hk)
  case isFalse =>
    split at h
    case isTrue hl =>
      rw [List.all_eq_true] at hl
      exact absurd h.symm (plain_ne_quoted _ k y _ hl)
    case isFalse =>
      obtain ⟨hkl, hrest⟩ := Text.quoted_inj k l _ _ h
      exact ⟨hkl, (List.cons.inj hrest).2⟩

theorem isPlain_kindName (kind : FieldKind) : ∀ c ∈ kind.name.toList, isPlain c = true := by
  have hall : kind.name.toList.all isPlain = true := by cases kind <;> decide +kernel
  exact List.all_eq_true.mp hall

theorem kindName_inj (a b : FieldKind) (h : a.name.toList = b.name.toList) : a = b := by
  revert h
  cases a <;> cases b <;> decide

def sign : Outline → Option Char
  | .kind _ => none
  | .block _ => some '\x7b'
  | .array _ => some 'A'

def signOf (c : Char) : Option Char := if c = '\x7b' ∨ c = 'A' then some c else none

theorem sign_eq (o : Outline) (x : List Char) :
    (o.text.toList ++ x).head?.bind signOf = o.sign := by
  cases o with
  | kind k => cases k <;> rfl
  | block members =>
    cases members with
    | nil => rfl
    | cons m rest => rw [toList_block_cons]; rfl
  | array item => rw [toList_array]; rfl

theorem sign_congr (o p : Outline) (x y : List Char) (h : o.text.toList ++ x = p.text.toList ++ y) :
    o.sign = p.sign := by
  rw [← sign_eq o x, h, sign_eq]

/-- The outline stands at the beginning of no text but its own, if no name goes on after it. -/
def Ends (o : Outline) : Prop :=
  ∀ (p : Outline) (x y : List Char), Stops isPlain x → Stops isPlain y →
    o.text.toList ++ x = p.text.toList ++ y → o = p ∧ x = y

theorem member_inj (m n : String × Outline) (x y : List Char) (hm : Ends m.2) (hx : Stops isPlain x)
    (hy : Stops isPlain y) (h : memberChars m ++ x = memberChars n ++ y) : m = n ∧ x = y := by
  unfold memberChars at h
  simp only [List.append_assoc, List.cons_append] at h
  obtain ⟨hkey, hrest⟩ := renderKey_inj _ _ _ _ h
  obtain ⟨hvalue, hrest⟩ := hm n.2 x y hx hy (List.cons.inj hrest).2
  exact ⟨Prod.ext hkey hvalue, hrest⟩

theorem stops_further (members : List (String × Outline)) (x : List Char) :
    Stops isPlain (furtherChars members ++ ' ' :: x) := by
  cases members with
  | nil => exact (Text.stops_cons isPlain ' ' x).mpr (by decide)
  | cons m rest => exact (Text.stops_cons isPlain ';' _).mpr (by decide)

theorem further_inj (ms ns : List (String × Outline)) (x y : List Char)
    (hms : ∀ m ∈ ms, Ends m.2)
    (h : furtherChars ms ++ ' ' :: x = furtherChars ns ++ ' ' :: y) : ms = ns ∧ x = y := by
  induction ms generalizing ns with
  | nil =>
    cases ns with
    | nil => exact ⟨rfl, (List.cons.inj h).2⟩
    | cons n ns => exact absurd (List.cons.inj h).1 (by decide)
  | cons m ms ih =>
    cases ns with
    | nil => exact absurd (List.cons.inj h).1 (by decide)
    | cons n ns =>
      simp only [furtherChars, List.flatMap_cons, List.cons_append, List.append_assoc] at h
      have hmember := (List.cons.inj (List.cons.inj h).2).2
      obtain ⟨rfl, hrest⟩ := member_inj m n _ _ (hms m (by simp)) (stops_further ms x)
        (stops_further ns y) hmember
      obtain ⟨rfl, rfl⟩ := ih ns (fun m hm => hms m (by simp [hm])) hrest
      exact ⟨rfl, rfl⟩

theorem block_inj (ms ns : List (String × Outline)) (x y : List Char)
    (hms : ∀ m ∈ ms, Ends m.2)
    (h : (text (.block ms)).toList ++ x = (text (.block ns)).toList ++ y) : ms = ns ∧ x = y := by
  cases ms with
  | nil =>
    cases ns with
    | nil => exact ⟨rfl, List.append_cancel_left h⟩
    | cons n ns =>
      rw [toList_block_cons] at h
      exact absurd (List.cons.inj (List.cons.inj h).2).1 (by decide)
  | cons m ms =>
    cases ns with
    | nil =>
      rw [toList_block_cons] at h
      exact absurd (List.cons.inj (List.cons.inj h).2).1 (by decide)
    | cons n ns =>
      simp only [toList_block_cons, List.cons_append, List.append_assoc, List.nil_append] at h
      have hmembers := (List.cons.inj (List.cons.inj h).2).2
      obtain ⟨rfl, hrest⟩ := member_inj m n _ _ (hms m (by simp)) (stops_further ms _)
        (stops_further ns _) hmembers
      obtain ⟨rfl, hclose⟩ := further_inj ms ns _ _ (fun m hm => hms m (by simp [hm])) hrest
      exact ⟨rfl, (List.cons.inj hclose).2⟩

theorem array_inj (item other : Outline) (x y : List Char) (hitem : Ends item)
    (h : (text (.array item)).toList ++ x = (text (.array other)).toList ++ y) :
    item = other ∧ x = y := by
  have hclose : ∀ s, Stops isPlain ('>' :: s) :=
    fun s => (Text.stops_cons isPlain '>' s).mpr (by decide)
  simp only [toList_array, List.append_assoc] at h
  obtain ⟨rfl, hrest⟩ :=
    hitem other _ _ (hclose x) (hclose y) (List.append_cancel_left h)
  exact ⟨rfl, (List.cons.inj hrest).2⟩

theorem ends (o : Outline) : Ends o := by
  induction o using induct with
  | kind k =>
    intro p x y hx hy h
    cases p with
    | kind l =>
      obtain ⟨hname, hrest⟩ := Text.run_inj isPlain _ x (isPlain_kindName k) hx _ y
        (isPlain_kindName l) hy h
      exact ⟨by rw [kindName_inj k l hname], hrest⟩
    | _ => exact absurd (sign_congr _ _ x y h) nofun
  | block ms ih =>
    intro p x y hx hy h
    cases p with
    | block ns =>
      obtain ⟨rfl, hrest⟩ := block_inj ms ns x y ih h
      exact ⟨rfl, hrest⟩
    | _ => exact absurd (sign_congr _ _ x y h) (by simp [sign])
  | array item ih =>
    intro p x y hx hy h
    cases p with
    | array other =>
      obtain ⟨rfl, hrest⟩ := array_inj item other x y ih h
      exact ⟨rfl, hrest⟩
    | _ => exact absurd (sign_congr _ _ x y h) (by simp [sign])

theorem text_inj (o p : Outline) (h : o.text = p.text) : o = p :=
  (ends o p [] [] nofun nofun (by rw [h])).1

end Outline

/-! ## The outline of a shape -/

mutual

def outline : Shape → Outline
  | ⟨_, _, fields, expand⟩ =>
    .block (fields.map (fun f => (f.name, .kind f.kind)) ++ (match expand with
      | [] => []
      | first :: rest => [("expand", .block (outlines (first :: rest)))]))

def outlines : List (Expanded Shape) → List (String × Outline)
  | [] => []
  | ⟨key, cardinality, shape⟩ :: rest =>
    (key, match cardinality with
      | .one => outline shape
      | .many => .array (outline shape)) :: outlines rest

end

mutual

/-- The shapes have the same fields and the same relations, at every level. -/
def SameType : Shape → Shape → Prop
  | ⟨_, _, fields, expand⟩, ⟨_, _, fields', expand'⟩ =>
    fields = fields' ∧ SameRelations expand expand'

def SameRelations : List (Expanded Shape) → List (Expanded Shape) → Prop
  | [], [] => True
  | ⟨key, cardinality, shape⟩ :: rest, ⟨key', cardinality', shape'⟩ :: rest' =>
    key = key' ∧ cardinality = cardinality' ∧ SameType shape shape' ∧ SameRelations rest rest'
  | _, _ => False

end

def fieldMembers (fields : List ShapeField) : List (String × Outline) :=
  fields.map fun f => (f.name, .kind f.kind)

theorem fieldMembers_cons (f : ShapeField) (fields : List ShapeField) :
    fieldMembers (f :: fields) = (f.name, .kind f.kind) :: fieldMembers fields := rfl

def expandMember (expand : List (Expanded Shape)) : List (String × Outline) :=
  if expand = [] then [] else [("expand", .block (outlines expand))]

theorem outline_eq (s : Shape) :
    s.outline = .block (fieldMembers s.fields ++ expandMember s.expand) := by
  obtain ⟨entity, projected, fields, expand⟩ := s
  cases expand <;> rfl

theorem expandMember_eq_iff (expand expand' : List (Expanded Shape)) :
    expandMember expand = expandMember expand' ↔ outlines expand = outlines expand' := by
  cases expand <;> cases expand' <;> simp [expandMember, outlines]

theorem members_eq_iff (fields fields' : List ShapeField) (expand expand' : List (Expanded Shape)) :
    fieldMembers fields ++ expandMember expand = fieldMembers fields' ++ expandMember expand' ↔
      fields = fields' ∧ outlines expand = outlines expand' := by
  have hfield : ∀ (f : ShapeField) expand rest,
      expandMember expand ≠ (f.name, .kind f.kind) :: rest := by
    intro f expand rest
    unfold expandMember
    split <;> simp
  induction fields generalizing fields' with
  | nil =>
    cases fields' with
    | nil => simpa [fieldMembers] using expandMember_eq_iff expand expand'
    | cons f' fields' => simpa [fieldMembers] using hfield f' expand _
  | cons f fields ih =>
    cases fields' with
    | nil => simpa [fieldMembers] using (hfield f expand' _).symm
    | cons f' fields' =>
      have hhead : (f.name, Outline.kind f.kind) = (f'.name, .kind f'.kind) ↔ f = f' := by
        cases f
        cases f'
        simp
      rw [fieldMembers_cons, fieldMembers_cons, List.cons_append, List.cons_append,
        List.cons.injEq, List.cons.injEq, hhead, and_assoc]
      exact and_congr_right fun _ => ih fields'

mutual

theorem render_eq : ∀ s : Shape, s.render = s.outline.text
  | ⟨entity, projected, fields, expand⟩ => by
    have hfields : fields.map renderField = (fieldMembers fields).map
        fun m => String.ofList (Outline.memberChars m) := by
      rw [fieldMembers, List.map_map]
      apply List.map_congr_left
      intro f _
      exact Outline.memberText_eq (f.name, .kind f.kind)
    have hbelow := renderAll_eq expand
    rw [outline_eq, Outline.text, Outline.memberTexts_eq, List.map_append, ← hfields]
    cases expand with
    | nil => rw [render]; rfl
    | cons first rest =>
      have hexpand : "expand: " ++ braced (Outline.memberTexts (outlines (first :: rest))) =
          String.ofList (Outline.memberChars ("expand", .block (outlines (first :: rest)))) := by
        have hkey : renderKey "expand" ++ ": " = "expand: " := by decide +kernel
        rw [← Outline.memberText_eq, hkey, Outline.text]
      rw [render, hbelow, hexpand]
      rfl

theorem renderAll_eq : ∀ expand : List (Expanded Shape),
    renderAll expand = Outline.memberTexts (outlines expand)
  | [] => rfl
  | ⟨key, cardinality, shape⟩ :: rest => by
    cases cardinality with
    | one => rw [renderAll, outlines, Outline.memberTexts, render_eq shape, renderAll_eq rest]
    | many =>
      rw [renderAll, outlines, Outline.memberTexts, render_eq shape, renderAll_eq rest]
      rfl

end

mutual

theorem outline_eq_iff : ∀ s t : Shape, s.outline = t.outline ↔ SameType s t
  | ⟨_, _, fields, expand⟩, ⟨_, _, fields', expand'⟩ => by
    rw [outline_eq, outline_eq, Outline.block.injEq, members_eq_iff, SameType,
      outlines_eq_iff expand expand']

theorem outlines_eq_iff : ∀ expand expand' : List (Expanded Shape),
    outlines expand = outlines expand' ↔ SameRelations expand expand'
  | [], [] => by simp [SameRelations]
  | [], ⟨key, cardinality, shape⟩ :: rest => by simp [outlines, SameRelations]
  | ⟨key, cardinality, shape⟩ :: rest, [] => by simp [outlines, SameRelations]
  | ⟨key, cardinality, shape⟩ :: rest, ⟨key', cardinality', shape'⟩ :: rest' => by
    have hshape := outline_eq_iff shape shape'
    have hrest := outlines_eq_iff rest rest'
    obtain ⟨members, houtline⟩ : ∃ members, shape.outline = .block members := ⟨_, outline_eq shape⟩
    obtain ⟨members', houtline'⟩ : ∃ members, shape'.outline = .block members :=
      ⟨_, outline_eq shape'⟩
    rw [SameRelations, ← hshape, ← hrest]
    cases cardinality <;> cases cardinality' <;> simp [outlines, houtline, houtline', and_assoc]

end

/-- Two shapes are rendered alike if and only if they have the same fields, names and kinds in
order, and the same relations, keys and cardinalities in order, at every level. -/
theorem render_eq_iff_sameType (s t : Shape) : s.render = t.render ↔ SameType s t := by
  rw [← outline_eq_iff, render_eq, render_eq]
  exact ⟨Outline.text_inj _ _, congrArg Outline.text⟩

example :
    render ⟨"", true, [⟨"expand", .json⟩, ⟨"", .text⟩, ⟨"a; b", .url⟩],
      [⟨"", .many, ⟨"", true, [], []⟩⟩]⟩ =
      "\x7b expand: json; : text; \"a; b\": url; expand: \x7b : Array<\x7b\x7d> \x7d \x7d" := by
  decide +kernel

end RecordSelection.Shape
