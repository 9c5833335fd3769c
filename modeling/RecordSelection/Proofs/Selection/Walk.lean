import Mathlib.Data.List.Forall2
import RecordSelection.Proofs.Selection.Listing
import RecordSelection.Selection.Parameters

/-!
# What a walk yields

A walk that is not refused gives the same paths and the same flag whatever its channel: the
entries of the tree joined with commas, and whether any node lists fields. The channel decides
over the shape only.
-/

set_option autoImplicit false

namespace RecordSelection

theorem bind_eq_ok {α β ε : Type} (x : Except ε α) (f : α → Except ε β) (b : β) :
    (x >>= f) = .ok b ↔ ∃ a, x = .ok a ∧ f a = .ok b := by
  cases x with
  | error e => simp [bind, Except.bind]
  | ok a => simp [bind, Except.bind]

namespace Selection

variable {κ σ ε : Type}

def WalksTo (channel : Channel κ σ ε) (base : String) (context : κ) (c : Selection)
    (w : WalkedChild κ σ) : Prop :=
  w.key = c.key ∧ channel.resolve context c.key = .ok w.context ∧
    walk channel (childBase base c.key) w.context c = .ok w.walked

theorem walkAll_ok_iff (channel : Channel κ σ ε) (base : String) (context : κ)
    (children : List Selection) (ws : List (WalkedChild κ σ)) :
    walkAll channel base context children = .ok ws ↔
      List.Forall₂ (WalksTo channel base context) children ws := by
  induction children generalizing ws with
  | nil => simp [walkAll, eq_comm]
  | cons c rest ih =>
    rw [walkAll]
    simp only [bind_eq_ok, List.forall₂_cons_left_iff, pure, Except.pure, Except.ok.injEq]
    constructor
    · rintro ⟨inner, hr, walked, hw, others, ho, rfl⟩
      exact ⟨⟨c.key, inner, walked⟩, others, ⟨rfl, hr, hw⟩, (ih others).mp ho, rfl⟩
    · rintro ⟨⟨key, inner, walked⟩, others, ⟨rfl, hr, hw⟩, ho, rfl⟩
      exact ⟨inner, hr, walked, hw, others, (ih others).mpr ho, rfl⟩

theorem exists_walks (channel : Channel κ σ ε) (base : String) (context : κ)
    (children : List Selection) (h : ∀ c ∈ children, ∃ w, WalksTo channel base context c w) :
    ∃ ws, List.Forall₂ (WalksTo channel base context) children ws := by
  induction children with
  | nil => exact ⟨[], .nil⟩
  | cons c rest ih =>
    obtain ⟨⟨w, hw⟩, hrest⟩ := List.forall_mem_cons.mp h
    obtain ⟨ws, hws⟩ := ih hrest
    exact ⟨w :: ws, .cons hw hws⟩

def seen (ws : List (WalkedChild κ σ)) : List (String × κ × σ) :=
  ws.map fun w => (w.key, w.context, w.walked.shape)

theorem seen_keys (channel : Channel κ σ ε) (base : String) (context : κ)
    (children : List Selection) (ws : List (WalkedChild κ σ))
    (h : List.Forall₂ (WalksTo channel base context) children ws) :
    (seen ws).map (·.1) = children.map (·.key) := by
  induction h with
  | nil => rfl
  | cons hw _ ih => exact congrArg₂ List.cons hw.1 ih

theorem walk_ok_iff (channel : Channel κ σ ε) (base : String) (context : κ) (s : Selection)
    (w : Walked σ) :
    walk channel base context s = .ok w ↔
      ∃ ws, List.Forall₂ (WalksTo channel base context) s.expand ws ∧
        channel.shape context s (seen ws) = .ok w.shape ∧
        w.hasFields = (s.fields.isSome || ws.any (·.walked.hasFields)) ∧
        w.paths = joinPaths base (ownPath base s.fields s.hasExpand)
          (ws.any (·.walked.hasFields)) (ws.map (·.walked.paths)) := by
  cases s
  rw [walk]
  simp only [bind_eq_ok, pure, Except.pure, Except.ok.injEq, walkAll_ok_iff, hasExpand, seen]
  constructor
  · rintro ⟨ws, hws, shape, hshape, rfl⟩
    exact ⟨ws, hws, hshape, rfl, rfl⟩
  · rintro ⟨ws, hws, hshape, hflag, hpaths⟩
    refine ⟨ws, hws, w.shape, hshape, ?_⟩
    rw [← hflag, ← hpaths]

def Yields (base : String) (s : Selection) (w : Walked σ) : Prop :=
  w.hasFields = s.listsFields ∧ w.paths = ",".intercalate (segments base s)

theorem children_yield (base : String) (children : List Selection) (ws : List (WalkedChild κ σ))
    (h : List.Forall₂ (fun c w => Yields (childBase base c.key) c w.walked) children ws) :
    ws.any (·.walked.hasFields) = children.any listsFields ∧
      ws.map (·.walked.paths) =
        children.map fun c => ",".intercalate (segments (childBase base c.key) c) := by
  induction h with
  | nil => exact ⟨rfl, rfl⟩
  | cons hw _ ih =>
    obtain ⟨hflag, hpaths⟩ := hw
    simp [hflag, hpaths, ih.1, ih.2]

theorem walk_paths (channel : Channel κ σ ε) (base : String) (context : κ) (s : Selection)
    (w : Walked σ) (h : walk channel base context s = .ok w) : Yields base s w := by
  induction s using induct generalizing base context w with
  | node s ih =>
    obtain ⟨ws, hws, -, hflag, hpaths⟩ := (walk_ok_iff channel base context s w).mp h
    have hchildren : List.Forall₂
        (fun c w => Yields (childBase base c.key) c w.walked) s.expand ws := by
      rw [List.forall₂_iff_zip] at hws ⊢
      refine ⟨hws.1, fun {c w'} mem => ?_⟩
      exact ih c (List.of_mem_zip mem).1 _ _ _ (hws.2 mem).2.2
    obtain ⟨hany, hmap⟩ := children_yield base s.expand ws hchildren
    constructor
    · rw [hflag, hany, listsFields_eq]
    · rw [hpaths, hany, hmap, joinPaths_eq]

theorem walk_untyped (base : String) (s : Selection) :
    walk untyped base () s = .ok (walkUntyped base s) := by
  unfold walkUntyped
  cases h : walk untyped base () s with
  | ok walked => rfl
  | error impossible => exact nomatch impossible

theorem walkUntyped_yields (base : String) (s : Selection) :
    Yields base s (walkUntyped base s) :=
  walk_paths untyped base () s _ (walk_untyped base s)

theorem compileFields_eq (base : String) (s : Selection) :
    compileFields base s = ",".intercalate (segments base s) :=
  (walkUntyped_yields base s).2

theorem parts_compileFields_eq_segments (base : String) (s : Selection)
    (hs : s.Everywhere NamesEntries) (hbase : ',' ∉ base.toList) :
    Text.parts ',' (compileFields base s) = segments base s := by
  rw [compileFields_eq]
  exact Text.parts_intercalate ',' "," rfl _ (comma_notMem_segments base s hs hbase)
    (segments_ne_nil base s)

/-- The parameters of a tree depend on its walk through the flag and the paths, so that every
channel that does not refuse the tree leads to the same parameters. -/
theorem assemble_eq_compile (s : Selection) (w : Walked σ) (h : Yields "" s w) :
    s.assemble w = s.compile := by
  have hu := walkUntyped_yields "" s
  simp only [compile, assemble, h.1, h.2, hu.1, hu.2]

theorem compile_fields (s : Selection) :
    s.compile.fields =
      nonEmpty (if s.listsFields then some (compileFields "" s) else none) := by
  have hu := walkUntyped_yields "" s
  simp only [compile, assemble, hu.1]
  rfl

end Selection

end RecordSelection
