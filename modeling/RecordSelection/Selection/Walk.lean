import RecordSelection.Selection.Basic

/-!
One walk over a selection tree, bottom up, which writes the paths of the fields wanted and lets
a channel say what each node stands for. A subtree in which no node lists fields is covered by
one wildcard; as soon as some node below lists fields, every level is written out.
-/

set_option autoImplicit false

namespace RecordSelection

/-- What is known at a node: the context of a child reached by a relation, and the shape of a
node given its children in order. Either may refuse. -/
structure Channel (κ σ ε : Type) where
  resolve : κ → String → Except ε κ
  shape : κ → Selection → List (String × κ × σ) → Except ε σ

/-- The paths of a node and of all below it, whether any of them lists fields, and its shape. -/
structure Walked (σ : Type) where
  paths : String
  hasFields : Bool
  shape : σ
  deriving Repr

structure WalkedChild (κ σ : Type) where
  key : String
  context : κ
  walked : Walked σ

namespace Selection

variable {κ σ ε : Type}

def withoutDot (base : String) : String :=
  match base.toList.reverse with
  | '.' :: rest => String.ofList rest.reverse
  | _ => base

def childBase (base key : String) : String := base ++ "expand." ++ key ++ "."

def ownPath (base : String) (fields : Option (List String)) (hasExpand : Bool) : String :=
  match fields with
  | some names => ",".intercalate (names.map (base ++ ·))
  | none => if hasExpand then base ++ "*" else withoutDot base

def joinPaths (base own : String) (explicit : Bool) (below : List String) : String :=
  if below.isEmpty then own
  else if explicit then ",".intercalate (own :: below)
  else own ++ "," ++ base ++ "expand.*"

mutual

def walk (channel : Channel κ σ ε) (base : String) (context : κ) :
    Selection → Except ε (Walked σ)
  | ⟨key, fields, expand, sort, filter, requestKey⟩ => do
    let children ← walkAll channel base context expand
    let explicit := children.any (·.walked.hasFields)
    let own := ownPath base fields (!expand.isEmpty)
    let shape ← channel.shape context ⟨key, fields, expand, sort, filter, requestKey⟩
      (children.map fun child => (child.key, child.context, child.walked.shape))
    return {
      paths := joinPaths base own explicit (children.map (·.walked.paths))
      hasFields := fields.isSome || explicit
      shape }

def walkAll (channel : Channel κ σ ε) (base : String) (context : κ) :
    List Selection → Except ε (List (WalkedChild κ σ))
  | [] => .ok []
  | child :: rest => do
    let inner ← channel.resolve context child.key
    let walked ← walk channel (childBase base child.key) inner child
    let others ← walkAll channel base context rest
    return ⟨child.key, inner, walked⟩ :: others

end

def untyped : Channel Unit Unit Empty where
  resolve _ _ := .ok ()
  shape _ _ _ := .ok ()

def walkUntyped (base : String) (s : Selection) : Walked Unit :=
  match walk untyped base () s with
  | .ok walked => walked
  | .error impossible => nomatch impossible

def compileFields (base : String) (s : Selection) : String := (walkUntyped base s).paths

mutual

/-- The relation chains of a node: one for each node below it that expands nothing. -/
def chain (base : String) : Selection → String
  | ⟨key, _, expand, _, _, _⟩ =>
    match expand with
    | [] => base ++ key
    | child :: rest => ",".intercalate (chains (base ++ key ++ ".") (child :: rest))

def chains (base : String) : List Selection → List String
  | [] => []
  | node :: rest => chain base node :: chains base rest

end

def compileExpand (base : String) (nodes : List Selection) : String :=
  ",".intercalate (chains base nodes)

end Selection

end RecordSelection
