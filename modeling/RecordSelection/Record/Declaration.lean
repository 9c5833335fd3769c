import RecordSelection.Record.TypeText
import RecordSelection.Text.SnakeCase

/-!
What a declared record type asks for. The plain fields of a structure are the fields wanted, and
the field marked `expand` names the relations; a structure of relations has one for each field.
Options come in attributes of the structure and of its fields.
-/

set_option autoImplicit false

namespace RecordSelection

inductive OptionValue where
  | text (value : String)
  | other
  deriving DecidableEq, Repr

structure DeclaredOption where
  name : String
  value : Option OptionValue := none
  deriving DecidableEq, Repr

abbrev Attribute := List DeclaredOption

structure DeclaredField where
  name : String
  type : TypeExpr
  attributes : List Attribute := []

inductive DeclaredForm where
  | named
  | tuple
  | unit
  | enumeration
  | union
  deriving DecidableEq, Repr

structure Declaration where
  name : String
  form : DeclaredForm := .named
  attributes : List Attribute := []
  fields : List DeclaredField := []

inductive Derived where
  | record
  | expansion
  deriving DecidableEq, Repr

def Derived.name : Derived → String
  | .record => "Record"
  | .expansion => "Expansion"

inductive DeclarationFault where
  | noEquals
  | notText
  | noComma
  | unknownContainerOption
  | unknownFieldOption
  | unnamedFields (derived : Derived)
  | notStructure (derived : Derived)
  | secondExpand
  deriving DecidableEq, Repr

def DeclarationFault.message : DeclarationFault → String
  | .noEquals => "expected `=`"
  | .notText => "expected string literal"
  | .noComma => "expected `,`"
  | .unknownContainerOption => "unknown record container attribute"
  | .unknownFieldOption => "unknown record field attribute"
  | .unnamedFields derived =>
    derived.name ++ " can only be derived on structs with named fields"
  | .notStructure derived => derived.name ++ " can only be derived on structs"
  | .secondExpand => "only one field can be marked #[record(expand)]"

namespace Declaration

def textOf (o : DeclaredOption) : Except DeclarationFault String :=
  match o.value with
  | none => .error .noEquals
  | some .other => .error .notText
  | some (.text value) => .ok value

def alone (o : DeclaredOption) : Except DeclarationFault Unit :=
  if o.value.isSome then .error .noComma else .ok ()

structure ContainerOptions where
  collection : Option String := none
  allFields : Bool := false
  deriving DecidableEq, Repr

def containerOption (options : ContainerOptions) (o : DeclaredOption) :
    Except DeclarationFault ContainerOptions :=
  if o.name = "collection" then do return { options with collection := some (← textOf o) }
  else if o.name = "all_fields" then do alone o; return { options with allFields := true }
  else .error .unknownContainerOption

def containerOptions (attributes : List Attribute) : Except DeclarationFault ContainerOptions :=
  attributes.flatten.foldlM containerOption {}

structure FieldOptions where
  rename : Option String := none
  expand : Bool := false
  skip : Bool := false
  deriving DecidableEq, Repr

def fieldOption (options : FieldOptions) (o : DeclaredOption) :
    Except DeclarationFault FieldOptions :=
  if o.name = "rename" then do return { options with rename := some (← textOf o) }
  else if o.name = "expand" then do alone o; return { options with expand := true }
  else if o.name = "skip" then do alone o; return { options with skip := true }
  else .error .unknownFieldOption

def fieldOptions (attributes : List Attribute) : Except DeclarationFault FieldOptions :=
  attributes.flatten.foldlM fieldOption {}

def withoutRaw (name : String) : String :=
  match Text.dropLead ['r', '#'] name.toList with
  | some rest => String.ofList rest
  | none => name

def wireName (field : DeclaredField) (options : FieldOptions) : String :=
  options.rename.getD (withoutRaw field.name)

def checkForm (derived : Derived) : DeclaredForm → Except DeclarationFault Unit
  | .named => .ok ()
  | .tuple | .unit => .error (.unnamedFields derived)
  | .enumeration | .union => .error (.notStructure derived)

/-- The fields wanted, and the type whose relations are expanded, if there is one. -/
def projection (expand : Option TypeExpr) :
    List DeclaredField → Except DeclarationFault (List String × Option TypeExpr)
  | [] => .ok ([], expand)
  | field :: rest => do
    let options ← fieldOptions field.attributes
    if options.expand then
      if expand.isSome then .error .secondExpand
      else projection (some field.type.unwrap) rest
    else
      let (names, expand) ← projection expand rest
      return (if options.skip then names else wireName field options :: names, expand)

def relations : List DeclaredField → Except DeclarationFault (List (String × TypeExpr))
  | [] => .ok []
  | field :: rest => do
    let options ← fieldOptions field.attributes
    let others ← relations rest
    return if options.skip then others
      else (wireName field options, field.type.unwrap) :: others

end Declaration

structure DerivedRecord where
  collection : String
  fields : Option (List String)
  expand : Option TypeExpr

namespace Declaration

def deriveRecord (d : Declaration) : Except DeclarationFault DerivedRecord := do
  let options ← containerOptions d.attributes
  checkForm .record d.form
  let (names, expand) ← projection none d.fields
  return {
    collection := options.collection.getD (Text.snakeCase d.name)
    fields := if options.allFields then none else some names
    expand }

def deriveExpansion (d : Declaration) : Except DeclarationFault (List (String × TypeExpr)) := do
  checkForm .expansion d.form
  relations d.fields

end Declaration

end RecordSelection
