import RecordSelection.Record.Declaration
import RecordSelection.Record.Format
import RecordSelection.Selection.Parameters

/-!
Record types: where their records are kept, what is asked for, and how they are read. A type can
be reached under any key, with the same fields and relations. All but the untyped one are derived
of declarations, those of relations after the types of the records that they lead to.
-/

set_option autoImplicit false

namespace RecordSelection

structure RecordType where
  collection : String
  fields : Option (List String)
  expand : List Selection
  format : Format

namespace RecordType

def node (t : RecordType) (key : String) : Selection :=
  { key, fields := t.fields, expand := t.expand }

def selection (t : RecordType) : Selection := t.node t.collection

def untyped : RecordType := ⟨"", none, [], .any⟩

end RecordType

/-- The types and the structures of relations declared so far, by name. -/
structure Catalogue where
  types : List (String × RecordType) := []
  relations : List (String × List Selection) := []

inductive CatalogueEntry where
  | record (declared : Declaration) (format : Format)
  | relations (declared : Declaration)

namespace Catalogue

def relationsOf (c : Catalogue) (t : TypeExpr) : Option (List Selection) :=
  c.relations.lookup t.unwrap.text

def add (c : Catalogue) : CatalogueEntry → Except DeclarationFault Catalogue
  | .record d format => do
    let derived ← d.deriveRecord
    let type : RecordType := {
      collection := derived.collection
      fields := derived.fields
      expand := (derived.expand.bind c.relationsOf).getD []
      format }
    return { c with types := (d.name, type) :: c.types }
  | .relations d => do
    let children := (← d.deriveExpansion).filterMap fun (key, t) =>
      (c.types.lookup t.text).map (·.node key)
    return { c with relations := (d.name, children) :: c.relations }

def ofEntries (entries : List CatalogueEntry) : Except DeclarationFault Catalogue :=
  entries.foldlM add { types := [("Value", .untyped)] }

def declared (name type : String) (options : Attribute := []) : DeclaredField :=
  { name, type := .read type, attributes := [options] }

def renamed (name : String) : DeclaredOption := ⟨"rename", some (.text name)⟩

def skipped : DeclaredOption := ⟨"skip", none⟩

def expanded : DeclaredOption := ⟨"expand", none⟩

def allFields : DeclaredOption := ⟨"all_fields", none⟩

def keptIn (collection : String) : DeclaredOption := ⟨"collection", some (.text collection)⟩

def authorFormat : Format := .record "Author" [("name", .wanted, .text)]

def commentFormat : Format :=
  .record "Comment"
    [("text", .wanted, .text),
     ("expand", .optional, .optional
       (.record "CommentExpand" [("author", .optional, .optional authorFormat)]))]

def postFormat : Format :=
  .record "Post"
    [("id", .wanted, .text), ("type", .wanted, .text), ("created", .wanted, .timestamp),
     ("expand", .wanted, .record "PostExpand"
       [("author", .wanted, authorFormat), ("post(postId)", .defaulted, .many commentFormat)])]

def feedFormat : Format :=
  .record "RawHTTPFeed"
    [("id", .wanted, .text),
     ("expand", .wanted, .record "FeedExpand"
       [("owner", .wanted, .any), ("tags", .defaulted, .optional (.many .any))])]

def nothingFormat : Format := .record "Nothing" []

def mixedFormat : Format :=
  .record "Mixed"
    [("a,b", .wanted, .integer),
     ("links", .defaulted, .optional (.record "MixedLinks"
       [("ref", .optional, .optional (.many nothingFormat)),
        ("feed", .defaulted, .optional feedFormat)]))]

def entries : List CatalogueEntry :=
  [.record ⟨"Author", .named, [[keptIn "users"]], [declared "name" "String"]⟩ authorFormat,
   .relations ⟨"CommentExpand", .named, [], [declared "author" "Option<Author>"]⟩,
   .record
     ⟨"Comment", .named, [[keptIn "comments"]],
      [declared "text" "String", declared "expand" "Option<CommentExpand>" [expanded]]⟩
     commentFormat,
   .relations
     ⟨"PostExpand", .named, [],
      [declared "author" "Author", declared "comments" "Vec<Comment>" [renamed "post(postId)"],
       declared "cached" "bool" [skipped]]⟩,
   .record
     ⟨"Post", .named, [[keptIn "posts"]],
      [declared "id" "String", declared "r#type" "String",
       declared "created_at" "DateTime<Utc>" [renamed "created"],
       declared "local_only" "bool" [skipped], declared "expand" "PostExpand" [expanded]]⟩
     postFormat,
   .record
     ⟨"AuditLog", .named, [[allFields]], [declared "rest" "Map<String,Value>"]⟩
     (.whole "AuditLog"),
   .relations
     ⟨"FeedExpand", .named, [],
      [declared "owner" "Value", declared "tags" "Option<Vec<Value>>"]⟩,
   .record
     ⟨"RawHTTPFeed", .named, [[allFields]],
      [declared "id" "String", declared "expand" "Box<FeedExpand>" [expanded]]⟩
     feedFormat,
   .record ⟨"Nothing", .named, [], []⟩ nothingFormat,
   .relations
     ⟨"MixedLinks", .named, [],
      [declared "r#ref" "Option<Vec<Box<Nothing>>>", declared "feed" "Option<Box<RawHTTPFeed>>"]⟩,
   .record
     ⟨"Mixed", .named, [[keptIn "weird.coll/é"]],
      [declared "comma" "i64" [renamed "a,b"], declared "empty" "String" [renamed ""],
       declared "links" "Option<Box<MixedLinks>>" [skipped, expanded]]⟩
     mixedFormat]

def declaredTypes : Except DeclarationFault Catalogue := ofEntries entries

end Catalogue

namespace RecordType

def named? (name : String) : Option RecordType :=
  Catalogue.declaredTypes.toOption.bind (·.types.lookup name)

def expansion? (name : String) : Option (List Selection) :=
  Catalogue.declaredTypes.toOption.bind (·.relationsOf (.read name))

example : (named? "Comment").map selection = some
    { key := "comments"
      fields := some ["text"]
      expand := [{ key := "author", fields := some ["name"] }] } := by decide +kernel

end RecordType

end RecordSelection
