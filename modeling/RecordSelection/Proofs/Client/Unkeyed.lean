import RecordSelection.Proofs.Client.Remaining
import RecordSelection.Proofs.Selection.Faithful

/-!
# Calls without their request keys

A query made on a client, and the same query with the request keys erased from its selection. The
call then makes the same requests without a key, and while nothing else happens it comes to the
same.
-/

set_option autoImplicit false

namespace RecordSelection

namespace Selection

mutual

def withoutKeys : Selection → Selection
  | ⟨key, fields, expand, sort, filter, _⟩ =>
    { key, fields, expand := withoutKeysAll expand, sort, filter }

def withoutKeysAll : List Selection → List Selection
  | [] => []
  | child :: rest => withoutKeys child :: withoutKeysAll rest

end

theorem withoutKeys_eq (s : Selection) :
    s.withoutKeys = { s with expand := s.expand.map withoutKeys, requestKey := none } := by
  have hall : ∀ children, withoutKeysAll children = children.map withoutKeys := by
    intro children
    induction children with
    | nil => rfl
    | cons c rest ih => rw [withoutKeysAll, ih, List.map_cons]
  cases s
  rw [withoutKeys, hall]

theorem tree_withoutKeys (s : Selection) : s.withoutKeys.tree = s.tree := by
  induction s using induct with
  | node s ih =>
    have hchildren : (s.expand.map withoutKeys).map tree = s.expand.map tree := by
      rw [List.map_map]
      exact List.map_congr_left ih
    rw [tree_eq, tree_eq s, withoutKeys_eq, hchildren]

theorem compile_withoutKeys (s : Selection) :
    s.withoutKeys.compile = { s.compile with requestKey := none } := by
  have htree : _ = s.tree.compile := (compile_tree s.withoutKeys).symm.trans
    (congrArg compile (tree_withoutKeys s))
  rw [compile_tree, Parameters.mk.injEq] at htree
  obtain ⟨hfields, hexpand, -⟩ := htree
  have hown : s.withoutKeys.compile =
      { s.compile with
        fields := s.withoutKeys.compile.fields
        expand := s.withoutKeys.compile.expand
        requestKey := none } := by
    rw [withoutKeys_eq]
    rfl
  rw [hown, hfields, hexpand]

end Selection

namespace Exchange

variable {α β : Type}

theorem withoutKeys_bind (e : Exchange α) (next : α → Exchange β) :
    (e.bind next).withoutKeys = e.withoutKeys.bind fun value => (next value).withoutKeys := by
  induction e with
  | done result => cases result <;> rfl
  | get request key resume ih => exact congrArg (Exchange.get request none) (funext ih)

theorem withoutKeys_map (f : α → β) (e : Exchange α) :
    (e.map f).withoutKeys = e.withoutKeys.map f :=
  withoutKeys_bind e _

/-- While nothing else happens the keys of a call do not matter. -/
theorem run_withoutKeys (answer : Nat → Except ClientFault Json) (n : Nat) (e : Exchange α) :
    e.withoutKeys.run answer n = e.run answer n := by
  induction e generalizing n with
  | done result => rfl
  | get request key resume ih =>
    rw [withoutKeys, run, run]
    cases answer n with
    | error fault => rfl
    | ok value => simp only [ih]

end Exchange

namespace Client

variable {α : Type} (c : Client) (item : Json.Reader α) (collection : String) (p : Parameters)

theorem getPage_withoutKeys (page : Page) :
    c.getPage item collection page { p with requestKey := none } =
      (c.getPage item collection page p).withoutKeys := rfl

theorem getOne_withoutKeys (id : String) :
    c.getOne item collection id { p with requestKey := none } =
      (c.getOne item collection id p).withoutKeys := rfl

theorem getFirst_withoutKeys :
    c.getFirst item collection { p with requestKey := none } =
      (c.getFirst item collection p).withoutKeys := by
  unfold getFirst
  rw [Exchange.withoutKeys_bind, getPage_withoutKeys]
  refine congrArg _ (funext fun list => ?_)
  cases list.items <;> rfl

theorem getAllFrom_withoutKeys (pages number : Nat) (found : List α) :
    c.getAllFrom item collection { p with requestKey := none } pages number found =
      (c.getAllFrom item collection p pages number found).withoutKeys := by
  induction pages generalizing number found with
  | zero => rfl
  | succ pages ih =>
    rw [getAllFrom, getAllFrom, Exchange.withoutKeys_bind, getPage_withoutKeys]
    refine congrArg _ (funext fun list => ?_)
    split
    · rfl
    · exact ih _ _

end Client

theorem Call.exchange_withoutKeys {α : Type} (c : Call α) :
    Call.exchange { c with parameters := { c.parameters with requestKey := none } } =
      c.exchange.withoutKeys := by
  unfold Call.exchange
  cases c.kind with
  | send page => rfl
  | list page => rw [Exchange.withoutKeys_map, ← Client.getPage_withoutKeys]
  | one id => rw [Exchange.withoutKeys_map, ← Client.getOne_withoutKeys]
  | first => rw [Exchange.withoutKeys_map, ← Client.getFirst_withoutKeys]
  | all =>
    rw [Exchange.withoutKeys_map, Client.getAll, Client.getAll, ← Client.getAllFrom_withoutKeys]

inductive Query.Ending where
  | raw (page : Option Page)
  | page
  | first
  | all
  | one (id : String)
  deriving DecidableEq, Repr

structure Inquiry (α : Type) where
  client : Client
  item : Json.Reader α
  query : Query
  ending : Query.Ending

namespace Inquiry

variable {α : Type}

def exchange (i : Inquiry α) : Exchange (Call.Given α) :=
  match i.ending with
  | .raw page =>
    (i.client.send i.query.selection.key i.query.parameters page).map .answer
  | .page => (i.query.send i.client i.item).map .list
  | .first => (i.query.first i.client i.item).map .record
  | .all => (i.query.all i.client i.item).map .records
  | .one id => (i.query.view i.client i.item id).map .record

def call (i : Inquiry α) : Call α where
  client := i.client
  item := i.item
  collection := i.query.selection.key
  parameters := i.query.parameters
  kind := match i.ending with
    | .raw page => .send page
    | .page => .list i.query.page
    | .first => .first
    | .all => .all
    | .one id => .one id

theorem exchange_eq_call (i : Inquiry α) : i.exchange = i.call.exchange := by
  unfold exchange Call.exchange call
  cases i.ending <;> rfl

theorem lasting_exchange (i : Inquiry α) : i.exchange.Lasting := by
  rw [exchange_eq_call]
  exact i.call.lasting_exchange

def withoutKeys (i : Inquiry α) : Inquiry α :=
  { i with query := { i.query with selection := i.query.selection.withoutKeys } }

theorem call_withoutKeys (i : Inquiry α) :
    i.withoutKeys.call =
      { i.call with parameters := { i.call.parameters with requestKey := none } } := by
  have hparameters := Selection.compile_withoutKeys i.query.selection
  have hkey : i.query.selection.withoutKeys.key = i.query.selection.key := by
    rw [Selection.withoutKeys_eq]
  unfold withoutKeys call Query.parameters
  dsimp only
  rw [hparameters, hkey]

theorem exchange_withoutKeys (i : Inquiry α) :
    i.withoutKeys.exchange = i.exchange.withoutKeys := by
  rw [exchange_eq_call, exchange_eq_call, call_withoutKeys, Call.exchange_withoutKeys]

end Inquiry

end RecordSelection
