import BucketOperator.Aws.Policy
import BucketOperator.Proofs.Json.Denoting

/-!
# Policy documents as they are read

A policy document is a list of statements. Each says who may do what, or may not, and under which
conditions. Documents are read strictly: one with a member that is not known has no meaning here.
-/

namespace BucketOperator.Aws.Policy

/-! ### Statements -/

inductive Effect where
  | allow
  | deny
  deriving DecidableEq, Repr

/-- Whom a statement is about. -/
inductive Principals where
  | everyone
  /-- Principals by their kind and their name. -/
  | named (principals : List (String × String))
  deriving DecidableEq, Repr

/-- A test of what is known of a request: an operator compares it, at a key, with some values. -/
structure Condition where
  operator : String
  key : String
  values : List String
  deriving DecidableEq, Repr

/-- A statement. Whom or what it is about may be left open. -/
structure Statement where
  sid : Option String
  effect : Effect
  principals : Option Principals
  actions : List String
  resources : Option (List String)
  conditions : List Condition
  deriving DecidableEq, Repr

/-! ### Reading -/

/-- One text or a list of texts. -/
def texts? : Json → Option (List String)
  | .string s => some [s]
  | .array items => items.mapM Json.string?
  | _ => none

/-- The members of an object. -/
def members? : Json → Option (List (String × Json))
  | .object members => some members
  | _ => none

/-- What is read of a member that may be missing. -/
def optional? {α : Type} (value : Json) (name : String) (read : Json → Option α) :
    Option (Option α) :=
  match value.get? name with
  | some member => (read member).map some
  | none => some none

def Effect.read? : Json → Option Effect
  | .string "Allow" => some .allow
  | .string "Deny" => some .deny
  | _ => none

def Principals.read? : Json → Option Principals
  | .string "*" => some .everyone
  | .object kinds => do
    let principals ← kinds.mapM fun (kind, names) => do
      return (← texts? names).map fun name => (kind, name)
    return .named principals.flatten
  | _ => none

/-- The conditions by operator and key. -/
def conditions? (value : Json) : Option (List Condition) := do
  let conditions ← (← members? value).mapM fun (operator, tests) => do
    (← members? tests).mapM fun (key, values) => do
      return (⟨operator, key, ← texts? values⟩ : Condition)
  return conditions.flatten

/-- The members that a statement may have. -/
def statementMembers : List String :=
  ["Action", "Condition", "Effect", "Principal", "Resource", "Sid"]

def Statement.read? (value : Json) : Option Statement := do
  guard ((← members? value).all fun e => statementMembers.contains e.1)
  return {
    sid := ← optional? value "Sid" Json.string?
    effect := ← (value.get? "Effect").bind Effect.read?
    principals := ← optional? value "Principal" Principals.read?
    actions := ← (value.get? "Action").bind texts?
    resources := ← optional? value "Resource" texts?
    conditions := (← optional? value "Condition" conditions?).getD [] }

/-- The statements of a document. -/
def read? (text : String) : Option (List Statement) := do
  match ← Json.parse? text with
  | .object [("Statement", .array statements), ("Version", .string "2012-10-17")] =>
    statements.mapM Statement.read?
  | _ => none

/-- How deeply a statement may be nested in a document. -/
def statementDepth : Nat := Json.maxDepth - 2

/-- A document is read statement by statement. -/
lemma read?_document {statements : List Json}
    (h : ∀ statement ∈ statements, statement.IsPlain statementDepth) :
    read? (document statements) = statements.mapM Statement.read? := by
  have hdocument : (Json.object [("Statement", .array statements), ("Version", version)]).IsPlain
      Json.maxDepth := by
    refine Json.isPlain_object ["Statement", "Version"] rfl (by decide) ?_
    refine List.forall_mem_cons.2 ⟨Json.isPlain_array h, List.forall_mem_singleton.2 ?_⟩
    exact Json.isPlain_string _
  rw [read?, document, hdocument.parse?_render]
  rfl

lemma texts?_strings (items : List String) : texts? (.strings items) = some items := by
  change (items.map Json.string).mapM Json.string? = some items
  induction items with
  | nil => rfl
  | cons s rest ih =>
    rw [List.map_cons, List.mapM_cons, ih]
    rfl

/-! ### Requests -/

/-- A request: what is to be done, by whom, and what is known of it. -/
structure Request where
  action : String
  /-- The kind and the name of who makes the request. -/
  principal : String × String
  /-- What is known under the keys that conditions may test. -/
  context : String → Option String

/-- Whether a request passes a condition. Texts are compared as they stand: no text is taken for a
pattern or for a variable. Other operators than this comparison are passed by nothing. -/
def Condition.IsMetBy (condition : Condition) (context : String → Option String) : Prop :=
  condition.operator = "StringEquals" ∧
    ∃ value ∈ condition.values, context condition.key = some value

/-- Whether a request is made by one of the principals. -/
def Principals.Include (principal : String × String) : Principals → Prop
  | .everyone => True
  | .named principals => principal ∈ principals

/-- Whether a statement is about a request. -/
structure Statement.AppliesTo (statement : Statement) (request : Request) : Prop where
  action : request.action ∈ statement.actions
  principal : ∃ principals, statement.principals = some principals ∧
    principals.Include request.principal
  conditions : ∀ condition ∈ statement.conditions, condition.IsMetBy request.context

/-- Whether statements admit a request: one allows it and none denies it. -/
def Admit (statements : List Statement) (request : Request) : Prop :=
  (∃ statement ∈ statements, statement.effect = .allow ∧ statement.AppliesTo request) ∧
    ∀ statement ∈ statements, statement.effect = .deny → ¬ statement.AppliesTo request

end BucketOperator.Aws.Policy
