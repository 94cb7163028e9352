import BucketOperator.Json.Value

/-!
# JSON documents as written

A document keeps the order and the repetitions of its members. A number too large for a float and
a string with half a surrogate pair are well formed but denote nothing, which matters only where
they are read: a reader of a record skips members it does not know.
-/

namespace BucketOperator.Json

/-- A parsed document, before it is given a meaning. -/
inductive Tree where
  | null
  | bool (value : Bool)
  | number (value : Option Number)
  | string (value : Option String)
  | array (items : List Tree)
  | object (members : List (Option String × Tree))
  deriving Inhabited

namespace Tree

mutual

/-- The value a document denotes: members sorted, the last one of a key winning. -/
def value? : Tree → Option Json
  | .null => some .null
  | .bool b => some (.bool b)
  | .number n => n.map .number
  | .string s => s.map .string
  | .array items => (values? items).map .array
  | .object members => (memberValues? members).map .ofMembers

def values? : List Tree → Option (List Json)
  | [] => some []
  | t :: rest => do
    let v ← t.value?
    let vs ← values? rest
    return v :: vs

def memberValues? : List (Option String × Tree) → Option (List (String × Json))
  | [] => some []
  | (key, t) :: rest => do
    let k ← key
    let v ← t.value?
    let vs ← memberValues? rest
    return (k, v) :: vs

end

mutual

/-- The document that writes a value. -/
def ofJson : Json → Tree
  | .null => .null
  | .bool b => .bool b
  | .number n => .number (some n)
  | .string s => .string (some s)
  | .array items => .array (ofItems items)
  | .object members => .object (ofMembers members)

def ofItems : List Json → List Tree
  | [] => []
  | v :: rest => ofJson v :: ofItems rest

def ofMembers : List (String × Json) → List (Option String × Tree)
  | [] => []
  | (k, v) :: rest => (some k, ofJson v) :: ofMembers rest

end

mutual

/-- How deeply arrays and objects are nested. -/
def depth : Tree → Nat
  | .array items => itemsDepth items + 1
  | .object members => membersDepth members + 1
  | _ => 0

def itemsDepth : List Tree → Nat
  | [] => 0
  | t :: rest => max t.depth (itemsDepth rest)

def membersDepth : List (Option String × Tree) → Nat
  | [] => 0
  | (_, t) :: rest => max t.depth (membersDepth rest)

end

end Tree

end BucketOperator.Json
