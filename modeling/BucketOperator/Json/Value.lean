import BucketOperator.Binary64
import BucketOperator.StringMap

/-!
# JSON values

The members of an object are kept in increasing key order, each key once. `Json.ofMembers` builds
such an object from any list of members; object literals in this library list their keys in order.
-/

namespace BucketOperator

/-- A number of a document: an integer of 64 bits, signed or not, or a finite float. -/
inductive Json.Number where
  | integer (value : Int)
  | float (value : Binary64)
  deriving DecidableEq, Repr, Inhabited

/-- A JSON value. -/
inductive Json where
  | null
  | bool (value : Bool)
  | number (value : Json.Number)
  | string (value : String)
  | array (items : List Json)
  | object (members : List (String × Json))
  deriving Repr, Inhabited

namespace Json

mutual

/-- Whether two values are the same. -/
def same : Json → Json → Bool
  | .null, .null => true
  | .bool a, .bool b => a == b
  | .number a, .number b => a == b
  | .string a, .string b => a == b
  | .array a, .array b => sameItems a b
  | .object a, .object b => sameMembers a b
  | _, _ => false

def sameItems : List Json → List Json → Bool
  | [], [] => true
  | a :: as, b :: bs => same a b && sameItems as bs
  | _, _ => false

def sameMembers : List (String × Json) → List (String × Json) → Bool
  | [], [] => true
  | (k, a) :: as, (l, b) :: bs => k == l && same a b && sameMembers as bs
  | _, _ => false

end

instance : BEq Json := ⟨same⟩

/-- The integer `n`. -/
def int (n : Int) : Json := .number (.integer n)

/-- An object with the listed members; the last one of a key wins. -/
def ofMembers (members : List (String × Json)) : Json :=
  .object (members.foldl (fun l e => insertEntry e.1 e.2 l) [])

/-- A list of strings. -/
def strings (items : List String) : Json := .array (items.map .string)

/-- An object with string values. -/
def ofStringMap (m : StringMap String) : Json :=
  .object (m.toList.map fun (k, v) => (k, .string v))

/-- The string `s`, or null when there is none. -/
def ofString? : Option String → Json
  | some s => .string s
  | none => .null

/-- The member of an object at a key; other values have no members. -/
def get? : Json → String → Option Json
  | .object members, key => members.lookup key
  | _, _ => none

/-- The value found by descending through object members. -/
def path? (value : Json) : List String → Option Json
  | [] => some value
  | key :: rest => (value.get? key).bind (path? · rest)

def string? : Json → Option String
  | .string s => some s
  | _ => none

def array? : Json → Option (List Json)
  | .array items => some items
  | _ => none

/-- Set a member of an object; any other value counts as an object without members. -/
def set (value : Json) (key : String) (member : Json) : Json :=
  match value with
  | .object members => .object (insertEntry key member members)
  | _ => .object [(key, member)]

/-- Remove a member of an object. -/
def erase (value : Json) (key : String) : Json :=
  match value with
  | .object members => .object (members.filter fun e => e.1 != key)
  | other => other

/-! ### Pointers -/

/-- Replace the escapes of one pointer token: `~1` is a slash and `~0` a tilde. -/
def unescapeToken : List Char → List Char
  | '~' :: '1' :: rest => '/' :: unescapeToken rest
  | '~' :: '0' :: rest => '~' :: unescapeToken rest
  | c :: rest => c :: unescapeToken rest
  | [] => []

/-- An array position written in decimal, without a sign or a leading zero. -/
def index? (token : List Char) : Option Nat :=
  match token with
  | ['0'] => some 0
  | c :: rest =>
    if c != '0' && (c :: rest).all Char.isDigit then
      some ((c :: rest).foldl (fun n d => n * 10 + (d.toNat - '0'.toNat)) 0)
    else none
  | [] => none

/-- One step of a pointer: a member by name or an item by position. -/
def child? (value : Json) (token : List Char) : Option Json :=
  match value with
  | .object members => members.lookup (String.ofList (unescapeToken token))
  | .array items => (index? token).bind fun i => items[i]?
  | _ => none

/-- Split at every slash. -/
def splitSlashes (cs : List Char) : List (List Char) := cs.splitOn '/'

/-- The value a pointer names: empty for the whole, else slash-led tokens. -/
def pointer? (value : Json) (pointer : String) : Option Json :=
  match pointer.toList with
  | [] => some value
  | '/' :: rest => (splitSlashes rest).foldlM child? value
  | _ => none

/-! ### Merge patches -/

mutual

/-- Apply a merge patch: objects merge member by member, null removes, anything else replaces. -/
def mergePatch (target : Json) : Json → Json
  | .object changes =>
    mergeMembers (match target with | .object members => .object members | _ => .object []) changes
  | other => other

/-- Apply the changes of a merge patch one after the other to an object. -/
def mergeMembers (target : Json) : List (String × Json) → Json
  | [] => target
  | (key, change) :: rest =>
    mergeMembers
      (match change with
        | .null => target.erase key
        | change => target.set key (mergePatch ((target.get? key).getD .null) change))
      rest

end

end Json

end BucketOperator
