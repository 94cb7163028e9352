import BucketOperator.Json.Parser

/-!
# Reading records from documents

A reader takes the part of a document it is given, or refuses it. Two conventions for records
occur. A *closed* record is an object, or an array that lists the fields in their declared order,
and refuses a repeated field. An *open* record is an object only, and the last of repeated fields
counts. Both skip fields they do not know.
-/

namespace BucketOperator.Json.Tree

variable {α β : Type}

def readBool : Tree → Option Bool
  | .bool b => some b
  | _ => none

def readString : Tree → Option String
  | .string s => s
  | _ => none

/-- An integer within bounds; a float is refused even when it is whole. -/
def readInt (low high : Int) : Tree → Option Int
  | .number (some (.integer n)) => if low ≤ n ∧ n ≤ high then some n else none
  | _ => none

/-- A signed integer of 32 bits. -/
def readInt32 (tree : Tree) : Option Int32 :=
  (readInt Int32.minValue.toInt Int32.maxValue.toInt tree).map Int32.ofInt

/-- A signed integer of 64 bits. -/
def readInt64 : Tree → Option Int := readInt (-Nat.pow 2 63) (Nat.pow 2 63 - 1)

/-- An unsigned integer of `bits` bits. -/
def readNat (bits : Nat) (tree : Tree) : Option Nat :=
  (readInt 0 (Nat.pow 2 bits - 1) tree).map Int.toNat

/-- Null for no value. -/
def readOption (read : Tree → Option α) : Tree → Option (Option α)
  | .null => some none
  | tree => (read tree).map some

def readList (read : Tree → Option α) : Tree → Option (List α)
  | .array items => items.mapM read
  | _ => none

/-- An object as a map; the last of repeated keys counts, but all values are read. -/
def readMap (read : Tree → Option α) : Tree → Option (StringMap α)
  | .object members => do
    let entries ← members.mapM fun (key, tree) => do return (← key, ← read tree)
    return .ofList entries
  | _ => none

/-- The fields of a record by name. -/
abbrev Fields := List (String × Tree)

/-- The known members of an object; `none` when a member name is not text. -/
def knownMembers? (names : List String) (members : List (Option String × Tree)) :
    Option Fields := do
  let members ← members.mapM fun (key, tree) => do return (← key, tree)
  return members.filter fun e => names.contains e.1

/-- The fields of a closed record. -/
def closedFields? (names : List String) : Tree → Option Fields
  | .array items => if items.length ≤ names.length then some (names.zip items) else none
  | .object members => do
    let fields ← knownMembers? names members
    guard ((fields.map (·.1)).eraseDups.length = fields.length)
    return fields
  | _ => none

/-- The fields of an open record, the last of repeated ones in front. -/
def openFields? (names : List String) : Tree → Option Fields
  | .object members => (knownMembers? names members).map List.reverse
  | _ => none

namespace Fields

variable (fields : Fields) (name : String)

/-- A field that must be there. -/
def required (read : Tree → Option α) : Option α :=
  (fields.lookup name).bind read

/-- A field with a default for when it is missing. -/
def orElse (default : α) (read : Tree → Option α) : Option α :=
  match fields.lookup name with
  | some tree => read tree
  | none => some default

/-- A field that may be missing or null. -/
def optional (read : Tree → Option α) : Option (Option α) :=
  fields.orElse name none (readOption read)

/-- Every occurrence of a field that may be missing or null is read; the last one counts. -/
def optionalAll (read : Tree → Option α) : Option (Option α) := do
  let found ← (fields.filter fun e => e.1 == name).mapM fun e => readOption read e.2
  return found.head?.getD none

end Fields

end BucketOperator.Json.Tree
