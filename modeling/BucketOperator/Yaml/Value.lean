import BucketOperator.Binary64
import BucketOperator.Yaml.Node

/-!
# YAML values

What a document means: plain scalars stand for null, booleans and numbers where they look like
them, aliases for the nodes they refer to. Keys of a mapping must differ. Nesting and the use of
aliases are bounded, so every document either has a value or is refused.
-/

namespace BucketOperator.Yaml

inductive Value where
  | null
  | bool (value : Bool)
  | integer (value : Int)
  | float (value : Binary64)
  | string (value : String)
  | sequence (items : List Value)
  | mapping (entries : List (Value × Value))
  /-- A value with a tag of the document's own. -/
  | tagged (tag : String) (value : Value)
  deriving Inhabited

namespace Value

/-- Whether two floats count as the same key: all that are not numbers do, and both zeros. -/
def sameFloat : Binary64 → Binary64 → Bool
  | .nan, .nan => true
  | a, b => a.le b && b.le a

mutual

/-- Whether two values are the same key. The order of a mapping does not matter. -/
def same : Value → Value → Bool
  | .null, .null => true
  | .bool a, .bool b => a == b
  | .integer a, .integer b => a == b
  | .float a, .float b => sameFloat a b
  | .string a, .string b => a == b
  | .sequence a, .sequence b => sameItems a b
  | .mapping a, .mapping b => a.length == b.length && containedIn a b
  | .tagged s a, .tagged t b => s == t && same a b
  | _, _ => false

def sameItems : List Value → List Value → Bool
  | [], [] => true
  | a :: as, b :: bs => same a b && sameItems as bs
  | _, _ => false

def containedIn : List (Value × Value) → List (Value × Value) → Bool
  | [], _ => true
  | (k, v) :: rest, entries =>
    (entries.any fun e => same k e.1 && same v e.2) && containedIn rest entries

end

/-- A value without its tags. -/
def untagged : Value → Value
  | .tagged _ v => v.untagged
  | v => v

/-- The value at a text key of a mapping. -/
def get? (v : Value) (key : String) : Option Value :=
  match v.untagged with
  | .mapping entries => (entries.find? fun e => same e.1 (.string key)).map (·.2)
  | _ => none

/-- The value found by descending through mappings. -/
def path? (v : Value) : List String → Option Value
  | [] => some v
  | key :: rest => (v.get? key).bind (path? · rest)

def string? (v : Value) : Option String :=
  match v.untagged with
  | .string s => some s
  | _ => none

end Value

/-! ### Plain scalars -/

/-- The value of a digit in a base up to sixteen. -/
def digitValue? (base : Nat) (c : Char) : Option Nat :=
  (hexValue? c).filter (· < base)

/-- A number without a sign. -/
def natural? (base : Nat) (cs : List Char) : Option Nat := do
  guard (!cs.isEmpty)
  cs.foldlM (fun n c => (digitValue? base c).map (n * base + ·)) 0

/-- Whether a text is a number with superfluous zeros in front, which is no number. -/
def hasLeadingZero (cs : List Char) : Bool :=
  let digits := match cs with
    | '-' :: rest => rest
    | '+' :: rest => rest
    | _ => cs
  digits.length > 1 && digits.head? == some '0' && digits.all Char.isDigit

/-- The magnitude of an integer in decimal or behind a mark of its base. -/
def magnitude? (cs : List Char) : Option Nat :=
  match cs with
  | '0' :: 'x' :: rest => natural? 16 rest
  | '0' :: 'o' :: rest => natural? 8 rest
  | '0' :: 'b' :: rest => natural? 2 rest
  | _ => if hasLeadingZero cs then none else natural? 10 cs

/-- The integer a text writes, if it fits into 128 bits. -/
def integer? (text : String) : Option Int :=
  match text.toList with
  | '-' :: rest =>
    ((magnitude? rest).filter fun n => n ≤ Nat.pow 2 127).map fun n => -(n : Int)
  | '+' :: rest => ((magnitude? rest).filter fun n => n < Nat.pow 2 128).map fun n => (n : Int)
  | cs => ((magnitude? cs).filter fun n => n < Nat.pow 2 128).map fun n => (n : Int)

/-- Digits, perhaps with a point, perhaps with an exponent. -/
def decimalFloat? (negative : Bool) (cs : List Char) : Option Binary64 := do
  let (whole, rest) := cs.span Char.isDigit
  let (fraction, rest) := match rest with
    | '.' :: rest => rest.span Char.isDigit
    | _ => ([], rest)
  let digits := whole ++ fraction
  let mantissa ← natural? 10 digits
  let power : Int ←
    match rest with
    | [] => some 0
    | e :: rest =>
      if e == 'e' || e == 'E' then
        match rest with
        | '-' :: ds => (natural? 10 ds).map fun n => -(n : Int)
        | '+' :: ds => (natural? 10 ds).map fun n => (n : Int)
        | ds => (natural? 10 ds).map fun n => (n : Int)
      else none
  -- Beyond these bounds the number is infinite or zero whatever its digits are.
  let bound : Int := digits.length + 400
  let power := max (-bound) (min bound (power - fraction.length))
  match Binary64.ofDecimal negative mantissa power with
  | .infinite _ => none
  | x => return x

/-- The float a text writes. Infinity and what is not a number have names of their own. -/
def float? (text : String) : Option Binary64 :=
  if [".inf", ".Inf", ".INF", "+.inf", "+.Inf", "+.INF"].contains text then some (.infinite false)
  else if ["-.inf", "-.Inf", "-.INF"].contains text then some (.infinite true)
  else if [".nan", ".NaN", ".NAN"].contains text then some .nan
  else
    match text.toList with
    | '-' :: rest => decimalFloat? true rest
    | '+' :: rest => decimalFloat? false rest
    | cs => decimalFloat? false cs

def isNull (text : String) : Bool := ["null", "Null", "NULL", "~"].contains text

def bool? (text : String) : Option Bool :=
  if ["true", "True", "TRUE"].contains text then some true
  else if ["false", "False", "FALSE"].contains text then some false
  else none

/-- An integer as a value, if it fits into 64 bits. -/
def integerValue? (n : Int) : Option Value :=
  if -Nat.pow 2 63 ≤ n && n < Nat.pow 2 64 then some (.integer n) else none

/-- The value of a plain scalar without a tag. An integer too large for a value is refused. -/
def plainValue? (text : String) : Option Value :=
  if text.isEmpty || isNull text then some .null
  else
    match bool? text, integer? text with
    | some b, _ => some (.bool b)
    | none, some n => integerValue? n
    | none, none =>
      if hasLeadingZero text.toList then some (.string text)
      else some (((float? text).map .float).getD (.string text))

/-- The value of a scalar. -/
def scalarValue? (tag : Option String) (text : String) (plain : Bool) : Option Value :=
  let untagged := if plain then plainValue? text else some (.string text)
  match tag with
  | none => untagged
  | some "tag:yaml.org,2002:bool" => (bool? text).map .bool
  | some "tag:yaml.org,2002:int" => (integer? text).bind integerValue?
  | some "tag:yaml.org,2002:float" => (float? text).map .float
  | some "tag:yaml.org,2002:null" => if isNull text then some .null else none
  | some tag => if tag.front == '!' then untagged.map (.tagged tag) else some (.string text)

/-! ### Documents -/

mutual

/-- How many steps a node takes to describe; a collection has a start and an end. -/
def Node.steps : Node → Nat
  | .sequence _ items => stepsOfItems items + 2
  | .mapping _ entries => stepsOfEntries entries + 2
  | _ => 1

def stepsOfItems : List Node → Nat
  | [] => 0
  | node :: rest => node.steps + stepsOfItems rest

def stepsOfEntries : List (Node × Node) → Nat
  | [] => 0
  | (k, v) :: rest => k.steps + v.steps + stepsOfEntries rest

end

/-- A collection's value with its tag, if that is one of the document's own. -/
def withTag (tag : Option String) (value : Value) : Value :=
  match tag with
  | some t => if t.front == '!' then .tagged t value else value
  | none => value

namespace Document

variable (document : Document) (maxAliases : Nat)

mutual

/-- The value of a node that may nest `depth` levels deep, and how many aliases have been used. -/
def valueOf? : Nat → Nat → Nat → Node → Option (Value × Nat)
  | 0, _, _, _ => none
  | _ + 1, _, used, .scalar tag text plain => (scalarValue? tag text plain).map (·, used)
  | fuel + 1, depth, used, .alias n => do
    guard (used < maxAliases)
    let node ← document.anchored.lookup n
    valueOf? fuel depth (used + 1) node
  | fuel + 1, depth, used, .sequence tag items => do
    guard (0 < depth)
    let (items, used) ← itemValues? fuel (depth - 1) used items
    return (withTag tag (.sequence items), used)
  | fuel + 1, depth, used, .mapping tag entries => do
    guard (0 < depth)
    let (entries, used) ← entryValues? fuel (depth - 1) used [] entries
    return (withTag tag (.mapping entries), used)
termination_by structural fuel => fuel

def itemValues? : Nat → Nat → Nat → List Node → Option (List Value × Nat)
  | 0, _, _, _ => none
  | _ + 1, _, used, [] => some ([], used)
  | fuel + 1, depth, used, node :: rest => do
    let (v, used) ← valueOf? fuel depth used node
    let (vs, used) ← itemValues? fuel depth used rest
    return (v :: vs, used)
termination_by structural fuel => fuel

/-- The entries of a mapping behind the given ones, whose keys must not come again. -/
def entryValues? : Nat → Nat → Nat → List (Value × Value) → List (Node × Node) →
    Option (List (Value × Value) × Nat)
  | 0, _, _, _, _ => none
  | _ + 1, _, used, before, [] => some (before, used)
  | fuel + 1, depth, used, before, (key, value) :: rest => do
    let (k, used) ← valueOf? fuel depth used key
    guard !(before.any fun e => e.1.same k)
    let (v, used) ← valueOf? fuel depth used value
    entryValues? fuel depth used (before ++ [(k, v)]) rest
termination_by structural fuel => fuel

end

/-- The deepest nesting of a document. -/
def maxDepth : Nat := 128

/-- The value of a document; aliases may be used a hundred times for each of its steps. -/
def value? : Option Value :=
  let steps := document.root.steps
  let fuel := (maxDepth + 2) * (steps + 4)
  (document.valueOf? (steps * 100) fuel maxDepth 0 document.root).map (·.1)

end Document

/-- The value of a text that holds at most one document; of none it is null. -/
def parse? (text : String) : Option Value := do
  match ← readDocument? (← tokens? text) with
  | none => some .null
  | some document => document.value?

end BucketOperator.Yaml
