import BucketOperator.Json.Tree

/-!
# Parsing JSON text

The parser reads the characters from left to right and returns the rest. Each nested call uses one
unit of fuel; a text of `n` characters needs at most `2 * n + 2`, which `Tree.parse?` supplies.
-/

namespace BucketOperator.Json

/-- The four characters that may stand between tokens. -/
def isBlank (c : Char) : Bool :=
  c == ' ' || c == '\n' || c == '\t' || c == '\r'

def skipBlanks (cs : List Char) : List Char := cs.dropWhile isBlank

/-! ### Numbers -/

/-- The value of a run of decimal digits. -/
def digitsValue (ds : List Char) : Nat :=
  ds.foldl (fun n d => n * 10 + (d.toNat - '0'.toNat)) 0

/-- The largest unsigned integer of 64 bits. -/
def maxUnsigned : Nat := Nat.pow 2 64 - 1

/-- Collect digits while the number they write fits 64 bits, returning those left over. -/
def gather (n : Nat) : List Char → Nat × List Char
  | [] => (n, [])
  | d :: rest =>
    let next := n * 10 + (d.toNat - '0'.toNat)
    if next ≤ maxUnsigned then gather next rest else (n, d :: rest)

/-- The largest power of ten that a float holds. -/
def maxPower : Int := 308

/-- Scale by a power of ten in steps the format can hold; `none` when the result is infinite. -/
def scale (steps : Nat) (x : Binary64) (power : Int) : Option Binary64 :=
  match steps with
  | 0 => some x
  | steps + 1 =>
    if power.natAbs ≤ maxPower then
      let p := Binary64.ofDecimal false 1 power.natAbs
      let y := if 0 ≤ power then x.mul p else x.div p
      match y with
      | .infinite _ => none
      | y => some y
    else if x matches .finite _ 0 _ then some x
    else if 0 ≤ power then none
    else scale steps (x.div (.ofDecimal false 1 maxPower)) (power + maxPower)

/-- Four steps bring any 64 bit number down to zero. -/
def scaleSteps : Nat := 4

/-- A power of ten from its digits, held within the range that decides the result. -/
def clampPower (n : Nat) : Int := (min n 1000000 : Nat)

/-- A float literal: its digits are gathered in 64 bits, converted, then scaled. -/
def floatLiteral (negative : Bool) (whole fraction : List Char) (power : Int) : Option Binary64 :=
  let (n, left) := gather 0 whole
  let (n, power) :=
    if left.isEmpty then
      let (m, dropped) := gather n fraction
      (m, power - (fraction.length - dropped.length : Nat))
    else (n, power + (left.length : Nat))
  (scale scaleSteps (Binary64.ofInt n) power).map fun
    | .finite _ m e => .finite negative m e
    | other => other

/-- Split off a leading run of digits. -/
def spanDigits (cs : List Char) : List Char × List Char := cs.span Char.isDigit

/-- The exponent of a literal, if there is one: its power and the rest. -/
def exponent? : List Char → Option (Option Int × List Char)
  | c :: rest =>
    if c == 'e' || c == 'E' then
      let (sign, rest) : Int × List Char := match rest with
        | '+' :: r => (1, r)
        | '-' :: r => (-1, r)
        | r => (1, r)
      match spanDigits rest with
      | ([], _) => none
      | (ds, rest) => some (some (sign * clampPower (digitsValue ds)), rest)
    else some (none, c :: rest)
  | [] => some (none, [])

/-- The fraction of a literal, if there is one: its digits and the rest. -/
def fraction? : List Char → Option (Option (List Char) × List Char)
  | '.' :: rest =>
    match spanDigits rest with
    | ([], _) => none
    | (ds, rest) => some (some ds, rest)
  | rest => some (none, rest)

/-- The number a literal denotes. -/
def literalNumber (negative : Bool) (whole : List Char) (fraction : Option (List Char))
    (power : Option Int) : Option Number :=
  let n := digitsValue whole
  match fraction, power with
  | none, none =>
    if negative then
      if n = 0 then some (.float (.finite true 0 Binary64.minExponent))
      else if n ≤ Nat.pow 2 63 then some (.integer (-n))
      else (floatLiteral true whole [] 0).map .float
    else if n ≤ maxUnsigned then some (.integer n)
    else (floatLiteral false whole [] 0).map .float
  | fraction, power =>
    (floatLiteral negative whole (fraction.getD []) (power.getD 0)).map .float

/-- A number without its sign: no leading zero before another digit. -/
def magnitude? (negative : Bool) (cs : List Char) : Option (Tree × List Char) := do
  let (whole, rest) := spanDigits cs
  guard (whole != [] && (whole.head? != some '0' || whole.length == 1))
  let (fraction, rest) ← fraction? rest
  let (power, rest) ← exponent? rest
  return (.number (literalNumber negative whole fraction power), rest)

/-! ### Strings -/

/-- The value of a hexadecimal digit. -/
def hexDigit? (c : Char) : Option Nat :=
  if c.isDigit then some (c.toNat - '0'.toNat)
  else if 'a' ≤ c && c ≤ 'f' then some (c.toNat - 'a'.toNat + 10)
  else if 'A' ≤ c && c ≤ 'F' then some (c.toNat - 'A'.toNat + 10)
  else none

/-- The number that four hexadecimal digits write. -/
def unit? (a b c d : Char) : Option Nat := do
  return ((← hexDigit? a) * 16 + (← hexDigit? b)) * 256 + ((← hexDigit? c) * 16 + (← hexDigit? d))

/-- The character that a backslash and a letter stand for. -/
def shortEscape? : Char → Option Char
  | '"' => some '"'
  | '\\' => some '\\'
  | '/' => some '/'
  | 'b' => some '\x08'
  | 'f' => some '\x0c'
  | 'n' => some '\n'
  | 'r' => some '\r'
  | 't' => some '\t'
  | _ => none

/-- Put a character in front of a text that may denote nothing. -/
def consChar (c : Char) : Option (List Char) × List Char → Option (List Char) × List Char
  | (text, rest) => (text.map (c :: ·), rest)

/-- The text after an opening quote, up to the closing one, and the rest of the input. -/
def stringBody? : List Char → Option (Option (List Char) × List Char)
  | [] => none
  | '"' :: rest => some (some [], rest)
  | '\\' :: 'u' :: a :: b :: c :: d :: '\\' :: 'u' :: a' :: b' :: c' :: d' :: rest => do
    let high ← unit? a b c d
    if 0xD800 ≤ high ∧ high < 0xDC00 then
      let low ← unit? a' b' c' d'
      if 0xDC00 ≤ low ∧ low < 0xE000 then
        let point := 0x10000 + (high - 0xD800) * 0x400 + (low - 0xDC00)
        return consChar (Char.ofNat point) (← stringBody? rest)
      else
        let (_, rest) ← stringBody? ('\\' :: 'u' :: a' :: b' :: c' :: d' :: rest)
        return (none, rest)
    else if 0xDC00 ≤ high ∧ high < 0xE000 then
      let (_, rest) ← stringBody? ('\\' :: 'u' :: a' :: b' :: c' :: d' :: rest)
      return (none, rest)
    else
      return consChar (Char.ofNat high)
        (← stringBody? ('\\' :: 'u' :: a' :: b' :: c' :: d' :: rest))
  | '\\' :: 'u' :: a :: b :: c :: d :: rest => do
    let unit ← unit? a b c d
    if 0xD800 ≤ unit ∧ unit < 0xE000 then
      let (_, rest) ← stringBody? rest
      return (none, rest)
    else
      return consChar (Char.ofNat unit) (← stringBody? rest)
  | '\\' :: c :: rest => do
    let escaped ← shortEscape? c
    return consChar escaped (← stringBody? rest)
  | c :: rest => do
    guard (0x20 ≤ c.toNat && c != '\\')
    return consChar c (← stringBody? rest)

/-- The string after an opening quote. -/
def quoted? (cs : List Char) : Option (Option String × List Char) :=
  (stringBody? cs).map fun (text, rest) => (text.map String.ofList, rest)

/-! ### Values -/

/-- Read a fixed word. -/
def word? (word : List Char) (value : Tree) (cs : List Char) : Option (Tree × List Char) :=
  if word.isPrefixOf cs then some (value, cs.drop word.length) else none

mutual

/-- Read one value, leading blanks skipped. -/
def parseValue? : Nat → List Char → Option (Tree × List Char)
  | 0, _ => none
  | fuel + 1, cs =>
    match skipBlanks cs with
    | '"' :: rest => (quoted? rest).map fun (s, rest) => (.string s, rest)
    | '[' :: rest =>
      match skipBlanks rest with
      | ']' :: rest => some (.array [], rest)
      | rest => (parseItems? fuel rest).map fun (l, rest) => (.array l, rest)
    | '{' :: rest =>
      match skipBlanks rest with
      | '}' :: rest => some (.object [], rest)
      | rest => (parseMembers? fuel rest).map fun (l, rest) => (.object l, rest)
    | 'n' :: rest => word? ['u', 'l', 'l'] .null rest
    | 't' :: rest => word? ['r', 'u', 'e'] (.bool true) rest
    | 'f' :: rest => word? ['a', 'l', 's', 'e'] (.bool false) rest
    | '-' :: rest => magnitude? true rest
    | rest => magnitude? false rest

/-- Read items up to the closing bracket. -/
def parseItems? : Nat → List Char → Option (List Tree × List Char)
  | 0, _ => none
  | fuel + 1, cs => do
    let (item, rest) ← parseValue? fuel cs
    match skipBlanks rest with
    | ',' :: rest =>
      let (items, rest) ← parseItems? fuel rest
      return (item :: items, rest)
    | ']' :: rest => return ([item], rest)
    | _ => none

/-- Read members up to the closing brace. -/
def parseMembers? : Nat → List Char → Option (List (Option String × Tree) × List Char)
  | 0, _ => none
  | fuel + 1, cs =>
    match skipBlanks cs with
    | '"' :: rest => do
      let (key, rest) ← quoted? rest
      match skipBlanks rest with
      | ':' :: rest =>
        let (value, rest) ← parseValue? fuel rest
        match skipBlanks rest with
        | ',' :: rest =>
          let (members, rest) ← parseMembers? fuel rest
          return ((key, value) :: members, rest)
        | '}' :: rest => return ([(key, value)], rest)
        | _ => none
      | _ => none
    | _ => none

end

/-- The document a whole text writes. -/
def Tree.parse? (text : String) : Option Tree := do
  let cs := text.toList
  let (tree, rest) ← parseValue? (2 * cs.length + 2) cs
  guard (skipBlanks rest).isEmpty
  return tree

/-- The deepest nesting of a value that is read in full. -/
def maxDepth : Nat := 127

/-- The value a document denotes, if it is not nested too deeply. -/
def Tree.json? (tree : Tree) : Option Json := do
  guard (tree.depth ≤ maxDepth)
  tree.value?

/-- The value a whole text denotes. -/
def parse? (text : String) : Option Json :=
  (Tree.parse? text).bind Tree.json?

end BucketOperator.Json
