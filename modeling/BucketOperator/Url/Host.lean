import BucketOperator.Net.Address
import BucketOperator.Url.Percent

/-!
# Hosts of URLs

A host of a web scheme is an address or a domain name in lower case. A name with characters
outside ASCII is written in its ASCII form, label by label. Other schemes keep their host as
written.
-/

namespace BucketOperator.Url

/-- Why a text is not a URL. -/
inductive ParseError where
  | relativeWithoutBase
  | relativeWithOpaqueBase
  | emptyHost
  | invalidPort
  | invalidIpv4
  | invalidIpv6
  | invalidDomain
  | invalidHostCharacter
  deriving DecidableEq, Repr

def ParseError.message : ParseError → String
  | .relativeWithoutBase => "relative URL without a base"
  | .relativeWithOpaqueBase => "relative URL with a cannot-be-a-base base"
  | .emptyHost => "empty host"
  | .invalidPort => "invalid port number"
  | .invalidIpv4 => "invalid IPv4 address"
  | .invalidIpv6 => "invalid IPv6 address"
  | .invalidDomain => "invalid international domain name"
  | .invalidHostCharacter => "invalid domain character"

/-! ### The ASCII form of a label -/

/-- The digit of a value below 36. -/
def labelDigit (n : Nat) : Char :=
  if n < 26 then Char.ofNat ('a'.toNat + n) else Char.ofNat ('0'.toNat + (n - 26))

/-- Adapt the bias after a delta was written. -/
def adapt (delta count : Nat) (first : Bool) : Nat :=
  let delta := if first then delta / 700 else delta / 2
  let delta := delta + delta / count
  go 8 delta 0
where
  go : Nat → Nat → Nat → Nat
    | 0, delta, k => k + 36 * delta / (delta + 38)
    | fuel + 1, delta, k =>
      if 455 < delta then go fuel (delta / 35) (k + 36) else k + 36 * delta / (delta + 38)

/-- A delta as digits of a variable base. -/
def deltaDigits (bias : Nat) : Nat → Nat → Nat → List Char
  | 0, q, _ => [labelDigit (q % 36)]
  | fuel + 1, q, k =>
    let threshold := if k ≤ bias then 1 else if bias + 26 ≤ k then 26 else k - bias
    if q < threshold then [labelDigit q]
    else
      labelDigit (threshold + (q - threshold) % (36 - threshold)) ::
        deltaDigits bias fuel ((q - threshold) / (36 - threshold)) (k + 36)

/-- The state of writing the code points of a label in increasing order. -/
structure LabelState where
  delta : Nat
  bias : Nat
  handled : Nat
  output : List Char

/-- Write every occurrence of one code point, passing over the label once. -/
def writePoint (basic : Nat) (point : Nat) (label : List Nat) (s : LabelState) : LabelState :=
  label.foldl
    (fun s c =>
      if c < point then { s with delta := s.delta + 1 }
      else if c = point then
        { delta := 0
          bias := adapt s.delta (s.handled + 1) (s.handled == basic)
          handled := s.handled + 1
          output := s.output ++ deltaDigits s.bias 12 s.delta 36 }
      else s)
    s

/-- The code points of a label beyond ASCII, in increasing order and each once. -/
def highPoints (label : List Nat) : List Nat :=
  ((label.filter (0x80 ≤ ·)).mergeSort (· ≤ ·)).eraseDups

/-- The ASCII form of a label. -/
def asciiLabel (label : List Char) : List Char :=
  if label.all fun c => c.toNat < 0x80 then label
  else
    let points := label.map Char.toNat
    let basic := label.filter fun c => c.toNat < 0x80
    let start : LabelState :=
      { delta := 0, bias := 72, handled := basic.length
        output := if basic.isEmpty then [] else basic ++ ['-'] }
    let step := fun (last, s) point =>
      let s := { s with delta := s.delta + (point - last) * (s.handled + 1) }
      let s := writePoint basic.length point points s
      (point + 1, { s with delta := s.delta + 1 })
    ['x', 'n', '-', '-'] ++ ((highPoints points).foldl step (0x80, start)).2.output

/-- Characters that no domain name may hold. -/
def isForbidden (c : Char) : Bool :=
  c.toNat ≤ 0x20 || c.toNat == 0x7F ||
    ['#', '/', ':', '<', '>', '?', '@', '[', '\\', ']', '^', '|', '%'].contains c

/-! ### Addresses written as hosts -/

/-- A number in decimal, octal or hexadecimal. -/
def addressNumber? (cs : List Char) : Option Nat :=
  match cs with
  | '0' :: c :: rest =>
    if c == 'x' || c == 'X' then
      (rest.mapM hexValue?).map fun ds => ds.foldl (fun n d => n * 16 + d) 0
    else if (c :: rest).all fun d => '0' ≤ d && d ≤ '7' then
      some ((c :: rest).foldl (fun n d => n * 8 + (d.toNat - '0'.toNat)) 0)
    else none
  | cs => Net.decimal? cs

/-- The parts of a name, one empty part at the end left out. -/
def nameParts (cs : List Char) : List (List Char) :=
  let parts := cs.splitOn '.'
  if 1 < parts.length && parts.getLast? == some [] then parts.dropLast else parts

/-- Whether the last part of a name is a number, so that the name is an address. -/
def endsInNumber (cs : List Char) : Bool :=
  match (nameParts cs).getLast? with
  | some last => (!last.isEmpty && last.all Char.isDigit) ||
      (match last with
        | '0' :: x :: rest => (x == 'x' || x == 'X') && rest.all fun c => (hexValue? c).isSome
        | _ => false)
  | none => false

/-- An address of up to four numbers, the last filling the remaining bytes. -/
def looseIpv4? (cs : List Char) : Option (List Nat) := do
  let numbers ← (nameParts cs).mapM addressNumber?
  guard (1 ≤ numbers.length && numbers.length ≤ 4)
  let front := numbers.dropLast
  let last ← numbers.getLast?
  guard (front.all (· ≤ 255) && last < Nat.pow 256 (5 - numbers.length))
  let value := front.zipIdx.foldl (fun v (n, i) => v + n * Nat.pow 256 (3 - i)) last
  return [value / Nat.pow 256 3 % 256, value / Nat.pow 256 2 % 256, value / 256 % 256, value % 256]

/-- The bytes as text, if they are text. -/
def utf8Text? (bytes : List UInt8) : Option (List Char) :=
  (String.fromUTF8? ⟨bytes.toArray⟩).map String.toList

/-- An address in brackets. -/
def bracketed (cs : List Char) : Except ParseError String :=
  match cs.getLast? with
  | some ']' =>
    match Net.ipv6? cs.dropLast with
    | some groups => .ok ("[" ++ Net.compressIpv6 groups ++ "]")
    | none => .error .invalidIpv6
  | _ => .error .invalidIpv6

/-- The host of a web scheme. -/
def webHost (cs : List Char) : Except ParseError String :=
  match cs with
  | '[' :: rest => bracketed rest
  | cs =>
    match utf8Text? (decodeBytes cs) with
    | none => .error .invalidDomain
    | some text =>
      let labels := (text.splitOn '.').map fun l => asciiLabel (l.map Char.toLower)
      let name := ".".toList.intercalate labels
      if name.any isForbidden then .error .invalidDomain
      else if name.isEmpty then .error .emptyHost
      else if endsInNumber name then
        match looseIpv4? name with
        | some parts => .ok (Net.renderIpv4 parts)
        | none => .error .invalidIpv4
      else .ok (String.ofList name)

/-- The host of any other scheme. -/
def opaqueHost (cs : List Char) : Except ParseError String :=
  match cs with
  | '[' :: rest => bracketed rest
  | cs =>
    if cs.any fun c => c != '%' && isForbidden c then .error .invalidHostCharacter
    else .ok (String.ofList (encodeChars isControl cs))

end BucketOperator.Url
