/-!
# Network addresses

IPv4 addresses are four numbers and IPv6 addresses eight groups. In the text of an IPv6 address
the longest run of zero groups, if it has two or more, is left out.
-/

namespace BucketOperator.Net

/-- The value of a hexadecimal digit. -/
def hexGroupDigit? (c : Char) : Option Nat :=
  if c.isDigit then some (c.toNat - '0'.toNat)
  else if 'a' ≤ c && c ≤ 'f' then some (c.toNat - 'a'.toNat + 10)
  else if 'A' ≤ c && c ≤ 'F' then some (c.toNat - 'A'.toNat + 10)
  else none

/-- The number that decimal digits write, if there is at least one and nothing else. -/
def decimal? (cs : List Char) : Option Nat :=
  if !cs.isEmpty && cs.all Char.isDigit then
    some (cs.foldl (fun n d => n * 10 + (d.toNat - '0'.toNat)) 0)
  else none

/-! ### IPv4 -/

/-- One part of a dotted address: at most 255, without a leading zero. -/
def octet? (cs : List Char) : Option Nat := do
  let n ← decimal? cs
  guard (cs.length ≤ 3 && n ≤ 255 && (cs.length == 1 || cs.head? != some '0'))
  return n

/-- Four parts separated by dots. -/
def ipv4? (cs : List Char) : Option (List Nat) := do
  let parts := cs.splitOn '.'
  guard (parts.length == 4)
  parts.mapM octet?

/-- The dotted form. -/
def renderIpv4 (parts : List Nat) : String :=
  ".".intercalate (parts.map toString)

/-! ### IPv6 -/

/-- One group: one to four hexadecimal digits. -/
def group? (cs : List Char) : Option Nat := do
  guard (!cs.isEmpty && cs.length ≤ 4)
  let digits ← cs.mapM hexGroupDigit?
  return digits.foldl (fun n d => n * 16 + d) 0

/-- Groups separated by colons; the last may be a dotted IPv4 address if it is allowed here. -/
def groups? (allowDotted : Bool) : List (List Char) → Option (List Nat)
  | [] => some []
  | [last] =>
    if last.contains '.' then do
      guard allowDotted
      match ← ipv4? last with
      | [a, b, c, d] => return [a * 256 + b, c * 256 + d]
      | _ => none
    else (group? last).map ([·])
  | part :: rest => do
    let g ← group? part
    let gs ← groups? allowDotted rest
    return g :: gs

/-- The groups of a text that may be empty. -/
def groupsOf? (allowDotted : Bool) (cs : List Char) : Option (List Nat) :=
  if cs.isEmpty then some [] else groups? allowDotted (cs.splitOn ':')

/-- Split at the first pair of colons. -/
def splitGap : List Char → Option (List Char × List Char)
  | ':' :: ':' :: rest => some ([], rest)
  | c :: rest => (splitGap rest).map fun (before, after) => (c :: before, after)
  | [] => none

/-- Eight groups, a pair of colons standing for at least one group of zeros. -/
def ipv6? (cs : List Char) : Option (List Nat) := do
  match splitGap cs with
  | none =>
    let groups ← groupsOf? true cs
    guard (groups.length == 8)
    return groups
  | some (before, after) =>
    let front ← groupsOf? false before
    let back ← groupsOf? true after
    guard (front.length + back.length ≤ 7)
    return front ++ List.replicate (8 - front.length - back.length) 0 ++ back

/-- Length of the run of zero groups at the front. -/
def zeroRun (groups : List Nat) : Nat := (groups.takeWhile (· == 0)).length

/-- Start and length of the first longest run of zero groups. -/
def longestZeroRun (groups : List Nat) : Nat × Nat :=
  (List.range groups.length).foldl
    (fun best i => let n := zeroRun (groups.drop i); if best.2 < n then (i, n) else best) (0, 0)

/-- Groups in hexadecimal with colons between them. -/
def renderGroups (groups : List Nat) : String :=
  ":".intercalate (groups.map fun g => String.ofList (Nat.toDigits 16 g))

/-- The compressed form, all groups in hexadecimal. -/
def compressIpv6 (groups : List Nat) : String :=
  let (start, length) := longestZeroRun groups
  if length < 2 then renderGroups groups
  else renderGroups (groups.take start) ++ "::" ++ renderGroups (groups.drop (start + length))

/-- The compressed form; an address that stands for an IPv4 address ends in its dotted form. -/
def renderIpv6 (groups : List Nat) : String :=
  match groups with
  | [0, 0, 0, 0, 0, 0xffff, g, h] =>
    "::ffff:" ++ renderIpv4 [g / 256, g % 256, h / 256, h % 256]
  | groups => compressIpv6 groups

/-! ### Socket addresses -/

/-- An address with a port; an IPv6 address may name a scope. -/
inductive SocketAddress where
  | v4 (parts : List Nat) (port : Nat)
  | v6 (groups : List Nat) (scope : Nat) (port : Nat)
  deriving DecidableEq, Repr

namespace SocketAddress

/-- A decimal number that may have leading zeros, up to a limit. -/
def bounded? (limit : Nat) (cs : List Char) : Option Nat := do
  let n ← decimal? cs
  guard (n ≤ limit)
  return n

/-- Split at the last occurrence of a character. -/
def splitLast (c : Char) (cs : List Char) : Option (List Char × List Char) :=
  match cs.reverse.span (· != c) with
  | (after, _ :: before) => some (before.reverse, after.reverse)
  | (_, []) => none

/-- `a.b.c.d:port`, or an IPv6 address and perhaps a scope in brackets before the port. -/
def parse? (text : String) : Option SocketAddress := do
  let (host, port) ← splitLast ':' text.toList
  let port ← bounded? 65535 port
  match host with
  | '[' :: rest =>
    let (inside, after) ← splitLast ']' rest
    guard after.isEmpty
    match splitLast '%' inside with
    | some (address, scope) =>
      return .v6 (← ipv6? address) (← bounded? (Nat.pow 2 32 - 1) scope) port
    | none => return .v6 (← ipv6? inside) 0 port
  | host => return .v4 (← ipv4? host) port

def render : SocketAddress → String
  | .v4 parts port => renderIpv4 parts ++ ":" ++ toString port
  | .v6 groups scope port =>
    "[" ++ renderIpv6 groups ++ (if scope = 0 then "" else "%" ++ toString scope) ++ "]:" ++
      toString port

end SocketAddress

end BucketOperator.Net
