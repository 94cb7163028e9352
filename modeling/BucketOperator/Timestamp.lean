/-!
# Timestamps

An instant is written as a calendar date, a time of day and an offset. Only whether a text is
such an instant matters here, so the reader is a predicate.
-/

namespace BucketOperator.Timestamp

/-- The value of exactly `count` decimal digits, and the rest. -/
def digits? : Nat → List Char → Option (Nat × List Char)
  | 0, cs => some (0, cs)
  | count + 1, c :: rest => do
    guard c.isDigit
    let (n, rest) ← digits? count rest
    return ((c.toNat - '0'.toNat) * 10 ^ count + n, rest)
  | _ + 1, [] => none

def isLeapYear (year : Int) : Bool :=
  year % 4 == 0 && (year % 100 != 0 || year % 400 == 0)

def daysInMonth (year : Int) (month : Nat) : Nat :=
  if month == 2 then (if isLeapYear year then 29 else 28)
  else if month == 4 || month == 6 || month == 9 || month == 11 then 30
  else 31

/-- A year of four digits, or of six digits with a sign. -/
def year? : List Char → Option (Int × List Char)
  | '+' :: rest => (digits? 6 rest).map fun (n, rest) => ((n : Int), rest)
  | '-' :: rest => do
    let (n, rest) ← digits? 6 rest
    guard (n != 0)
    return (-(n : Int), rest)
  | rest => (digits? 4 rest).map fun (n, rest) => ((n : Int), rest)

/-- A date, its parts either all separated by dashes or not at all. -/
def date? (cs : List Char) : Option (List Char) := do
  let (year, rest) ← year? cs
  let (month, day, rest) ← (match rest with
    | '-' :: rest => do
      let (month, rest) ← digits? 2 rest
      match rest with
      | '-' :: rest =>
        let (day, rest) ← digits? 2 rest
        return (month, day, rest)
      | _ => none
    | rest => do
      let (month, rest) ← digits? 2 rest
      let (day, rest) ← digits? 2 rest
      return (month, day, rest) : Option (Nat × Nat × List Char))
  guard (-9999 ≤ year && year ≤ 9999 && 1 ≤ month && month ≤ 12)
  guard (1 ≤ day && day ≤ daysInMonth year month)
  return rest

/-- A fraction of a second, of one to nine digits, if there is one. -/
def fraction? : List Char → Option (List Char)
  | c :: rest =>
    if c == '.' || c == ',' then
      let (ds, rest) := rest.span Char.isDigit
      if 1 ≤ ds.length && ds.length ≤ 9 then some rest else none
    else some (c :: rest)
  | [] => some []

/-- Two digits that may follow, behind a colon when the parts are separated by colons. -/
def part? (separated : Bool) (limit : Nat) (cs : List Char) : Option (Bool × List Char) :=
  match separated, cs with
  | true, ':' :: rest => do
    let (n, rest) ← digits? 2 rest
    guard (n ≤ limit)
    return (true, rest)
  | true, rest => some (false, rest)
  | false, c :: rest =>
    if c.isDigit then do
      let (n, rest) ← digits? 2 (c :: rest)
      guard (n ≤ limit)
      return (true, rest)
    else some (false, c :: rest)
  | false, [] => some (false, [])

/-- A time of day; minutes and seconds may be left out. -/
def time? (cs : List Char) : Option (List Char) := do
  let (hour, rest) ← digits? 2 cs
  guard (hour ≤ 23)
  let separated := rest.head? == some ':'
  let (more, rest) ← part? separated 59 rest
  if more then
    let (more, rest) ← part? separated 60 rest
    if more then fraction? rest else return rest
  else return rest

/-- The offset from universal time: `Z`, or a sign and hours, minutes and seconds. -/
def offset? : List Char → Option (List Char)
  | c :: rest =>
    if c == 'Z' || c == 'z' then some rest
    else if c == '+' || c == '-' then do
      let (hour, rest) ← digits? 2 rest
      guard (hour ≤ 25)
      let separated := rest.head? == some ':'
      let (more, rest) ← part? separated 59 rest
      if more then
        let (more, rest) ← part? separated 59 rest
        if more then fraction? rest else return rest
      else return rest
    else none
  | [] => none

/-- Whether a text is a date, a time and an offset, and nothing else. -/
def isValid (text : String) : Bool :=
  match date? text.toList with
  | some (c :: rest) =>
    (c == 'T' || c == 't' || c == ' ') && ((time? rest).bind offset? == some [])
  | _ => false

end BucketOperator.Timestamp
