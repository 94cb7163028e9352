/-!
# YAML source text

A source is a list of characters, each with its place. A carriage return, a line feed, both in
this order, and a next-line character all count as one line feed.
-/

namespace BucketOperator.Yaml

/-- A place in a source: characters before it, its line, and its column. -/
structure Place where
  index : Nat
  line : Nat
  column : Nat
  deriving DecidableEq, Repr, Inhabited

/-- A character at its place. -/
structure Spot where
  char : Char
  place : Place
  deriving DecidableEq, Repr, Inhabited

/-- What is left of a source. It is followed by a spot with the null character, which no source
contains, so the place of the end is known. -/
abbrev Source := List Spot

/-- Whether a character may occur in a source. -/
def isAllowed (c : Char) : Bool :=
  let n := c.toNat
  n == 0x09 || n == 0x0A || n == 0x0D || (0x20 ≤ n && n ≤ 0x7E) || n == 0x85
    || (0xA0 ≤ n && n ≤ 0xD7FF) || (0xE000 ≤ n && n ≤ 0xFFFD) || 0x10000 ≤ n

def endMark : Char := '\x00'

def lineSeparator : Char := Char.ofNat 0x2028

def paragraphSeparator : Char := Char.ofNat 0x2029

def byteOrderMark : Char := Char.ofNat 0xFEFF

/-- Whether a line ends at this character. -/
def isBreak (c : Char) : Bool := c == '\n' || c == lineSeparator || c == paragraphSeparator

def isBlank (c : Char) : Bool := c == ' ' || c == '\t'

/-- Whether a word ends at this character. -/
def isGap (c : Char) : Bool := isBlank c || isBreak c || c == endMark

/-- The characters of anchors, tag handles and directive names. -/
def isNameChar (c : Char) : Bool := c.isAlphanum || c == '_' || c == '-'

/-- Give every character its place. -/
def placed (place : Place) : List Char → Source
  | [] => [⟨endMark, place⟩]
  | '\r' :: '\n' :: rest => ⟨'\n', place⟩ :: placed ⟨place.index + 2, place.line + 1, 0⟩ rest
  | c :: rest =>
    let c := if c == '\r' || c.toNat == 0x85 then '\n' else c
    ⟨c, place⟩ ::
      placed (if isBreak c then ⟨place.index + 1, place.line + 1, 0⟩
        else ⟨place.index + 1, place.line, place.column + 1⟩) rest

/-- The source of a text; `none` when a control character occurs. -/
def source? (text : String) : Option Source :=
  if text.toList.all isAllowed then some (placed ⟨0, 0, 0⟩ text.toList) else none

namespace Source

/-- The next character. -/
def peek (s : Source) : Char :=
  match s with
  | spot :: _ => spot.char
  | [] => endMark

/-- The character after the next. -/
def second (s : Source) : Char := peek s.tail

def place (s : Source) : Place :=
  match s with
  | spot :: _ => spot.place
  | [] => default

def column (s : Source) : Nat := s.place.column

/-- The characters up to the first that fails a test, and the rest. -/
def spanChars (p : Char → Bool) (s : Source) : List Char × Source :=
  let (taken, rest) := s.span fun spot => p spot.char
  (taken.map (·.char), rest)

def skipBlanks (s : Source) : Source := s.dropWhile fun spot => isBlank spot.char

/-- Skip to the end of the line. -/
def skipLine (s : Source) : Source :=
  s.dropWhile fun spot => !isBreak spot.char && spot.char != endMark

/-- Skip a comment, if one starts here. -/
def skipComment (s : Source) : Source :=
  if s.peek == '#' then s.skipLine else s

/-- Skip what may follow a header on its line, and its end. -/
def skipHeaderEnd? (s : Source) : Option Source :=
  let s := s.skipBlanks.skipComment
  if isBreak s.peek then some s.tail
  else if s.peek == endMark then some s
  else none

/-- Whether the line starts with three dashes or three dots that stand alone. -/
def atDocumentMark (s : Source) : Bool :=
  s.column == 0 &&
    (match s.take 4 with
      | [a, b, c, d] =>
        ((a.char == '-' && b.char == '-' && c.char == '-')
          || (a.char == '.' && b.char == '.' && c.char == '.')) && isGap d.char
      | _ => false)

end Source

end BucketOperator.Yaml
