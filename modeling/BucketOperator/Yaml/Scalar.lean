import BucketOperator.Yaml.Source

/-!
# YAML scalars

How the text of a scalar is read in each of its styles. Line breaks inside plain and quoted
scalars fold: one break becomes a blank, further ones are kept.
-/

namespace BucketOperator.Yaml

/-- Text read so far, with the blanks and breaks since its last visible character. -/
structure Folding where
  /-- The text in reverse. -/
  text : List Char
  /-- Blanks on the current line, in reverse. -/
  blanks : List Char
  /-- The first break, if any came before the escaped end of a line. -/
  firstBreak : Option Char
  /-- The other breaks, in reverse. -/
  breaks : List Char
  /-- Whether a line has ended since the last visible character. -/
  lineEnded : Bool
  deriving Inhabited

namespace Folding

def empty : Folding := ⟨[], [], none, [], false⟩

/-- Settle pending blanks and breaks before more text. -/
def settle (f : Folding) : Folding :=
  let text :=
    if f.lineEnded then
      match f.firstBreak with
      | some '\n' => if f.breaks.isEmpty then ' ' :: f.text else f.breaks ++ f.text
      | first => f.breaks ++ (first.toList ++ f.text)
    else f.blanks ++ f.text
  { empty with text }

/-- Add a visible character. -/
def push (f : Folding) (c : Char) : Folding :=
  let f := f.settle
  { f with text := c :: f.text }

/-- Add a blank; at the start of a line it counts as indentation. -/
def blank (f : Folding) (c : Char) : Folding :=
  if f.lineEnded then f else { f with blanks := c :: f.blanks }

/-- Add a line break. -/
def lineBreak (f : Folding) (c : Char) : Folding :=
  if f.lineEnded then { f with breaks := c :: f.breaks }
  else { f with blanks := [], firstBreak := some c, lineEnded := true }

/-- Drop the break of a line that ends in a backslash. -/
def joinLine (f : Folding) : Folding := { f.settle with lineEnded := true }

/-- Whether a visible character came last. -/
def isSettled (f : Folding) : Bool := f.blanks.isEmpty && !f.lineEnded

def result (f : Folding) : String := String.ofList f.text.reverse

end Folding

/-! ### Plain scalars -/

/-- Whether the text of a plain scalar ends before this character of a word. -/
def endsPlain (inFlow : Bool) (c next : Char) : Bool :=
  (c == ':' && isGap next) || (inFlow && [',', '[', ']', '{', '}'].contains c)

/-- A colon that can be neither text nor an indicator. -/
def isStrayColon (inFlow : Bool) (c next : Char) : Bool :=
  inFlow && c == ':' && [',', '?', '[', ']', '{', '}'].contains next

/-- Read a plain scalar whose continuation lines are indented by at least `indent`. The flag tells
whether a line has ended after it. -/
def readPlain? (inFlow : Bool) (indent : Nat) (start : Bool) (f : Folding) :
    Source → Option (String × Bool × Source)
  | [] => some (f.result, f.lineEnded, [])
  | spot :: rest =>
    let c := spot.char
    if isBlank c then
      if f.lineEnded && spot.place.column < indent && c == '\t' then none
      else readPlain? inFlow indent false (f.blank c) rest
    else if isBreak c then readPlain? inFlow indent false (f.lineBreak c) rest
    else
      let isFirst := start || !f.isSettled
      let isOutside := !inFlow && spot.place.column < indent && !start
      if c == endMark
          || (isFirst && (isOutside || Source.atDocumentMark (spot :: rest) || c == '#')) then
        some (f.result, f.lineEnded, spot :: rest)
      else if isStrayColon inFlow c (Source.peek rest) then none
      else if endsPlain inFlow c (Source.peek rest) then some (f.result, f.lineEnded, spot :: rest)
      else readPlain? inFlow indent false (f.push c) rest

/-! ### Quoted scalars -/

/-- What a character after a backslash stands for, or how many hexadecimal digits follow it. -/
def escape? : Char → Option (Char ⊕ Nat)
  | '0' => some (.inl '\x00')
  | 'a' => some (.inl '\x07')
  | 'b' => some (.inl '\x08')
  | 't' => some (.inl '\t')
  | '\t' => some (.inl '\t')
  | 'n' => some (.inl '\n')
  | 'v' => some (.inl '\x0b')
  | 'f' => some (.inl '\x0c')
  | 'r' => some (.inl '\r')
  | 'e' => some (.inl '\x1b')
  | ' ' => some (.inl ' ')
  | '"' => some (.inl '"')
  | '/' => some (.inl '/')
  | '\\' => some (.inl '\\')
  | 'N' => some (.inl (Char.ofNat 0x85))
  | '_' => some (.inl (Char.ofNat 0xA0))
  | 'L' => some (.inl lineSeparator)
  | 'P' => some (.inl paragraphSeparator)
  | 'x' => some (.inr 2)
  | 'u' => some (.inr 4)
  | 'U' => some (.inr 8)
  | _ => none

/-- The value of a hexadecimal digit. -/
def hexValue? (c : Char) : Option Nat :=
  if c.isDigit then some (c.toNat - '0'.toNat)
  else if 'a' ≤ c && c ≤ 'f' then some (c.toNat - 'a'.toNat + 10)
  else if 'A' ≤ c && c ≤ 'F' then some (c.toNat - 'A'.toNat + 10)
  else none

/-- The character with a code, unless the code is half of a pair or too large. -/
def codeChar? (n : Nat) : Option Char :=
  if n < 0xD800 || (0xDFFF < n && n ≤ 0x10FFFF) then some (Char.ofNat n) else none

/-- Where a reader of a quoted scalar stands. -/
inductive QuotedMode where
  | text
  /-- After a backslash. -/
  | escape
  /-- Inside a code with so many digits to come. -/
  | code (digits value : Nat)
  /-- After a quote between single quotes that may be doubled. -/
  | quote

/-- Read up to the closing quote. -/
def readQuoted? (quote : Char) : QuotedMode → Folding → Source → Option (String × Source)
  | .quote, f, [] => some (f.result, [])
  | _, _, [] => none
  | .text, f, spot :: rest =>
    let c := spot.char
    if Source.atDocumentMark (spot :: rest) || c == endMark then none
    else if isBlank c then readQuoted? quote .text (f.blank c) rest
    else if isBreak c then readQuoted? quote .text (f.lineBreak c) rest
    else if c == quote then
      if quote == '"' then some (f.settle.result, rest) else readQuoted? quote .quote f.settle rest
    else if quote == '"' && c == '\\' then readQuoted? quote .escape f.settle rest
    else readQuoted? quote .text (f.push c) rest
  | .quote, f, spot :: rest =>
    if spot.char == quote then readQuoted? quote .text (f.push quote) rest
    else some (f.result, spot :: rest)
  | .escape, f, spot :: rest =>
    if isBreak spot.char then readQuoted? quote .text f.joinLine rest
    else
      match escape? spot.char with
      | some (.inl c) => readQuoted? quote .text (f.push c) rest
      | some (.inr digits) => readQuoted? quote (.code digits 0) f rest
      | none => none
  | .code digits value, f, spot :: rest =>
    match hexValue? spot.char with
    | none => none
    | some d =>
      let value := value * 16 + d
      if digits ≤ 1 then
        match codeChar? value with
        | some c => readQuoted? quote .text (f.push c) rest
        | none => none
      else readQuoted? quote (.code (digits - 1) value) f rest

/-! ### Block scalars -/

/-- What becomes of the line breaks at the end of a block scalar. -/
inductive Chomping where
  | strip
  | clip
  | keep
  deriving DecidableEq

/-- The header of a block scalar: its chomping and its indentation, if given. -/
structure BlockHeader where
  chomping : Chomping
  indentation : Option Nat

/-- A chomping indicator. -/
def chomping? : Char → Option Chomping
  | '+' => some .keep
  | '-' => some .strip
  | _ => none

/-- The indicators of a header in either order. -/
def readHeader? (s : Source) : Option (BlockHeader × Source) :=
  let digit? (s : Source) : Option (Option Nat × Source) :=
    if s.peek == '0' then none
    else if s.peek.isDigit then some (some (s.peek.toNat - '0'.toNat), s.tail)
    else some (none, s)
  match chomping? s.peek with
  | some chomping => (digit? s.tail).map fun (indentation, s) => (⟨chomping, indentation⟩, s)
  | none => do
    let (indentation, s) ← digit? s
    match indentation, chomping? s.peek with
    | some n, some chomping => return (⟨chomping, some n⟩, s.tail)
    | indentation, _ => return (⟨.clip, indentation⟩, s)

/-- Skip indentation and collect the breaks of empty lines, in reverse. An unknown indentation is
found as the widest line; a tab may not take its place. -/
def readEmptyLines? (indent : Option Nat) (widest : Nat) (breaks : List Char) :
    Source → Option (Nat × List Char × Source)
  | [] => some (widest, breaks, [])
  | spot :: rest =>
    let column := spot.place.column
    let inside := indent.all (column < ·)
    if inside && spot.char == ' ' then readEmptyLines? indent widest breaks rest
    else
      let widest := max widest column
      if inside && spot.char == '\t' then none
      else if isBreak spot.char then readEmptyLines? indent widest (spot.char :: breaks) rest
      else some (widest, breaks, spot :: rest)

/-- What is read of a block scalar: its text in reverse and how its last lines ended. -/
structure BlockText where
  text : List Char
  lastBreak : Option Char
  emptyLines : List Char
  startsBlank : Bool

/-- Add a line to a block scalar; a folded scalar joins lines that do not start with a blank. -/
def BlockText.push (folded : Bool) (b : BlockText) (line : List Char) (startsBlank : Bool) :
    List Char :=
  let joined :=
    if folded && b.lastBreak == some '\n' && !b.startsBlank && !startsBlank then
      if b.emptyLines.isEmpty then ' ' :: b.text else b.text
    else b.lastBreak.toList ++ b.text
  line.reverse ++ (b.emptyLines ++ joined)

/-- Read the lines of a block scalar that are indented by exactly `indent`. -/
def readLines? (folded : Bool) (indent : Nat) :
    Nat → BlockText → Source → Option (BlockText × Source)
  | 0, _, _ => none
  | fuel + 1, b, s =>
    if s.column == indent && s.peek != endMark then do
      let startsBlank := isBlank s.peek
      let (line, rest) := s.spanChars fun c => !isBreak c && c != endMark
      let text := b.push folded line startsBlank
      let (lastBreak, rest) :=
        if isBreak rest.peek then (some rest.peek, rest.tail) else (none, rest)
      let (_, emptyLines, rest) ← readEmptyLines? (some indent) 0 [] rest
      readLines? folded indent fuel ⟨text, lastBreak, emptyLines, startsBlank⟩ rest
    else some (b, s)

/-- Read a block scalar from behind its indicator; `parent` is the indentation around it. -/
def readBlock? (folded : Bool) (parent : Option Nat) (s : Source) : Option (String × Source) := do
  let (header, s) ← readHeader? s
  let s ← s.skipHeaderEnd?
  let given := header.indentation.map (parent.getD 0 + ·)
  let (widest, breaks, s) ← readEmptyLines? given 0 [] s
  let least := match parent with
    | some n => n + 1
    | none => 1
  let indent := given.getD (max widest (max least 1))
  let (b, s) ← readLines? folded indent (s.length + 1) ⟨[], none, breaks, false⟩ s
  let text := match header.chomping with
    | .strip => b.text
    | .clip => b.lastBreak.toList ++ b.text
    | .keep => b.emptyLines ++ (b.lastBreak.toList ++ b.text)
  return (String.ofList text.reverse, s)

end BucketOperator.Yaml
