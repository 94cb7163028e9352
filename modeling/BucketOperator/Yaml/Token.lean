import BucketOperator.Yaml.Scalar

/-!
# YAML tokens

A source is cut into tokens. Block structure comes from indentation: a column further right than
the current one opens a collection, and a column further left closes those it leaves. A mapping
key is recognised only at the colon behind it, so a token that may be a key is remembered, and the
key token is put in front of it later.
-/

namespace BucketOperator.Yaml

inductive Token where
  | version (major minor : Nat)
  | tagDirective (handle stem : String)
  | documentStart
  | documentEnd
  | streamEnd
  | blockSequence
  | blockMapping
  | blockEnd
  | sequenceOpen
  | sequenceClose
  | mappingOpen
  | mappingClose
  | blockEntry
  | flowEntry
  | key
  | value
  | alias (name : String)
  | anchor (name : String)
  /-- A tag; the handle is empty when the suffix is the whole tag. -/
  | tag (handle suffix : String)
  | scalar (text : String) (plain : Bool)
  deriving DecidableEq, Repr, Inhabited

/-- A token that a colon may turn into a mapping key. -/
structure PossibleKey where
  /-- How many tokens come before it. -/
  position : Nat
  place : Place
  /-- Whether anything but a key would break the block structure. -/
  required : Bool

/-- The state of cutting a source into tokens. -/
structure Cutter where
  tokens : Array Token
  /-- Columns of the open block collections, innermost first. -/
  indents : List Nat
  /-- The possible key of the block level and of each open flow collection, innermost first. -/
  keys : List (Option PossibleKey)
  /-- Whether a key may start here. -/
  keyAllowed : Bool

namespace Cutter

def start : Cutter := ⟨#[], [], [none], true⟩

def inFlow (t : Cutter) : Bool := t.keys.length > 1

def push (t : Cutter) (token : Token) : Cutter := { t with tokens := t.tokens.push token }

/-- The least indentation of what belongs to the innermost block. -/
def innerIndent (t : Cutter) : Nat :=
  match t.indents with
  | column :: _ => column + 1
  | [] => 0

/-! ### Possible keys -/

/-- Whether a possible key is out of reach: it is on one line and within 1024 characters. -/
def isStale (now : Place) (k : PossibleKey) : Bool :=
  k.place.line < now.line || k.place.index + 1024 < now.index

/-- Forget possible keys that are out of reach; a required one must not be. -/
def dropStale? (t : Cutter) (now : Place) : Option Cutter := do
  guard (t.keys.all fun k => k.all fun k => !(isStale now k && k.required))
  return { t with keys := t.keys.map fun k => k.filter fun k => !isStale now k }

/-- Forget the innermost possible key, which must not be required. -/
def dropKey? (t : Cutter) : Option Cutter :=
  match t.keys with
  | some k :: rest => if k.required then none else some { t with keys := none :: rest }
  | _ => some t

/-- Remember the token that starts here as a possible key. -/
def saveKey? (t : Cutter) (now : Place) : Option Cutter :=
  if t.keyAllowed then do
    let t ← t.dropKey?
    let required := !t.inFlow && t.indents.head? == some now.column
    return { t with keys := some ⟨t.tokens.size, now, required⟩ :: t.keys.tail }
  else some t

/-! ### Block structure -/

/-- Open a block collection when its column lies further right; its token goes before `position`. -/
def indent (t : Cutter) (column position : Nat) (token : Token) : Cutter :=
  if !t.inFlow && t.indents.head?.all (· < column) then
    { t with
      indents := column :: t.indents
      tokens := t.tokens.insertIdxIfInBounds position token }
  else t

/-- Close the block collections that `keep` does not keep. -/
def outdent (t : Cutter) (keep : Nat → Bool) : Cutter :=
  if t.inFlow then t
  else
    let closed := t.indents.takeWhile fun column => !keep column
    { t with
      indents := t.indents.drop closed.length
      tokens := closed.foldl (fun tokens _ => tokens.push .blockEnd) t.tokens }

/-! ### Tokens of one character -/

/-- The start of a flow collection may itself be a key. -/
def openFlow? (t : Cutter) (now : Place) (token : Token) : Option Cutter := do
  let t ← t.saveKey? now
  return { t.push token with keys := none :: t.keys, keyAllowed := true }

def closeFlow? (t : Cutter) (token : Token) : Option Cutter := do
  let t ← t.dropKey?
  let keys := if t.inFlow then t.keys.tail else t.keys
  return { t.push token with keys, keyAllowed := false }

def flowEntry? (t : Cutter) : Option Cutter := do
  let t ← t.dropKey?
  return { t.push .flowEntry with keyAllowed := true }

def blockEntry? (t : Cutter) (now : Place) : Option Cutter := do
  guard (t.inFlow || t.keyAllowed)
  let t ← (t.indent now.column t.tokens.size .blockSequence).dropKey?
  return { t.push .blockEntry with keyAllowed := true }

def explicitKey? (t : Cutter) (now : Place) : Option Cutter := do
  guard (t.inFlow || t.keyAllowed)
  let t ← (t.indent now.column t.tokens.size .blockMapping).dropKey?
  return { t.push .key with keyAllowed := !t.inFlow }

/-- A colon turns the innermost possible key into a key, or stands for an empty one. -/
def value? (t : Cutter) (now : Place) : Option Cutter :=
  match t.keys with
  | some k :: rest =>
    let t := { t with tokens := t.tokens.insertIdxIfInBounds k.position .key }
    let t := t.indent k.place.column k.position .blockMapping
    some { t.push .value with keys := none :: rest, keyAllowed := false }
  | _ => do
    guard (t.inFlow || t.keyAllowed)
    let t := t.indent now.column t.tokens.size .blockMapping
    return { t.push .value with keyAllowed := !t.inFlow }

end Cutter

/-! ### Directives, anchors and tags -/

/-- A number of a version, at most nine digits long. -/
def readVersionNumber? (s : Source) : Option (Nat × Source) := do
  let (digits, s) := s.spanChars Char.isDigit
  guard (0 < digits.length && digits.length ≤ 9)
  return (digits.foldl (fun n d => n * 10 + (d.toNat - '0'.toNat)) 0, s)

/-- An octet written as a percent sign and two digits. -/
def readOctet? : Source → Option (Nat × Source)
  | p :: a :: b :: rest => do
    guard (p.char == '%')
    return ((← hexValue? a.char) * 16 + (← hexValue? b.char), rest)
  | _ => none

/-- The further octets of an escaped character. -/
def readTrailing? : Nat → Nat → Source → Option (Nat × Source)
  | 0, value, s => some (value, s)
  | n + 1, value, s => do
    let (octet, s) ← readOctet? s
    guard (0x80 ≤ octet && octet < 0xC0)
    readTrailing? n (value * 64 + (octet - 0x80)) s

/-- A character written as its escaped octets. -/
def readEscaped? (s : Source) : Option (Char × Source) := do
  let (octet, s) ← readOctet? s
  let (value, s) ←
    if octet < 0x80 then some (octet, s)
    else if 0xC0 ≤ octet && octet < 0xE0 then readTrailing? 1 (octet - 0xC0) s
    else if 0xE0 ≤ octet && octet < 0xF0 then readTrailing? 2 (octet - 0xE0) s
    else if 0xF0 ≤ octet && octet < 0xF8 then readTrailing? 3 (octet - 0xF0) s
    else none
  return (Char.ofNat value, s)

/-- The characters of a tag; some are allowed only between angle brackets. -/
def isTagChar (verbatim : Bool) (c : Char) : Bool :=
  isNameChar c
    || [';', '/', '?', ':', '@', '&', '=', '+', '$', '.', '%', '!', '~', '*', '\'', '(',
        ')'].contains c
    || (verbatim && [',', '[', ']'].contains c)

/-- The characters of a tag, escapes decoded. -/
def readTagChars? (verbatim : Bool) : Nat → Source → Option (List Char × Source)
  | 0, _ => none
  | fuel + 1, s =>
    if isTagChar verbatim s.peek then do
      let (c, rest) ← if s.peek == '%' then readEscaped? s else some (s.peek, s.tail)
      let (cs, rest) ← readTagChars? verbatim fuel rest
      return (c :: cs, rest)
    else some ([], s)

/-- The text of a tag behind what is already known of it; together they must not be empty. -/
def readTagText? (verbatim : Bool) (known : List Char) (s : Source) :
    Option (List Char × Source) := do
  let (cs, rest) ← readTagChars? verbatim (s.length + 1) s
  guard (!(known ++ cs).isEmpty)
  return (cs, rest)

/-- An exclamation mark, a name and perhaps another exclamation mark. -/
def readHandle? (s : Source) : Option (List Char × Source) := do
  guard (s.peek == '!')
  let (name, rest) := Source.spanChars isNameChar s.tail
  if rest.peek == '!' then return ('!' :: (name ++ ['!']), rest.tail)
  else return ('!' :: name, rest)

/-- Read a directive from behind its percent sign. -/
def readDirective? (s : Source) : Option (Token × Source) := do
  let (name, s) := s.spanChars isNameChar
  guard (!name.isEmpty && isGap s.peek)
  let (token, s) ←
    if String.ofList name == "YAML" then do
      let (major, s) ← readVersionNumber? s.skipBlanks
      guard (s.peek == '.')
      let (minor, s) ← readVersionNumber? s.tail
      some (Token.version major minor, s)
    else if String.ofList name == "TAG" then do
      let (handle, s) ← readHandle? s.skipBlanks
      guard (handle == ['!'] || handle.getLast? == some '!')
      guard (isBlank s.peek)
      let (stem, s) ← readTagText? true [] s.skipBlanks
      guard (isGap s.peek)
      some (Token.tagDirective (String.ofList handle) (String.ofList stem), s)
    else none
  let s ← s.skipHeaderEnd?
  return (token, s)

/-- The name of an anchor or alias, from behind its indicator. -/
def readAnchor? (s : Source) : Option (String × Source) := do
  let (name, s) := s.spanChars isNameChar
  guard (!name.isEmpty
    && (isGap s.peek || ['?', ':', ',', ']', '}', '%', '@', Char.ofNat 0x60].contains s.peek))
  return (String.ofList name, s)

/-- Read a tag: verbatim, with a handle, or local. -/
def readTag? (inFlow : Bool) (s : Source) : Option (Token × Source) := do
  let (token, s) ←
    if s.second == '<' then do
      let (text, s) ← readTagText? true [] (s.drop 2)
      guard (s.peek == '>')
      some (Token.tag "" (String.ofList text), s.tail)
    else do
      let (handle, s) ← readHandle? s
      if handle.length > 1 && handle.getLast? == some '!' then
        let (suffix, s) ← readTagText? false [] s
        some (Token.tag (String.ofList handle) (String.ofList suffix), s)
      else
        let (text, s) ← readTagText? false handle s
        let suffix := handle.tail ++ text
        if suffix.isEmpty then some (Token.tag "" "!", s)
        else some (Token.tag "!" (String.ofList suffix), s)
  guard (isGap (Source.peek s) || (inFlow && Source.peek s == ','))
  return (token, s)

/-! ### The whole source -/

/-- Skip blanks, comments and line breaks. A line break outside flow collections allows a key. -/
def skipToToken (inFlow : Bool) : Bool → Bool → Source → Bool × Source
  | keyAllowed, _, [] => (keyAllowed, [])
  | keyAllowed, inComment, spot :: rest =>
    let c := spot.char
    if isBreak c then skipToToken inFlow (keyAllowed || !inFlow) false rest
    else if c == endMark then (keyAllowed, spot :: rest)
    else if inComment || c == '#' then skipToToken inFlow keyAllowed true rest
    else if c == ' ' || (c == '\t' && (inFlow || !keyAllowed))
        || (spot.place.column == 0 && c == byteOrderMark) then
      skipToToken inFlow keyAllowed false rest
    else (keyAllowed, spot :: rest)

/-- Whether a plain scalar may start here. -/
def startsPlain (inFlow : Bool) (c next : Char) : Bool :=
  !(isGap c || ['-', '?', ':', ',', '[', ']', '{', '}', '#', '&', '*', '!', '|', '>', '\'', '"',
      '%', '@', Char.ofNat 0x60].contains c)
    || (c == '-' && !isBlank next)
    || (!inFlow && (c == '?' || c == ':') && !isGap next)

namespace Cutter

/-- Add a token that may be a key and does not let another start behind it. -/
def pushNode? (t : Cutter) (now : Place) (token : Token) : Option Cutter := do
  let t ← t.saveKey? now
  return { t.push token with keyAllowed := false }

/-- Close all block collections before a directive or a document mark. -/
def leaveDocument? (t : Cutter) : Option Cutter := do
  let t ← (t.outdent fun _ => false).dropKey?
  return { t with keyAllowed := false }

/-- Cut off the token that starts here, and those that come with it. -/
def next? (t : Cutter) (s : Source) : Option (Cutter × Source) :=
  let now := s.place
  let c := s.peek
  let next := s.second
  if now.column == 0 && c == '%' then do
    let t ← t.leaveDocument?
    let (token, rest) ← readDirective? s.tail
    return (t.push token, rest)
  else if s.atDocumentMark then do
    let t ← t.leaveDocument?
    return (t.push (if c == '-' then .documentStart else .documentEnd), s.drop 3)
  else if c == '[' then return (← t.openFlow? now .sequenceOpen, s.tail)
  else if c == '{' then return (← t.openFlow? now .mappingOpen, s.tail)
  else if c == ']' then return (← t.closeFlow? .sequenceClose, s.tail)
  else if c == '}' then return (← t.closeFlow? .mappingClose, s.tail)
  else if c == ',' then return (← t.flowEntry?, s.tail)
  else if c == '-' && isGap next then return (← t.blockEntry? now, s.tail)
  else if c == '?' && (t.inFlow || isGap next) then return (← t.explicitKey? now, s.tail)
  else if c == ':' && (t.inFlow || isGap next) then return (← t.value? now, s.tail)
  else if c == '*' then do
    let (name, rest) ← readAnchor? s.tail
    return (← t.pushNode? now (.alias name), rest)
  else if c == '&' then do
    let (name, rest) ← readAnchor? s.tail
    return (← t.pushNode? now (.anchor name), rest)
  else if c == '!' then do
    let (token, rest) ← readTag? t.inFlow s
    return (← t.pushNode? now token, rest)
  else if (c == '|' || c == '>') && !t.inFlow then do
    let t ← t.dropKey?
    let (text, rest) ← readBlock? (c == '>') t.indents.head? s.tail
    return ({ t.push (.scalar text false) with keyAllowed := true }, rest)
  else if c == '\'' || c == '"' then do
    let (text, rest) ← readQuoted? c .text .empty s.tail
    return (← t.pushNode? now (.scalar text false), rest)
  else if startsPlain t.inFlow c next then do
    let (text, lineEnded, rest) ← readPlain? t.inFlow t.innerIndent true .empty s
    let t ← t.pushNode? now (.scalar text true)
    return ({ t with keyAllowed := lineEnded }, rest)
  else none

/-- Cut the whole source. -/
def all? : Nat → Cutter → Source → Option (Array Token)
  | 0, _, _ => none
  | fuel + 1, t, s => do
    let (keyAllowed, s) := skipToToken t.inFlow t.keyAllowed false s
    let t ← { t with keyAllowed }.dropStale? s.place
    let t := t.outdent fun column => column ≤ s.column
    if s.peek == endMark then
      let t ← (t.outdent fun _ => false).dropKey?
      return (t.push .streamEnd).tokens
    else
      let (t, s) ← t.next? s
      all? fuel t s

end Cutter

/-- The tokens of a text. -/
def tokens? (text : String) : Option (List Token) := do
  let source ← source? text
  let tokens ← Cutter.start.all? (source.length + 1) source
  return tokens.toList

end BucketOperator.Yaml
