import BucketOperator.Yaml.Token

/-!
# YAML nodes

The tree of a document: scalars, sequences and mappings with their tags, and aliases that refer to
anchored nodes by number.
-/

namespace BucketOperator.Yaml

inductive Node where
  | scalar (tag : Option String) (text : String) (plain : Bool)
  | sequence (tag : Option String) (items : List Node)
  | mapping (tag : Option String) (entries : List (Node × Node))
  /-- Refers to the node with this anchor number. -/
  | alias (anchor : Nat)
  deriving Inhabited

/-- What is known while a document is read. -/
structure Reading where
  tokens : List Token
  /-- The handles of tags. -/
  handles : List (String × String)
  /-- The number of each anchor name. -/
  numbers : List (String × Nat)
  /-- The node with each anchor number, and how many tokens were left where it starts. -/
  anchored : List (Nat × Nat × Node)

namespace Reading

def peek (r : Reading) : Token := r.tokens.headD .streamEnd

def skip (r : Reading) : Reading := { r with tokens := r.tokens.tail }

/-- Number an anchor. A new name gets the count of the names so far, and so does a name that is
used again. -/
def number (r : Reading) (name : String) : Nat × Reading :=
  let n := r.numbers.length
  (n, { r with numbers := (name, n) :: r.numbers.filter fun e => e.1 != name })

/-- Record the node of an anchor number; of two nodes the one that starts later counts. -/
def record (r : Reading) (anchor : Option Nat) (left : Nat) (node : Node) : Reading :=
  match anchor with
  | some n =>
    if (r.anchored.lookup n).any fun e => e.1 < left then r
    else { r with anchored := (n, left, node) :: r.anchored.filter fun e => e.1 != n }
  | none => r

/-- The tag a token stands for. -/
def resolveTag? (r : Reading) (handle suffix : String) : Option String :=
  if handle == "" then some suffix else (r.handles.lookup handle).map (· ++ suffix)

end Reading

/-- What may stand in front of a node. -/
structure Properties where
  anchor : Option String
  tag : Option String

/-- Read an anchor and a tag in either order. -/
def readProperties? (r : Reading) : Option (Properties × Reading) :=
  match r.peek with
  | .anchor name =>
    let r := r.skip
    match r.peek with
    | .tag handle suffix => do return (⟨some name, ← r.resolveTag? handle suffix⟩, r.skip)
    | _ => some (⟨some name, none⟩, r)
  | .tag handle suffix => do
    let tag ← r.resolveTag? handle suffix
    let r := r.skip
    match r.peek with
    | .anchor name => return (⟨some name, tag⟩, r.skip)
    | _ => return (⟨none, tag⟩, r)
  | _ => some (⟨none, none⟩, r)

/-- The node of an empty place. -/
def Node.absent : Node := .scalar none "" true

/-- A tag that says nothing is no tag on a scalar. -/
def scalarTag (tag : Option String) : Option String := tag.filter (· != "!")

mutual

/-- Read a node. Block collections may be forbidden, and a sequence without its own indentation
allowed. -/
def readNode? (block indentless : Bool) : Nat → Reading → Option (Node × Reading)
  | 0, _ => none
  | fuel + 1, r =>
    match r.peek with
    | .alias name => do return (.alias (← r.numbers.lookup name), r.skip)
    | _ => do
      let left := r.tokens.length
      let (properties, r) ← readProperties? r
      let (anchor, r) := match properties.anchor with
        | some name => let (n, r) := r.number name; (some n, r)
        | none => (none, r)
      let (node, r) ← readContent? block indentless properties.tag anchor.isSome fuel r
      return (node, r.record anchor left node)

/-- Read a node behind its properties. -/
def readContent? (block indentless : Bool) (tag : Option String) (anchored : Bool) :
    Nat → Reading → Option (Node × Reading)
  | 0, _ => none
  | fuel + 1, r =>
    match r.peek with
    | .scalar text plain => some (.scalar (scalarTag tag) text plain, r.skip)
    | .sequenceOpen => do
      let (items, r) ← readFlowItems? true fuel r.skip
      return (.sequence tag items, r)
    | .mappingOpen => do
      let (entries, r) ← readFlowEntries? true fuel r.skip
      return (.mapping tag entries, r)
    | token =>
      if indentless && token == .blockEntry then do
        let (items, r) ← readIndentless? fuel r
        return (.sequence tag items, r)
      else if block && token == .blockSequence then do
        let (items, r) ← readBlockItems? fuel r.skip
        return (.sequence tag items, r)
      else if block && token == .blockMapping then do
        let (entries, r) ← readBlockEntries? fuel r.skip
        return (.mapping tag entries, r)
      else if anchored || tag.isSome then some (.scalar tag "" true, r)
      else none

/-- Read the items of a block sequence. -/
def readBlockItems? : Nat → Reading → Option (List Node × Reading)
  | 0, _ => none
  | fuel + 1, r =>
    match r.peek with
    | .blockEntry => do
      let r := r.skip
      let (item, r) ←
        if r.peek == .blockEntry || r.peek == .blockEnd then some (.absent, r)
        else readNode? true false fuel r
      let (items, r) ← readBlockItems? fuel r
      return (item :: items, r)
    | .blockEnd => some ([], r.skip)
    | _ => none

/-- Read the items of a sequence that is indented as the mapping around it. -/
def readIndentless? : Nat → Reading → Option (List Node × Reading)
  | 0, _ => none
  | fuel + 1, r =>
    match r.peek with
    | .blockEntry => do
      let r := r.skip
      let (item, r) ←
        if [.blockEntry, .key, .value, .blockEnd].contains r.peek then some (.absent, r)
        else readNode? true false fuel r
      let (items, r) ← readIndentless? fuel r
      return (item :: items, r)
    | _ => some ([], r)

/-- Read a key or value of a block mapping, which may be left out. -/
def readBlockPart? : Nat → Reading → Option (Node × Reading)
  | 0, _ => none
  | fuel + 1, r =>
    if [.key, .value, .blockEnd].contains r.peek then some (.absent, r)
    else readNode? true true fuel r

/-- Read the entries of a block mapping. -/
def readBlockEntries? : Nat → Reading → Option (List (Node × Node) × Reading)
  | 0, _ => none
  | fuel + 1, r =>
    match r.peek with
    | .key => do
      let (key, r) ← readBlockPart? fuel r.skip
      let (value, r) ←
        if r.peek == .value then readBlockPart? fuel r.skip else some (.absent, r)
      let (entries, r) ← readBlockEntries? fuel r
      return ((key, value) :: entries, r)
    | .blockEnd => some ([], r.skip)
    | _ => none

/-- Read the items of a flow sequence; one with a key is a mapping of one entry. -/
def readFlowItems? (first : Bool) : Nat → Reading → Option (List Node × Reading)
  | 0, _ => none
  | fuel + 1, r =>
    if r.peek == .sequenceClose then some ([], r.skip)
    else do
      let r ← if first then some r else if r.peek == .flowEntry then some r.skip else none
      if r.peek == .sequenceClose then return ([], r.skip)
      let (item, r) ←
        if r.peek == .key then do
          let (entry, r) ← readSingleEntry? fuel r.skip
          some (Node.mapping none [entry], r)
        else readNode? false false fuel r
      let (items, r) ← readFlowItems? false fuel r
      return (item :: items, r)

/-- Read the entry of a mapping inside a flow sequence. An empty key takes the token behind it
along. -/
def readSingleEntry? : Nat → Reading → Option ((Node × Node) × Reading)
  | 0, _ => none
  | fuel + 1, r => do
    let (key, r) ←
      if [.value, .flowEntry, .sequenceClose].contains r.peek then some (.absent, r.skip)
      else readNode? false false fuel r
    let (value, r) ←
      if r.peek == .value then
        if [.flowEntry, .sequenceClose].contains r.skip.peek then some (.absent, r.skip)
        else readNode? false false fuel r.skip
      else some (.absent, r)
    return ((key, value), r)

/-- Read the entries of a flow mapping. A node without a key indicator is a key with no value. -/
def readFlowEntries? (first : Bool) : Nat → Reading → Option (List (Node × Node) × Reading)
  | 0, _ => none
  | fuel + 1, r =>
    if r.peek == .mappingClose then some ([], r.skip)
    else do
      let r ← if first then some r else if r.peek == .flowEntry then some r.skip else none
      if r.peek == .mappingClose then return ([], r.skip)
      let (entry, r) ←
        if r.peek == .key then do
          let r := r.skip
          let (key, r) ←
            if [.value, .flowEntry, .mappingClose].contains r.peek then some (.absent, r)
            else readNode? false false fuel r
          let (value, r) ←
            if r.peek == .value then
              if [.flowEntry, .mappingClose].contains r.skip.peek then some (.absent, r.skip)
              else readNode? false false fuel r.skip
            else some (.absent, r)
          some ((key, value), r)
        else do
          let (key, r) ← readNode? false false fuel r
          some ((key, .absent), r)
      let (entries, r) ← readFlowEntries? false fuel r
      return (entry :: entries, r)

end

/-! ### Documents -/

/-- Read directives; each may be given once, and the version must be 1.1 or 1.2. -/
def readDirectives? (versioned : Bool) (handles : List (String × String)) :
    List Token → Option (List (String × String) × List Token)
  | .version major minor :: rest => do
    guard (!versioned && major == 1 && (minor == 1 || minor == 2))
    readDirectives? true handles rest
  | .tagDirective handle stem :: rest => do
    guard (handles.lookup handle).isNone
    readDirectives? versioned ((handle, stem) :: handles) rest
  | tokens => some (handles, tokens)

/-- The handles that need no directive. -/
def defaultHandles : List (String × String) := [("!", "!"), ("!!", "tag:yaml.org,2002:")]

/-- A document with the nodes of its anchors. -/
structure Document where
  root : Node
  anchored : List (Nat × Node)

/-- The only document of a token list; `none` inside when there is no document at all. -/
def readDocument? (tokens : List Token) : Option (Option Document) := do
  let fuel := 8 * tokens.length + 8
  if tokens.head? == some .streamEnd then return none
  let explicit := match tokens with
    | .version .. :: _ => true
    | .tagDirective .. :: _ => true
    | .documentStart :: _ => true
    | _ => false
  let (handles, tokens) ← readDirectives? false [] tokens
  let tokens ←
    if explicit then (if tokens.head? == some .documentStart then some tokens.tail else none)
    else some tokens
  let r : Reading := ⟨tokens, handles ++ defaultHandles, [], []⟩
  let isBare := match r.peek with
    | .version .. => true
    | .tagDirective .. => true
    | .documentStart => true
    | .documentEnd => true
    | .streamEnd => true
    | _ => false
  let (root, r) ← if explicit && isBare then some (.absent, r) else readNode? true false fuel r
  guard (r.tokens.dropWhile (· == .documentEnd) == [.streamEnd])
  return some ⟨root, r.anchored.map fun (n, _, node) => (n, node)⟩

end BucketOperator.Yaml
