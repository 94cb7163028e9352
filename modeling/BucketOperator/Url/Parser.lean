import BucketOperator.Url.Basic

/-!
# Parsing and resolving URLs

A text is split at its delimiters: the fragment, the query, then scheme, authority and path. A
text without a scheme is resolved against a base. Dot segments are removed from the path while it
is read, so no segment of a parsed web URL is a dot segment.
-/

namespace BucketOperator.Url

/-- The text that counts: no blanks or controls around it, no tabs or line breaks in it. -/
def significant (text : String) : List Char :=
  let outer := fun c : Char => decide (c.toNat ≤ 0x20)
  let cs := (text.toList.dropWhile outer).reverse.dropWhile outer |>.reverse
  cs.filter fun c => c != '\t' && c != '\n' && c != '\r'

/-- Split at the first occurrence of a character, which is dropped. -/
def splitFirst (c : Char) (cs : List Char) : List Char × Option (List Char) :=
  match cs.span (· != c) with
  | (before, _ :: after) => (before, some after)
  | (before, []) => (before, none)

/-- The scheme in front of a colon, in lower case, and the text behind it. -/
def splitScheme? (cs : List Char) : Option (String × List Char) :=
  match splitFirst ':' cs with
  | (c :: rest, some after) =>
    if c.isAlpha && rest.all fun d => d.isAlphanum || d == '+' || d == '-' || d == '.' then
      some (String.ofList ((c :: rest).map Char.toLower), after)
    else none
  | _ => none

/-- A slash, or a backslash where the scheme takes it for one. -/
def isSlash (special : Bool) (c : Char) : Bool := c == '/' || (special && c == '\\')

/-! ### Paths -/

/-- The ways to write a dot in a segment. -/
def dots : List Char → Option Nat
  | [] => some 0
  | '.' :: rest => (dots rest).map (· + 1)
  | '%' :: '2' :: 'e' :: rest => (dots rest).map (· + 1)
  | '%' :: '2' :: 'E' :: rest => (dots rest).map (· + 1)
  | _ => none

/-- A letter and a colon or a bar, which a double dot does not climb over. -/
def isDriveLetter (segment : String) : Bool :=
  match segment.toList with
  | [c, d] => c.isAlpha && (d == ':' || d == '|')
  | _ => false

/-- Go up one segment. -/
def climb (segments : List String) : List String :=
  match segments.getLast? with
  | some last => if isDriveLetter last then segments else segments.dropLast
  | none => []

/-- Descend through raw segments; only the last may leave a trailing slash. -/
def descend (stack : List String) : List (List Char) → List String
  | [] => stack
  | [last] =>
    match dots last with
    | some 1 => stack ++ [""]
    | some 2 => climb stack ++ [""]
    | _ => stack ++ [String.ofList (encodeChars isEscapedInPath last)]
  | segment :: rest =>
    match dots segment with
    | some 1 => descend stack rest
    | some 2 => descend (climb stack) rest
    | _ => descend (stack ++ [String.ofList (encodeChars isEscapedInPath segment)]) rest

/-- Split at every slash. -/
def rawSegments (special : Bool) (cs : List Char) : List (List Char) :=
  cs.splitOnP (isSlash special)

/-- The segments of a path, read on from the segments of a base. -/
def readPath (special : Bool) (base : List String) (cs : List Char) : List String :=
  descend base (rawSegments special cs)

/-! ### Authority -/

/-- A port: decimal digits up to 65535, the scheme's own left out. -/
def readPort (scheme : String) (cs : List Char) : Except ParseError (Option Nat) :=
  match cs with
  | [] => .ok none
  | cs =>
    match Net.decimal? cs with
    | some n =>
      if 65535 < n then .error .invalidPort
      else .ok (if defaultPorts.lookup scheme = some n then none else some n)
    | none => .error .invalidPort

/-- Split host and port at the first colon outside brackets. -/
def splitPort : List Char → Bool → List Char × Option (List Char)
  | [], _ => ([], none)
  | c :: rest, inBrackets =>
    if c == ':' && !inBrackets then ([], some rest)
    else
      let inBrackets := if c == '[' then true else if c == ']' then false else inBrackets
      let (host, port) := splitPort rest inBrackets
      (c :: host, port)

/-- User information up to the last at sign, and the rest. -/
def splitUser (cs : List Char) : Option (List Char) × List Char :=
  match cs.reverse.span (· != '@') with
  | (host, _ :: user) => (some user.reverse, host.reverse)
  | (host, []) => (none, host.reverse)

/-- User information, host and port. -/
structure Authority where
  username : String
  password : Option String
  host : String
  port : Option Nat

def readAuthority (scheme : String) (cs : List Char) : Except ParseError Authority := do
  let (user, place) := splitUser cs
  let (hostText, portText) := splitPort place false
  if hostText.isEmpty && (isSpecial scheme || portText.isSome || user.any (!·.isEmpty)) then
    throw .emptyHost
  let host ← if isSpecial scheme then webHost hostText else opaqueHost hostText
  let port ← readPort scheme (portText.getD [])
  let (name, password) := splitFirst ':' (user.getD [])
  let encode := fun cs => String.ofList (encodeChars isEscapedInUserInfo cs)
  return {
    username := encode name
    password := password.bind fun p => if p.isEmpty then none else some (encode p)
    host := host
    port := port }

/-! ### Whole texts -/

/-- Body, query and fragment of a text. -/
def splitTail (cs : List Char) : List Char × Option (List Char) × Option (List Char) :=
  let (front, fragment) := splitFirst '#' cs
  let (body, query) := splitFirst '?' front
  (body, query, fragment)

def readQuery (scheme : String) (cs : Option (List Char)) : Option String :=
  cs.map fun cs => String.ofList (encodeChars (isEscapedInQuery (isSpecial scheme)) cs)

def readFragment (cs : Option (List Char)) : Option String :=
  cs.map fun cs => String.ofList (encodeChars isEscapedInFragment cs)

/-- A URL whose body is an authority and a path. -/
def hierarchical (scheme : String) (body : List Char) (query fragment : Option (List Char)) :
    Except ParseError Url := do
  let special := isSpecial scheme
  let (place, path) := body.span fun c => !isSlash special c
  let authority ← readAuthority scheme place
  return {
    scheme := scheme
    username := authority.username
    password := authority.password
    host := some authority.host
    port := authority.port
    path := .segments (match path with
      | [] => if special then [""] else []
      | _ :: rest => readPath special [] rest)
    query := readQuery scheme query
    fragment := readFragment fragment }

/-- A URL whose scheme is not one of the web's. -/
def otherScheme (scheme : String) (body : List Char) (query fragment : Option (List Char)) :
    Except ParseError Url :=
  match body with
  | '/' :: '/' :: rest => hierarchical scheme rest query fragment
  | body =>
    .ok {
      scheme := scheme
      username := ""
      password := none
      host := none
      port := none
      path := match body with
        | '/' :: rest => .segments (readPath false [] rest)
        | body => .single (String.ofList (encodeChars isControl body))
      query := readQuery scheme query
      fragment := readFragment fragment }

/-- Resolve a text without a scheme against a base. -/
def resolve (base : Url) (cs : List Char) : Except ParseError Url :=
  let special := isSpecial base.scheme
  let (body, query, fragment) := splitTail cs
  match base.path with
  | .single _ =>
    if body.isEmpty && query.isNone && fragment.isSome then
      .ok { base with fragment := readFragment fragment }
    else .error .relativeWithOpaqueBase
  | .segments segments =>
    let place : Url := { base with fragment := readFragment fragment }
    match body with
    | [] =>
      match query with
      | none => .ok place
      | some _ => .ok { place with query := readQuery base.scheme query }
    | c :: rest =>
      if isSlash special c then
        match rest with
        | d :: rest' =>
          if isSlash special d then
            let target := if c == '/' && d == '/' then rest' else rest'.dropWhile (isSlash special)
            hierarchical base.scheme target query fragment
          else
            .ok { place with
              path := .segments (readPath special [] rest)
              query := readQuery base.scheme query }
        | [] =>
          .ok { place with
            path := .segments (readPath special [] rest)
            query := readQuery base.scheme query }
      else
        .ok { place with
          path := .segments (readPath special segments.dropLast (c :: rest))
          query := readQuery base.scheme query }

/-- Parse a text, resolving it against a base if it has no scheme of its own. -/
def parseWith (base : Option Url) (text : String) : Except ParseError Url :=
  let cs := significant text
  match splitScheme? cs with
  | some (scheme, rest) =>
    let (body, query, fragment) := splitTail rest
    if isSpecial scheme then
      let slashes := (body.takeWhile (isSlash true)).length
      match base with
      | some base =>
        if slashes < 2 && base.scheme == scheme then resolve base rest
        else hierarchical scheme (body.dropWhile (isSlash true)) query fragment
      | none => hierarchical scheme (body.dropWhile (isSlash true)) query fragment
    else otherScheme scheme body query fragment
  | none =>
    match base with
    | some base => resolve base cs
    | none => .error .relativeWithoutBase

/-- Parse a text that stands on its own. -/
def parse (text : String) : Except ParseError Url := parseWith none text

/-- Resolve a reference against a base. -/
def join (base : Url) (reference : String) : Except ParseError Url :=
  parseWith (some base) reference

end BucketOperator.Url
