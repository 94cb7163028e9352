import BucketOperator.Json.Value

/-!
# Printing JSON

Values are written without blanks, members in the order they are kept. Only quotes, backslashes
and the characters below U+0020 are escaped.
-/

namespace BucketOperator.Json

/-- Floats are positional from `1e-5` up to below `1e16`, and always show a point or an exponent. -/
def floatStyle : Binary64.DecimalStyle where
  longest := some 16
  mostZeros := some 4
  wholePoint := true
  plusSign := true

def Number.render : Number → String
  | .integer n => toString n
  | .float x => Binary64.render floatStyle x

/-- A hexadecimal digit in lower case. -/
def hexChar (n : Nat) : Char :=
  if n < 10 then Char.ofNat ('0'.toNat + n) else Char.ofNat ('a'.toNat + (n - 10))

/-- The text of one character inside a string. -/
def escapeChar (c : Char) : List Char :=
  match c with
  | '"' => ['\\', '"']
  | '\\' => ['\\', '\\']
  | '\x08' => ['\\', 'b']
  | '\x0c' => ['\\', 'f']
  | '\n' => ['\\', 'n']
  | '\r' => ['\\', 'r']
  | '\t' => ['\\', 't']
  | c =>
    if c.toNat < 0x20 then ['\\', 'u', '0', '0', hexChar (c.toNat / 16), hexChar (c.toNat % 16)]
    else [c]

/-- A quoted string. -/
def quote (s : String) : List Char := '"' :: (s.toList.flatMap escapeChar ++ ['"'])

mutual

/-- The characters of a value. -/
def renderChars : Json → List Char
  | .null => ['n', 'u', 'l', 'l']
  | .bool true => ['t', 'r', 'u', 'e']
  | .bool false => ['f', 'a', 'l', 's', 'e']
  | .number n => n.render.toList
  | .string s => quote s
  | .array items => '[' :: (renderItems items ++ [']'])
  | .object members => '{' :: (renderMembers members ++ ['}'])

/-- Items with commas between them. -/
def renderItems : List Json → List Char
  | [] => []
  | [v] => renderChars v
  | v :: w :: rest => renderChars v ++ ',' :: renderItems (w :: rest)

/-- Members with commas between them. -/
def renderMembers : List (String × Json) → List Char
  | [] => []
  | [(k, v)] => quote k ++ ':' :: renderChars v
  | (k, v) :: w :: rest => quote k ++ ':' :: (renderChars v ++ ',' :: renderMembers (w :: rest))

end

/-- The text of a value. -/
def render (value : Json) : String := String.ofList value.renderChars

end BucketOperator.Json
