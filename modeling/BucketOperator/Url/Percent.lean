/-!
# Percent encoding

Text inside a URL is written as the bytes of its UTF-8 form. Which ASCII characters are escaped
depends on the part of the URL; everything outside printable ASCII always is.
-/

namespace BucketOperator.Url

/-- A hexadecimal digit in upper case. -/
def upperHex (n : Nat) : Char :=
  if n < 10 then Char.ofNat ('0'.toNat + n) else Char.ofNat ('A'.toNat + (n - 10))

/-- A byte as a percent sign and two digits. -/
def encodeByte (b : UInt8) : List Char :=
  ['%', upperHex (b.toNat / 16), upperHex (b.toNat % 16)]

/-- Escape a character. -/
def escape (c : Char) : List Char :=
  (String.utf8EncodeChar c).flatMap encodeByte

/-- Controls and everything that is not ASCII. -/
def isControl (c : Char) : Bool := c.toNat < 0x20 || 0x7E < c.toNat

def isEscapedInFragment (c : Char) : Bool :=
  isControl c || [' ', '"', '<', '>', Char.ofNat 0x60].contains c

def isEscapedInPath (c : Char) : Bool :=
  isEscapedInFragment c || ['#', '?', '{', '}'].contains c

def isEscapedInUserInfo (c : Char) : Bool :=
  isEscapedInPath c || ['/', ':', ';', '=', '@', '[', '\\', ']', '^', '|'].contains c

/-- An apostrophe is escaped only for the schemes of the web. -/
def isEscapedInQuery (special : Bool) (c : Char) : Bool :=
  isControl c || [' ', '"', '#', '<', '>'].contains c || (special && c.toNat == 0x27)

/-- Escape the characters of a class and keep the others. -/
def encodeChars (escaped : Char → Bool) (cs : List Char) : List Char :=
  cs.flatMap fun c => if escaped c then escape c else [c]

/-- The value of a hexadecimal digit. -/
def hexValue? (c : Char) : Option Nat :=
  if c.isDigit then some (c.toNat - '0'.toNat)
  else if 'a' ≤ c && c ≤ 'f' then some (c.toNat - 'a'.toNat + 10)
  else if 'A' ≤ c && c ≤ 'F' then some (c.toNat - 'A'.toNat + 10)
  else none

/-- The bytes of a text, with valid escapes replaced by the byte they stand for. -/
def decodeBytes : List Char → List UInt8
  | '%' :: a :: b :: rest =>
    match hexValue? a, hexValue? b with
    | some x, some y => UInt8.ofNat (x * 16 + y) :: decodeBytes rest
    | _, _ => 0x25 :: decodeBytes (a :: b :: rest)
  | c :: rest => String.utf8EncodeChar c ++ decodeBytes rest
  | [] => []

/-! ### Forms -/

/-- The characters of a form that stand for themselves. -/
def isFormSafe (c : Char) : Bool :=
  c.isAlphanum || ['*', '-', '.', '_'].contains c

/-- A name or a value of a form: blanks become plus signs. -/
def encodeForm (text : String) : String :=
  String.ofList <| text.toList.flatMap fun c =>
    if isFormSafe c then [c] else if c == ' ' then ['+'] else escape c

/-- A list of names and values as a form. -/
def form (pairs : List (String × String)) : String :=
  "&".intercalate (pairs.map fun (k, v) => encodeForm k ++ "=" ++ encodeForm v)

end BucketOperator.Url
