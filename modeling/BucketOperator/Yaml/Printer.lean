import BucketOperator.Json.Printer
import BucketOperator.Yaml.Value

/-!
# Printing YAML

Documents are written in block style, two blanks to a level, with the items of a sequence under
the key that holds them. A text is written plain where the plain text reads as that text.
-/

namespace BucketOperator.Yaml

open Json (quote)

/-- Whether a text may be written as it is. -/
def isPlain (text : String) : Bool :=
  !text.contains '\n' &&
    match parse? text with
    | some (.string read) => read == text
    | _ => false

/-- Whether the lines of a text may be written below each other. -/
def isLiteral (text : String) : Bool :=
  text.contains '\n' && !text.startsWith " " && !text.startsWith "\n" && !text.endsWith "\n" &&
    text.toList.all fun c => c == '\n' || 0x20 ≤ c.toNat

/-- The lines of a text. The first one stands where the text begins. -/
def textLines (text : String) : List String :=
  if isPlain text then [text]
  else if isLiteral text then "|-" :: text.splitOn "\n"
  else if text.toList.all fun c => 0x20 ≤ c.toNat then ["'" ++ text.replace "'" "''" ++ "'"]
  else [String.ofList (quote text)]

/-- A line one level deeper; an empty line stays empty. -/
def indent (line : String) : String := if line.isEmpty then line else "  " ++ line

/-- Put lines behind a mark. -/
def behind (mark : String) : List String → List String
  | [] => [mark]
  | first :: rest => (mark ++ " " ++ first) :: rest.map indent

/-- The value of a key in the lines of a mapping. -/
def entryLines (key : String) (value : Json) (lines : List String) : List String :=
  let mark := "".intercalate (textLines key) ++ ":"
  match value with
  | .array (_ :: _) => mark :: lines
  | .object (_ :: _) => mark :: lines.map indent
  | _ => behind mark lines

mutual

/-- The lines of a value. -/
def lines : Json → List String
  | .null => ["null"]
  | .bool b => [toString b]
  | .number n => [n.render]
  | .string s => textLines s
  | .array [] => ["[]"]
  | .array (v :: vs) => behind "-" (lines v) ++ itemLines vs
  | .object [] => ["\x7b\x7d"]
  | .object ((k, v) :: rest) => entryLines k v (lines v) ++ memberLines rest

def itemLines : List Json → List String
  | [] => []
  | v :: rest => behind "-" (lines v) ++ itemLines rest

def memberLines : List (String × Json) → List String
  | [] => []
  | (k, v) :: rest => entryLines k v (lines v) ++ memberLines rest

end

end BucketOperator.Yaml
