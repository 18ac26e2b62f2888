import TabletFleet.Json.Double

set_option autoImplicit false

/-! # Writing JSON text

Two forms: `compact` without any blanks, and `pretty` with one item or member to a line, indented by
two spaces a level. Members are written in the order in which the object lists them. Only the quote,
the backslash and control characters are escaped. -/

namespace TabletFleet.Json

/-- One character inside a string. -/
def writtenChar (c : Char) : List Char :=
  match c with
  | '"' => ['\\', '"']
  | '\\' => ['\\', '\\']
  | '\x08' => ['\\', 'b']
  | '\x0c' => ['\\', 'f']
  | '\n' => ['\\', 'n']
  | '\r' => ['\\', 'r']
  | '\t' => ['\\', 't']
  | c =>
    if c.toNat < 0x20 then
      let ds := Nat.toDigits 16 c.toNat
      ['\\', 'u'] ++ List.replicate (4 - ds.length) '0' ++ ds
    else [c]

/-- A string between its quotes. -/
def writtenString (s : String) : String :=
  String.ofList ('"' :: s.toList.flatMap writtenChar ++ ['"'])

def writtenNumber : Json.Number → String
  | .int n => toString n
  | .float bits => Double.text bits

mutual

/-- The text of a value without blanks. -/
def compact : Json → String
  | .null => "null"
  | .bool true => "true"
  | .bool false => "false"
  | .number n => writtenNumber n
  | .str s => writtenString s
  | .arr items => "[" ++ ",".intercalate (compactItems items) ++ "]"
  | .obj members => "\x7b" ++ ",".intercalate (compactMembers members) ++ "\x7d"

def compactItems : List Json → List String
  | [] => []
  | j :: js => compact j :: compactItems js

def compactMembers : List (String × Json) → List String
  | [] => []
  | (k, j) :: ms => (writtenString k ++ ":" ++ compact j) :: compactMembers ms

end

/-- Lines between two brackets, each one level deeper than the brackets. -/
def bracketed (left right : String) (level : Nat) (lines : List String) : String :=
  let indent (n : Nat) : String := String.ofList (List.replicate (2 * n) ' ')
  if lines.isEmpty then left ++ right
  else
    left ++ "\n" ++ ",\n".intercalate (lines.map (indent (level + 1) ++ ·)) ++ "\n"
      ++ indent level ++ right

mutual

/-- The text of a value that stands `level` levels deep, with a line for each item and member. -/
def prettyAt (level : Nat) : Json → String
  | .arr items => bracketed "[" "]" level (prettyItems (level + 1) items)
  | .obj members => bracketed "\x7b" "\x7d" level (prettyMembers (level + 1) members)
  | j => compact j

def prettyItems (level : Nat) : List Json → List String
  | [] => []
  | j :: js => prettyAt level j :: prettyItems level js

def prettyMembers (level : Nat) : List (String × Json) → List String
  | [] => []
  | (k, j) :: ms => (writtenString k ++ ": " ++ prettyAt level j) :: prettyMembers level ms

end

/-- The text of a value with a line for each item and member. -/
def pretty (j : Json) : String := prettyAt 0 j

end TabletFleet.Json
