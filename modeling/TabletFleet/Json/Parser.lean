import TabletFleet.Json.Double
import TabletFleet.Json.Source
import TabletFleet.Text.Numeral

set_option autoImplicit false

/-! # Reading JSON text

A strict reader: one text, blanks around it, nothing else. It takes everything that is written as JSON
is; `parse?` goes on to the value, for which nesting deeper than `maxDepth` is refused, and so are
numbers too large for a double and escapes that name half a surrogate pair. -/

namespace TabletFleet.Json

/-- How many arrays and objects may enclose a value. -/
def maxDepth : Nat := 127

/-- Drop the blanks that JSON allows between its tokens. -/
def skipBlanks (cs : List Char) : List Char :=
  cs.dropWhile fun c => c == ' ' || c == '\n' || c == '\t' || c == '\r'

/-! ## Strings -/

def hexDigit? (c : Char) : Option Nat :=
  if c.isDigit then some (c.toNat - '0'.toNat)
  else if 'a' ≤ c && c ≤ 'f' then some (c.toNat - 'a'.toNat + 10)
  else if 'A' ≤ c && c ≤ 'F' then some (c.toNat - 'A'.toNat + 10)
  else none

/-- The number that a list of hexadecimal digits denotes. -/
def hexNumber? (ds : List Char) : Option Nat :=
  ds.foldl (fun n? d => do return 16 * (← n?) + (← hexDigit? d)) (some 0)

/-- The character for a one-letter escape. -/
def escaped? : Char → Option Char
  | '"' => some '"'
  | '\\' => some '\\'
  | '/' => some '/'
  | 'b' => some '\x08'
  | 'f' => some '\x0c'
  | 'n' => some '\n'
  | 'r' => some '\r'
  | 't' => some '\t'
  | _ => none

/-- The first half of a surrogate pair. -/
def isLeadingHalf (n : Nat) : Bool := 0xd800 ≤ n && n ≤ 0xdbff

/-- The second half of a surrogate pair. -/
def isTrailingHalf (n : Nat) : Bool := 0xdc00 ≤ n && n ≤ 0xdfff

/-- The rest of a string after its opening quote: the numbers of its characters, or of halves of
them, and the text after it. -/
def stringRest? (done : List Nat) : List Char → Option (List Nat × List Char)
  | [] => none
  | '"' :: rest => some (done.reverse, rest)
  | '\\' :: 'u' :: a :: b :: c :: d :: rest =>
    match hexNumber? [a, b, c, d] with
    | none => none
    | some n => stringRest? (n :: done) rest
  | '\\' :: e :: rest =>
    match escaped? e with
    | none => none
    | some c => stringRest? (c.toNat :: done) rest
  | c :: rest => if c.toNat < 0x20 then none else stringRest? (c.toNat :: done) rest

/-- The characters with the given numbers; a half counts only next to its other half. -/
def paired? (done : List Char) : List Nat → Option (List Char)
  | [] => some done.reverse
  | n :: rest =>
    if isLeadingHalf n then
      match rest with
      | m :: rest =>
        if isTrailingHalf m then
          paired? (Char.ofNat (0x10000 + (n - 0xd800) * 0x400 + (m - 0xdc00)) :: done) rest
        else none
      | [] => none
    else if isTrailingHalf n then none
    else paired? (Char.ofNat n :: done) rest

/-- A string after its opening quote, unless it names half a surrogate pair, and the text after it. -/
def string? (cs : List Char) : Option (Option String × List Char) :=
  (stringRest? [] cs).map fun (ns, rest) => ((paired? [] ns).map String.ofList, rest)

/-! ## Numbers -/

/-- The exponent of a number, if the text goes on with one, and the text after it. -/
def exponent? (cs : List Char) : Option (Option Int × List Char) :=
  match cs with
  | e :: rest =>
    if e == 'e' || e == 'E' then
      let (negative, rest) := match rest with
        | '-' :: rest => (true, rest)
        | '+' :: rest => (false, rest)
        | rest => (false, rest)
      let ds := rest.takeWhile Char.isDigit
      if ds.isEmpty then none
      else
        let n : Int := Numeral.value ds
        some (some (if negative then -n else n), rest.drop ds.length)
    else some (none, cs)
  | [] => some (none, [])

/-- The digits after a decimal point, if the text goes on with one, and the text after them. -/
def fraction? (cs : List Char) : Option (List Char × List Char) :=
  match cs with
  | '.' :: rest =>
    let ds := rest.takeWhile Char.isDigit
    if ds.isEmpty then none else some (ds, rest.drop ds.length)
  | cs => some ([], cs)

/-- A number, whose sign has been read, unless it is too large, and the text after it. -/
def numberRest? (negative : Bool) (cs : List Char) : Option (Option Json.Number × List Char) := do
  let whole := cs.takeWhile Char.isDigit
  if whole.isEmpty || (whole.length > 1 && whole.head? == some '0') then none
  let (places, rest) ← fraction? (cs.drop whole.length)
  let (exponent, rest) ← exponent? rest
  let (significand, dropped) := Double.absorb 0 whole
  let isWhole := places.isEmpty && exponent.isNone && dropped == 0
  if isWhole && !negative then
    return (some (.int significand), rest)
  else if isWhole && significand ≠ 0 && significand ≤ minInt64.natAbs then
    return (some (.int (-significand)), rest)
  else
    let e := exponent.getD 0
    let (significand, unread) := Double.absorb significand places
    let scale : Int := (dropped : Int) - ((places.length - unread : Nat) : Int)
    -- an exponent beyond 32 bits is out of range, or it makes the number zero
    let number :=
      if e.natAbs < minInt32.natAbs then Double.ofParts? negative significand (scale + e)
      else if significand ≠ 0 && e > 0 then none
      else some (Double.number negative 0)
    return (number, rest)

def number? (cs : List Char) : Option (Option Json.Number × List Char) :=
  match cs with
  | '-' :: rest => numberRest? true rest
  | cs => numberRest? false cs

/-! ## Whole texts -/

mutual

/-- A text, and what follows it. Every call on a text, an item or a member uses up one unit of `fuel`;
each reads a character, so that the length is enough. -/
def source? (fuel : Nat) (cs : List Char) : Option (Source × List Char) :=
  match fuel with
  | 0 => none
  | fuel + 1 =>
    match skipBlanks cs with
    | 'n' :: 'u' :: 'l' :: 'l' :: rest => some (.null, rest)
    | 't' :: 'r' :: 'u' :: 'e' :: rest => some (.bool true, rest)
    | 'f' :: 'a' :: 'l' :: 's' :: 'e' :: rest => some (.bool false, rest)
    | '"' :: rest => (string? rest).map fun (s, rest) => (.str s, rest)
    | '[' :: rest =>
      match skipBlanks rest with
      | ']' :: rest => some (.arr [], rest)
      | rest => items? fuel [] rest
    | '\x7b' :: rest =>
      match skipBlanks rest with
      | '\x7d' :: rest => some (.obj [], rest)
      | rest => members? fuel [] rest
    | rest => (number? rest).map fun (n, rest) => (.number n, rest)

/-- The items of an array from the next one on. -/
def items? (fuel : Nat) (done : List Source) (cs : List Char) : Option (Source × List Char) :=
  match fuel with
  | 0 => none
  | fuel + 1 => do
    let (item, rest) ← source? fuel cs
    match skipBlanks rest with
    | ']' :: rest => some (.arr (item :: done).reverse, rest)
    | ',' :: rest => items? fuel (item :: done) rest
    | _ => none

/-- The members of an object from the next one on. -/
def members? (fuel : Nat) (done : List (Option String × Source)) (cs : List Char) :
    Option (Source × List Char) :=
  match fuel with
  | 0 => none
  | fuel + 1 =>
    match skipBlanks cs with
    | '"' :: rest => do
      let (key, rest) ← string? rest
      match skipBlanks rest with
      | ':' :: rest => do
        let (item, rest) ← source? fuel rest
        match skipBlanks rest with
        | '\x7d' :: rest => some (.obj ((key, item) :: done).reverse, rest)
        | ',' :: rest => members? fuel ((key, item) :: done) rest
        | _ => none
      | _ => none
    | _ => none

end

/-- Read a text. -/
def Source.parse? (text : String) : Option Source := do
  let cs := text.toList
  let (source, rest) ← source? (2 * cs.length + 2) cs
  if (skipBlanks rest).isEmpty then some source else none

/-- A text to decode from: what is nested deeper than `maxDepth` may not be looked at. -/
def Source.document (s : Source) : Nested Source := { levels := maxDepth, part := s }

/-- Read a text as one value. -/
def parse? (text : String) : Option Json := do Document.json? (← Source.parse? text).document

end TabletFleet.Json
