import TabletFleet.Document
import TabletFleet.Yaml.Node

set_option autoImplicit false

/-! # YAML as documents

How decoders see YAML. Any scalar is a text, with the very characters that it is written with. Only
scalars without quotes are anything else: numbers, flags, and the absence of a value. A scalar without
text is also an empty list, map or record. -/

namespace TabletFleet.Yaml

/-- The ways to write that there is no value. -/
def isNullText (s : String) : Bool := s.isEmpty || ["null", "Null", "NULL", "~"].contains s

def flagOfText? (s : String) : Option Bool :=
  if ["true", "True", "TRUE"].contains s then some true
  else if ["false", "False", "FALSE"].contains s then some false
  else none

/-! ## Numbers -/

/-- The digit of a base that a character stands for. -/
def digit? (base : Nat) (c : Char) : Option Nat := (Json.hexDigit? c).filter (· < base)

/-- The number that one or more digits of a base denote. -/
def digits? (base : Nat) (cs : List Char) : Option Nat :=
  if cs.isEmpty then none
  else cs.foldl (fun n? c => do return base * (← n?) + (← digit? base c)) (some 0)

/-- The digits of a numeral, and the base that they are in. A decimal numeral has no leading zeros. -/
def magnitude? : List Char → Option Nat
  | '0' :: 'x' :: rest => digits? 16 rest
  | '0' :: 'o' :: rest => digits? 8 rest
  | '0' :: 'b' :: rest => digits? 2 rest
  | '0' :: c :: rest => if (c :: rest).all Char.isDigit then none else digits? 10 ('0' :: c :: rest)
  | cs => digits? 10 cs

def intOfText? (s : String) : Option Int :=
  match s.toList with
  | '-' :: rest => (magnitude? rest).map fun n => -(n : Int)
  | '+' :: rest => (magnitude? rest).map Int.ofNat
  | cs => (magnitude? cs).map Int.ofNat

/-- Whole numbers that fit 128 bits, with sign or without. Those beyond are decimals. -/
def isWideInt (n : Int) : Bool :=
  -170141183460469231731687303715884105728 ≤ n && n < 340282366920938463463374607431768211456

/-- The number that a decimal denotes. -/
def decimalOfText? (s : String) : Option Json.Number := do
  let (negative, cs) := match s.toList with
    | '-' :: rest => (true, rest)
    | '+' :: rest => (false, rest)
    | cs => (false, cs)
  let whole := cs.takeWhile Char.isDigit
  let rest := cs.drop whole.length
  let places := match rest with
    | '.' :: rest => rest.takeWhile Char.isDigit
    | _ => []
  let rest := match rest with
    | '.' :: rest => rest.drop places.length
    | rest => rest
  guard (!(whole ++ places).isEmpty)
  let exponent : Int ← match rest with
    | [] => some 0
    | e :: rest =>
      if e == 'e' || e == 'E' then
        match rest with
        | '-' :: ds => (digits? 10 ds).map fun n => -(n : Int)
        | '+' :: ds => (digits? 10 ds).map Int.ofNat
        | ds => (digits? 10 ds).map Int.ofNat
      else none
  let n := Numeral.value (whole ++ places)
  let scale := exponent - places.length
  -- far beyond the range of doubles the power of ten alone decides
  let f : Float ←
    if n == 0 || scale < -((whole ++ places).length + 400 : Nat) then some 0
    else if scale > 400 then none
    else some (Float.ofScientific n (scale < 0) scale.natAbs)
  guard f.isFinite
  return Json.Double.number negative f

/-- Digits with a leading zero, which are no number. -/
def isZeroFilled (s : String) : Bool :=
  match s.toList with
  | '-' :: '0' :: d :: ds | '+' :: '0' :: d :: ds | '0' :: d :: ds => (d :: ds).all Char.isDigit
  | _ => false

/-! ## Nodes -/

namespace Node

/-- The text of a scalar without quotes. -/
def plainText? : Node → Option String
  | .scalar text true => some text
  | _ => none

def scalarText? : Node → Option String
  | .scalar text _ => some text
  | _ => none

/-- Nothing at all stands here. -/
def isAbsent (n : Node) : Bool := n.plainText? == some ""

/-- The members of a map whose keys are all scalars, or of nothing at all. -/
def textMembers? : Node → Option (Members Node)
  | .map members => members.mapM fun m => m.1.scalarText?.map (·, m.2)
  | n => if n.isAbsent then some [] else none

/-- The JSON value of a scalar: of one without quotes, what it looks like. Whole numbers that need more
than 64 bits have none. -/
def jsonOfScalar (text : String) (isPlain : Bool) : Option Json :=
  if !isPlain then some (.str text)
  else if isNullText text then some .null
  else
    match flagOfText? text, (intOfText? text).filter isWideInt with
    | some b, _ => some (.bool b)
    | none, some n => if minInt64 ≤ n && n < UInt64.size then some (.int n) else none
    | none, none =>
      if isZeroFilled text then some (.str text)
      else if [".inf", ".Inf", ".INF", "+.inf", "+.Inf", "+.INF", "-.inf", "-.Inf", "-.INF",
          ".nan", ".NaN", ".NAN"].contains text then some .null
      else some (((decimalOfText? text).map Json.number).getD (.str text))

mutual

/-- The JSON value of a node. -/
def json? : Node → Option Json
  | .scalar text isPlain => jsonOfScalar text isPlain
  | .seq items => (jsonItems? items).map .arr
  | .map members => (jsonMembers? members).map .object

def jsonItems? : List Node → Option (List Json)
  | [] => some []
  | n :: ns => do return (← json? n) :: (← jsonItems? ns)

def jsonMembers? : List (Node × Node) → Option (List (String × Json))
  | [] => some []
  | (k, n) :: ms => do return (← k.scalarText?, ← json? n) :: (← jsonMembers? ms)

end

mutual

/-- How many lists and maps stand inside one another. -/
def depth : Node → Nat
  | .scalar _ _ => 0
  | .seq items => itemsDepth items + 1
  | .map members => membersDepth members + 1

def itemsDepth : List Node → Nat
  | [] => 0
  | n :: ns => max (depth n) (itemsDepth ns)

def membersDepth : List (Node × Node) → Nat
  | [] => 0
  | (k, n) :: ms => max (max (depth k) (depth n)) (membersDepth ms)

end

instance : Layered Node := ⟨depth⟩

instance : Document Node where
  isNull n := n.plainText?.any isNullText
  text? n := n.scalarText?
  int? n := n.plainText?.bind intOfText?
  flag? n := n.plainText?.bind flagOfText?
  word? n := n.scalarText?
  items?
    | .seq items => some items
    | n => if n.isAbsent then some [] else none
  members? n := n.textMembers?
  record? fields n := n.textMembers?.filter (Document.givesOnce fields)
  json? n := n.json?

/-- How many lists and maps may be entered, one inside another. -/
def maxDepth : Nat := 127

/-- The text of one document, or of none at all, as something to decode from. -/
def document? (text : String) : Option (Nested Node) :=
  (parse? text).map ({ levels := maxDepth, part := · })

end Node

end TabletFleet.Yaml
