import TabletFleet.Yaml.Token

set_option autoImplicit false

/-! # YAML nodes

The value that a YAML document stands for: scalars, which keep their text and whether it stood without
quotes, lists, and maps with keys of any kind in the order in which they are written. What is left out
counts as a scalar without text. -/

namespace TabletFleet.Yaml

/-- A value in a YAML document. -/
inductive Node where
  | scalar (text : String) (isPlain : Bool)
  | seq (items : List Node)
  | map (members : List (Node × Node))
deriving Inhabited

/-- What is left out. -/
def Node.absent : Node := .scalar "" true

namespace Parse

/-- The next token is one of the given ones, or there is none. -/
def nextIn (stops : List Token) : List Token → Bool
  | [] => true
  | t :: _ => stops.contains t

mutual

/-- A node. A block may start only where `block` allows it, and items without a block of their own
only where `inMap` does, as they may in the value of a map. -/
def node? (fuel : Nat) (block inMap : Bool) (ts : List Token) : Option (Node × List Token) :=
  match fuel, ts with
  | 0, _ | _, [] => none
  | fuel + 1, t :: rest =>
    match t with
    | .blockEntry => if inMap then looseItems? fuel [] (t :: rest) else none
    | .scalar text isPlain => some (.scalar text isPlain, rest)
    | .flowSequenceStart => flowItems? fuel true [] rest
    | .flowMappingStart => flowMembers? fuel true [] rest
    | .blockSequenceStart => if block then blockItems? fuel [] rest else none
    | .blockMappingStart => if block then blockMembers? fuel [] rest else none
    | _ => none

/-- A node of a block, or what is left out before one of the given tokens. -/
def blockNodeOr? (fuel : Nat) (inMap : Bool) (stops : List Token) (ts : List Token) :
    Option (Node × List Token) :=
  match fuel with
  | 0 => none
  | fuel + 1 => if nextIn stops ts then some (.absent, ts) else node? fuel true inMap ts

/-- A node inside brackets, or what is left out before one of the given tokens. -/
def flowNodeOr? (fuel : Nat) (stops : List Token) (ts : List Token) : Option (Node × List Token) :=
  match fuel with
  | 0 => none
  | fuel + 1 => if nextIn stops ts then some (.absent, ts) else node? fuel false false ts

/-- The items of a block from the next dash on. -/
def blockItems? (fuel : Nat) (done : List Node) (ts : List Token) : Option (Node × List Token) :=
  match fuel, ts with
  | fuel + 1, .blockEntry :: rest => do
    let (item, rest) ← blockNodeOr? fuel false [.blockEntry, .blockEnd] rest
    blockItems? fuel (item :: done) rest
  | _ + 1, .blockEnd :: rest => some (.seq done.reverse, rest)
  | _, _ => none

/-- The items of a list that is indented no further than the map around it. -/
def looseItems? (fuel : Nat) (done : List Node) (ts : List Token) : Option (Node × List Token) :=
  match fuel, ts with
  | fuel + 1, .blockEntry :: rest => do
    let (item, rest) ← blockNodeOr? fuel false [.blockEntry, .key, .value, .blockEnd] rest
    looseItems? fuel (item :: done) rest
  | _ + 1, rest => some (.seq done.reverse, rest)
  | 0, _ => none

/-- The members of a block from the next key on. -/
def blockMembers? (fuel : Nat) (done : List (Node × Node)) (ts : List Token) :
    Option (Node × List Token) :=
  match fuel, ts with
  | fuel + 1, .key :: rest => do
    let (key, rest) ← blockNodeOr? fuel true [.key, .value, .blockEnd] rest
    match rest with
    | .value :: rest =>
      let (value, rest) ← blockNodeOr? fuel true [.key, .value, .blockEnd] rest
      blockMembers? fuel ((key, value) :: done) rest
    | rest => blockMembers? fuel ((key, .absent) :: done) rest
  | _ + 1, .blockEnd :: rest => some (.map done.reverse, rest)
  | _, _ => none

/-- The items between brackets. -/
def flowItems? (fuel : Nat) (first : Bool) (done : List Node) (ts : List Token) :
    Option (Node × List Token) :=
  match fuel with
  | 0 => none
  | fuel + 1 => do
    if ts.head? == some .flowSequenceEnd then return (.seq done.reverse, ts.drop 1)
    let ts ← if first then some ts
      else if ts.head? == some .flowEntry then some (ts.drop 1) else none
    match ts with
    | .flowSequenceEnd :: rest => return (.seq done.reverse, rest)
    | .key :: rest =>
      -- a lone pair counts as a map; where its key is left out, the mark after it goes, too
      let (key, rest) ←
        if nextIn [.value, .flowEntry, .flowSequenceEnd] rest then some (.absent, rest.drop 1)
        else node? fuel false false rest
      let (value, rest) ← flowValue? fuel [.flowEntry, .flowSequenceEnd] rest
      flowItems? fuel false (.map [(key, value)] :: done) rest
    | ts =>
      let (item, rest) ← node? fuel false false ts
      flowItems? fuel false (item :: done) rest

/-- The members between braces. -/
def flowMembers? (fuel : Nat) (first : Bool) (done : List (Node × Node)) (ts : List Token) :
    Option (Node × List Token) :=
  match fuel with
  | 0 => none
  | fuel + 1 => do
    if ts.head? == some .flowMappingEnd then return (.map done.reverse, ts.drop 1)
    let ts ← if first then some ts
      else if ts.head? == some .flowEntry then some (ts.drop 1) else none
    match ts with
    | .flowMappingEnd :: rest => return (.map done.reverse, rest)
    | .key :: rest =>
      let (key, rest) ← flowNodeOr? fuel [.value, .flowEntry, .flowMappingEnd] rest
      let (value, rest) ← flowValue? fuel [.flowEntry, .flowMappingEnd] rest
      flowMembers? fuel false ((key, value) :: done) rest
    | ts =>
      let (key, rest) ← node? fuel false false ts
      flowMembers? fuel false ((key, .absent) :: done) rest

/-- The value of a pair inside brackets, if there is one. -/
def flowValue? (fuel : Nat) (stops : List Token) (ts : List Token) : Option (Node × List Token) :=
  match fuel, ts with
  | fuel + 1, .value :: rest => flowNodeOr? fuel stops rest
  | _ + 1, rest => some (.absent, rest)
  | 0, _ => none

end

/-- The node of a document. What stands before the first token of the next document, or at the end, may
be nothing at all only after a mark. -/
def document? (fuel : Nat) (ts : List Token) : Option (Node × List Token) :=
  match ts with
  | .documentStart :: rest =>
    if nextIn [.documentStart, .documentEnd] rest then some (.absent, rest)
    else node? fuel true false rest
  | ts => node? fuel true false ts

/-- Nothing follows a document but the mark of its end. -/
def isOver : List Token → Bool
  | ts => ts.all (· == .documentEnd)

end Parse

/-- The node of a text that holds one document, or none at all. -/
def Node.parse? (text : String) : Option Node := do
  let ts ← Token.ofText? text
  if ts.isEmpty then return .absent
  let (node, rest) ← Parse.document? (4 * ts.length + 4) ts
  guard (Parse.isOver rest)
  return node

end TabletFleet.Yaml
