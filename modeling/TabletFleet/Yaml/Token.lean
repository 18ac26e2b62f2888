import TabletFleet.Yaml.Scalar

set_option autoImplicit false

/-! # YAML tokens

A YAML text as the tokens that its structure is read from. The structure of blocks is told by
indentation: where a line is indented further than the block around it, the start of a block is put
in, and where it is indented less, the end of one. A key is known as such only once the colon after it
is seen, so its place is remembered until then. Anchors, tags, directives and block scalars are not
read. -/

namespace TabletFleet.Yaml

inductive Token where
  | documentStart
  | documentEnd
  | blockSequenceStart
  | blockMappingStart
  | blockEnd
  | flowSequenceStart
  | flowSequenceEnd
  | flowMappingStart
  | flowMappingEnd
  /-- The dash before an item. -/
  | blockEntry
  /-- The comma between items. -/
  | flowEntry
  | key
  | value
  | scalar (text : String) (isPlain : Bool)
deriving DecidableEq, Inhabited

/-- A place where a key may have started. -/
structure KeyPlace where
  /-- Nothing but a key can stand here. -/
  isRequired : Bool
  /-- The number of tokens before. -/
  tokens : Nat
  index : Nat
  line : Nat
  column : Nat
deriving DecidableEq, Inhabited

/-- How far a text has been split into tokens. -/
structure Scanner where
  cursor : Cursor
  /-- The indentation of the innermost block, -1 outside of all blocks, and those of the others. -/
  indent : Int := -1
  indents : List Int := []
  /-- A key may start here. -/
  keyAllowed : Bool := true
  /-- The place where a key may have started, outside of all brackets and inside each. -/
  keys : List (Option KeyPlace) := [none]
  /-- The tokens so far, latest first. -/
  tokens : List Token := []

namespace Scanner

/-- How far a key may be from its colon, in bytes. -/
def maxKeyLength : Nat := 1024

/-- Inside brackets. -/
def inFlow (s : Scanner) : Bool := s.keys.length > 1

def add (s : Scanner) (t : Token) : Scanner := { s with tokens := t :: s.tokens }

/-- Put a token after the first `n` ones. -/
def addAt (s : Scanner) (n : Nat) (t : Token) : Scanner :=
  let later := s.tokens.length - n
  { s with tokens := s.tokens.take later ++ t :: s.tokens.drop later }

/-- Go past `n` characters. -/
def skip (s : Scanner) (n : Nat) : Scanner := { s with cursor := s.cursor.skip n }

/-! ## Blocks -/

/-- Begin a block at a column, unless the block around is indented as far. Its start goes after the
first `n` tokens. -/
def openBlock (s : Scanner) (column n : Nat) (start : Token) : Scanner :=
  if !s.inFlow && s.indent < column then
    { s.addAt n start with indent := column, indents := s.indent :: s.indents }
  else s

/-- End the blocks that are indented further than a column. -/
def closeBlocks (column : Int) (indent : Int) (tokens : List Token) :
    List Int → Int × List Int × List Token
  | [] => (indent, [], tokens)
  | outer :: indents =>
    if column < indent then closeBlocks column outer (.blockEnd :: tokens) indents
    else (indent, outer :: indents, tokens)

def unindent (s : Scanner) (column : Int) : Scanner :=
  if s.inFlow then s
  else
    let (indent, indents, tokens) := closeBlocks column s.indent s.tokens s.indents
    { s with indent, indents, tokens }

/-! ## Keys -/

/-- Forget where the innermost key may have started. It may not have had to be one. -/
def dropKey (s : Scanner) : Option Scanner :=
  match s.keys with
  | some k :: keys => if k.isRequired then none else some { s with keys := none :: keys }
  | _ => some s

/-- Remember that a key may start here. -/
def saveKey (s : Scanner) : Option Scanner :=
  if s.keyAllowed then do
    let s ← s.dropKey
    let place : KeyPlace := {
      isRequired := !s.inFlow && s.indent == s.cursor.column
      tokens := s.tokens.length
      index := s.cursor.index, line := s.cursor.line, column := s.cursor.column }
    return { s with keys := some place :: s.keys.drop 1 }
  else some s

/-- A key that started too far before is none. -/
def isStale (c : Cursor) (k : KeyPlace) : Bool := k.line < c.line || k.index + maxKeyLength < c.index

/-- Forget the keys that started too far before. -/
def dropStaleKeys (s : Scanner) : Option Scanner := do
  let keys ← s.keys.mapM fun k? =>
    match k? with
    | some k => if isStale s.cursor k then (if k.isRequired then none else some none) else some (some k)
    | none => some none
  return { s with keys }

/-! ## One token -/

/-- Go past blanks, comments and line breaks to the next token, and past a byte order mark at the
start of a line. -/
def skipToToken (fuel : Nat) (s : Scanner) : Scanner :=
  match fuel, s.cursor.rest with
  | 0, _ | _, [] => s
  | fuel + 1, c :: rest =>
    if (c == '\ufeff' && s.cursor.column == 0) || c == ' '
        || (c == '\t' && (s.inFlow || !s.keyAllowed)) then
      skipToToken fuel (s.skip 1)
    else if c == '#' then
      skipToToken fuel (s.skip ((c :: rest).takeWhile (!isBreak ·)).length)
    else if isBreak c then
      skipToToken fuel
        { s with cursor := s.cursor.skipBreak.2, keyAllowed := s.keyAllowed || !s.inFlow }
    else s

/-- The mark before or after a document. -/
def documentMark (s : Scanner) (t : Token) : Option Scanner := do
  let s ← (s.unindent (-1)).dropKey
  return { (s.skip 3).add t with keyAllowed := false }

def openFlow (s : Scanner) (t : Token) : Option Scanner := do
  let s ← s.saveKey
  return { (s.skip 1).add t with keyAllowed := true, keys := none :: s.keys }

def closeFlow (s : Scanner) (t : Token) : Option Scanner := do
  let s ← s.dropKey
  return { (s.skip 1).add t with
    keyAllowed := false, keys := if s.inFlow then s.keys.drop 1 else s.keys }

def flowEntry (s : Scanner) : Option Scanner := do
  let s ← s.dropKey
  return { (s.skip 1).add .flowEntry with keyAllowed := true }

def blockEntry (s : Scanner) : Option Scanner := do
  guard (s.inFlow || s.keyAllowed)
  let s ← (s.openBlock s.cursor.column s.tokens.length .blockSequenceStart).dropKey
  return { (s.skip 1).add .blockEntry with keyAllowed := true }

/-- A key that is marked as one. -/
def explicitKey (s : Scanner) : Option Scanner := do
  guard (s.inFlow || s.keyAllowed)
  let s ← (s.openBlock s.cursor.column s.tokens.length .blockMappingStart).dropKey
  return { (s.skip 1).add .key with keyAllowed := !s.inFlow }

/-- The colon between a key and its value. -/
def value (s : Scanner) : Option Scanner :=
  match s.keys with
  | some k :: keys =>
    let s := (s.addAt k.tokens .key).openBlock k.column k.tokens .blockMappingStart
    some { (s.skip 1).add .value with keyAllowed := false, keys := none :: keys }
  | _ => do
    guard (s.inFlow || s.keyAllowed)
    let s := s.openBlock s.cursor.column s.tokens.length .blockMappingStart
    return { (s.skip 1).add .value with keyAllowed := !s.inFlow }

def quoted (fuel : Nat) (s : Scanner) (q : Quotes) : Option Scanner := do
  let s ← s.saveKey
  let (text, after) ← readQuoted fuel q [] (s.cursor.skip 1)
  return { s.add (.scalar (String.ofList text) false) with cursor := after, keyAllowed := false }

def plain (fuel : Nat) (s : Scanner) : Option Scanner := do
  let s ← s.saveKey
  let r ← readPlain fuel s.inFlow (s.indent + 1).toNat [] {} s.cursor
  return { s.add (.scalar (String.ofList r.text) true) with
    cursor := r.after, keyAllowed := r.endedLine }

/-- Characters that no scalar without quotes starts with. -/
def isIndicator (c : Char) : Bool := "-?:,[]\x7b\x7d#&*!|>'\"%@\x60".toList.contains c

/-- A scalar without quotes may start here. -/
def startsPlain (inFlow : Bool) : List Char → Bool
  | [] => false
  | c :: rest =>
    !(isBlank c || isBreak c || isIndicator c)
      || (c == '-' && !rest.head?.any isBlank)
      || (!inFlow && (c == '?' || c == ':') && !endsWord rest)

/-- Read the next token, together with the starts and ends of blocks around it; `false` tells that
there is none. More than the length of the text is enough for `fuel`. -/
def next (fuel : Nat) (s : Scanner) : Option (Scanner × Bool) := do
  let s ← (skipToToken fuel s).dropStaleKeys
  let s := s.unindent s.cursor.column
  let atStart := s.cursor.column == 0
  let go (s? : Option Scanner) : Option (Scanner × Bool) := s?.map (·, true)
  match s.cursor.rest with
  | [] => return (← (s.unindent (-1)).dropKey, false)
  | c :: rest =>
    if atStart && c == '%' then none
    else if atStart && isMark '-' (c :: rest) then go (s.documentMark .documentStart)
    else if atStart && isMark '.' (c :: rest) then go (s.documentMark .documentEnd)
    else if c == '[' then go (s.openFlow .flowSequenceStart)
    else if c == '\x7b' then go (s.openFlow .flowMappingStart)
    else if c == ']' then go (s.closeFlow .flowSequenceEnd)
    else if c == '\x7d' then go (s.closeFlow .flowMappingEnd)
    else if c == ',' then go s.flowEntry
    else if c == '-' && endsWord rest then go s.blockEntry
    else if c == '?' && (s.inFlow || endsWord rest) then go s.explicitKey
    else if c == ':' && (s.inFlow || endsWord rest) then go s.value
    else if c == '\'' then go (s.quoted fuel .single)
    else if c == '"' then go (s.quoted fuel .double)
    else if startsPlain s.inFlow (c :: rest) then go (s.plain fuel)
    else none

/-- Read all tokens. Each takes a character at least, so that `fuel` stays more than enough for what is
left. -/
def readAll (fuel : Nat) (s : Scanner) : Option Scanner :=
  match fuel with
  | 0 => none
  | fuel + 1 => do
    let (s, more) ← s.next (fuel + 1)
    if more then readAll fuel s else some s

end Scanner

/-- The tokens of a text. -/
def Token.ofText? (text : String) : Option (List Token) := do
  let cs := text.toList
  guard (cs.all isAllowed)
  let s ← Scanner.readAll (cs.length + 2) { cursor := { rest := cs } }
  return s.tokens.reverse

end TabletFleet.Yaml
