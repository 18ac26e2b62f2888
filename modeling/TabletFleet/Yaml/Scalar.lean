import TabletFleet.Json.Parser
import TabletFleet.Yaml.Cursor

set_option autoImplicit false

/-! # YAML scalars

Reading scalars without quotes, which go on for as long as nothing ends them, and scalars between
quotes. Both may run over several lines. -/

namespace TabletFleet.Yaml

/-! ## Without quotes -/

/-- The characters that end a word inside brackets. -/
def isFlowMark (c : Char) : Bool := c == ',' || c == '[' || c == ']' || c == '\x7b' || c == '\x7d'

/-- The next word of a scalar without quotes. Inside brackets a colon may not stand before a mark. -/
def plainWord? (inFlow : Bool) : List Char → Option (List Char)
  | [] => some []
  | c :: rest =>
    if isBlank c || isBreak c then some []
    else if c == ':' && inFlow && rest.head?.any (fun d => isFlowMark d || d == '?') then none
    else if c == ':' && endsWord rest then some []
    else if inFlow && isFlowMark c then some []
    else (plainWord? inFlow rest).map (c :: ·)

/-- A scalar without quotes: its text, whether a line was ended after it, and the place after it. -/
structure PlainScalar where
  text : List Char
  endedLine : Bool
  after : Cursor

/-- The scalar whose text, backwards, is `done`, and which the gap before a place follows. -/
def PlainScalar.ending (done : List Char) (gap : Gap) (c : Cursor) : PlainScalar where
  text := done.reverse
  endedLine := gap.isBroken
  after := c

/-- Read a scalar without quotes on from `done`, given backwards, which `gap` separates from what comes
next. Outside of brackets, its lines are indented by at least `indent`. -/
def readPlain (fuel : Nat) (inFlow : Bool) (indent : Nat) (done : List Char) (gap : Gap)
    (c : Cursor) : Option PlainScalar :=
  match fuel with
  | 0 => none
  | fuel + 1 =>
    if c.atDocumentMark || c.rest.head? == some '#' then some (.ending done gap c)
    else
      match plainWord? inFlow c.rest with
      | none => none
      | some [] => some (.ending done gap c)
      | some word =>
        let done := word.reverse ++ (gap.text.reverse ++ done)
        let c := c.skip word.length
        match readGap (fuel + 1) (some indent) {} c with
        | none => none
        | some (gap, c') =>
          if c'.index == c.index || (!inFlow && c'.column < indent) then
            some (.ending done gap c')
          else readPlain fuel inFlow indent done gap c'

/-! ## Between quotes -/

/-- The character that a one-letter escape stands for. -/
def escape? : Char → Option Char
  | '0' => some '\x00'
  | 'a' => some '\x07'
  | 'b' => some '\x08'
  | 't' | '\t' => some '\t'
  | 'n' => some '\n'
  | 'v' => some '\x0b'
  | 'f' => some '\x0c'
  | 'r' => some '\r'
  | 'e' => some '\x1b'
  | ' ' => some ' '
  | '"' => some '"'
  | '/' => some '/'
  | '\\' => some '\\'
  | 'N' => some '\x85'
  | '_' => some '\xa0'
  | 'L' => some '\u2028'
  | 'P' => some '\u2029'
  | _ => none

/-- The number of digits of an escape that gives a character's number. -/
def escapeDigits? : Char → Option Nat
  | 'x' => some 2
  | 'u' => some 4
  | 'U' => some 8
  | _ => none

/-- The character of a number that denotes one. -/
def charOfNumber? (n : Nat) : Option Char := if n.isValidChar then some (Char.ofNat n) else none

/-- Read the escape after a backslash: the character, and how many characters the escape takes. -/
def readEscape (cs : List Char) : Option (Char × Nat) :=
  match cs with
  | [] => none
  | e :: rest =>
    match escape? e, escapeDigits? e with
    | some c, _ => some (c, 1)
    | none, none => none
    | none, some n =>
      let ds := rest.take n
      if ds.length < n then none
      else (Json.hexNumber? ds).bind fun v => (charOfNumber? v).map (·, n + 1)

/-- The quotes of a scalar. -/
inductive Quotes where
  | single
  | double
deriving DecidableEq, Inhabited

def Quotes.mark : Quotes → Char
  | .single => '\''
  | .double => '"'

/-- Read a word between quotes on from `done`, given backwards: the text so far, also backwards, the
place after it, and whether it ends with an escaped line break. -/
def readQuotedWord (fuel : Nat) (q : Quotes) (done : List Char) (c : Cursor) :
    Option (List Char × Cursor × Bool) :=
  match fuel with
  | 0 => none
  | fuel + 1 =>
    if endsWord c.rest then some (done, c, false)
    else
      match q, c.rest with
      | .single, '\'' :: '\'' :: _ => readQuotedWord fuel q ('\'' :: done) (c.skip 2)
      | .single, '\'' :: _ => some (done, c, false)
      | .double, '"' :: _ => some (done, c, false)
      | .double, '\\' :: rest =>
        if rest.head?.any isBreak then some (done, (c.skip 1).skipBreak.2, true)
        else
          match readEscape rest with
          | none => none
          | some (e, n) => readQuotedWord fuel q (e :: done) (c.skip (n + 1))
      | _, ch :: _ => readQuotedWord fuel q (ch :: done) (c.skip 1)
      | _, [] => none

/-- Read a scalar on from `done`, given backwards, to its closing quote: its text, and the place after
the quote. -/
def readQuoted (fuel : Nat) (q : Quotes) (done : List Char) (c : Cursor) :
    Option (List Char × Cursor) :=
  match fuel with
  | 0 => none
  | fuel + 1 =>
    if c.atDocumentMark || c.rest.isEmpty then none
    else
      match readQuotedWord (fuel + 1) q done c with
      | none => none
      | some (done, c, isEscaped) =>
        if c.rest.head? == some q.mark then some (done.reverse, c.skip 1)
        else
          let start : Gap := if isEscaped then { isFolded := false, isBroken := true } else {}
          match readGap (fuel + 1) none start c with
          | none => none
          | some (gap, c) => readQuoted fuel q (gap.text.reverse ++ done) c

end TabletFleet.Yaml
