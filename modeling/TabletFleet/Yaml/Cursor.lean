set_option autoImplicit false

/-! # Places in a YAML text

Where a reader stands, and the blanks and line breaks between words. A break between two words counts
as a space; further breaks after it are kept. -/

namespace TabletFleet.Yaml

/-- The rest of a text, and where it starts. -/
structure Cursor where
  rest : List Char
  /-- The number of bytes before. -/
  index : Nat := 0
  line : Nat := 0
  /-- The number of characters before on the line. -/
  column : Nat := 0
deriving DecidableEq, Inhabited

/-- Characters that a text may hold at all. -/
def isAllowed (c : Char) : Bool :=
  let n := c.toNat
  n == 0x09 || n == 0x0a || n == 0x0d || (0x20 ≤ n && n ≤ 0x7e) || n == 0x85
    || (0xa0 ≤ n && n ≤ 0xfffd) || 0x10000 ≤ n

def isBlank (c : Char) : Bool := c == ' ' || c == '\t'

def isBreak (c : Char) : Bool :=
  c == '\n' || c == '\r' || c == '\x85' || c == '\u2028' || c == '\u2029'

/-- A blank, a break or the end comes next. -/
def endsWord : List Char → Bool
  | [] => true
  | c :: _ => isBlank c || isBreak c

/-- The mark between documents comes next. -/
def isMark (mark : Char) : List Char → Bool
  | a :: b :: c :: rest => a == mark && b == mark && c == mark && endsWord rest
  | _ => false

/-- The length of characters in bytes. -/
def byteLength (cs : List Char) : Nat := cs.foldl (fun n c => n + c.utf8Size) 0

namespace Cursor

/-- Go past `n` characters of a line. -/
def skip (c : Cursor) (n : Nat) : Cursor :=
  { c with
    rest := c.rest.drop n
    index := c.index + byteLength (c.rest.take n)
    column := c.column + n }

/-- Go past a line break: the break as it counts in a scalar, and the place after it. -/
def skipBreak (c : Cursor) : Char × Cursor :=
  let next (n : Nat) : Cursor :=
    { rest := c.rest.drop n
      index := c.index + byteLength (c.rest.take n)
      line := c.line + 1
      column := 0 }
  match c.rest with
  | '\r' :: '\n' :: _ => ('\n', next 2)
  | '\u2028' :: _ => ('\u2028', next 1)
  | '\u2029' :: _ => ('\u2029', next 1)
  | _ => ('\n', next 1)

/-- A line that starts with the mark of a document comes next. -/
def atDocumentMark (c : Cursor) : Bool := c.column == 0 && (isMark '-' c.rest || isMark '.' c.rest)

end Cursor

/-! ## Gaps -/

/-- What stands between two words of a scalar. -/
structure Gap where
  /-- The blanks on the line, if there is no break. -/
  blanks : List Char := []
  /-- The breaks. -/
  breaks : List Char := []
  /-- Whether the first break is there; it is not if it was escaped. -/
  isFolded : Bool := true
  /-- Whether the gap goes beyond the line. -/
  isBroken : Bool := false
deriving DecidableEq, Inhabited

/-- What a gap counts for. -/
def Gap.text (g : Gap) : List Char :=
  if !g.isBroken then g.blanks
  else if !g.isFolded then g.breaks
  else
    match g.breaks with
    | '\n' :: [] => [' ']
    | '\n' :: more => more
    | breaks => breaks

/-- Read a gap on from the part that is known. Where `indent` is given, tabs may not take the place of
indentation. The length of the text is enough for `fuel`. -/
def readGap (fuel : Nat) (indent : Option Nat) (g : Gap) (c : Cursor) : Option (Gap × Cursor) :=
  match fuel, c.rest with
  | 0, _ => none
  | _, [] => some (g, c)
  | fuel + 1, ch :: _ =>
    if isBlank ch then
      if g.isBroken && ch == '\t' && indent.any (c.column < ·) then none
      else
        readGap fuel indent (if g.isBroken then g else { g with blanks := g.blanks ++ [ch] })
          (c.skip 1)
    else if isBreak ch then
      let (b, c) := c.skipBreak
      readGap fuel indent { g with isBroken := true, breaks := g.breaks ++ [b] } c
    else some (g, c)

end TabletFleet.Yaml
