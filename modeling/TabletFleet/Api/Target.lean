set_option autoImplicit false

/-! # Request targets

The path and query of a request, and the encoding of texts that go into a query. -/

namespace TabletFleet

/-- The path and the query of a request. -/
structure Target where
  path : String
  query : String
deriving DecidableEq, Inhabited

namespace Target

/-! ## Form encoding -/

/-- Bytes that stand for themselves in an encoded form. -/
def isPlain (b : UInt8) : Bool :=
  let c := Char.ofNat b.toNat
  c.isAlphanum || c == '*' || c == '-' || c == '.' || c == '_'

/-- An upper-case hexadecimal digit. -/
def hexDigit (n : Nat) : Char := (Nat.digitChar n).toUpper

/-- One byte of an encoded text: itself, `+` for a space, or `%` and two digits. -/
def encodedByte (b : UInt8) : List Char :=
  if isPlain b then [Char.ofNat b.toNat]
  else if b = 0x20 then ['+']
  else ['%', hexDigit (b.toNat / 16), hexDigit (b.toNat % 16)]

/-- A text as the value of a form field. -/
def encoded (s : String) : String :=
  String.ofList (s.toUTF8.data.toList.flatMap encodedByte)

/-! ## Splitting -/

/-- Characters that a path may hold. -/
def isPathChar (c : Char) : Bool :=
  let n := c.toNat
  n == 0x21 || n == 0x22 || (0x24 ≤ n && n ≤ 0x3b) || n == 0x3d || (0x40 ≤ n && n ≤ 0x5f)
    || (0x61 ≤ n && n ≤ 0x7e) || 0x80 ≤ n

/-- Characters that a query may hold. -/
def isQueryChar (c : Char) : Bool :=
  let n := c.toNat
  n == 0x21 || (0x24 ≤ n && n ≤ 0x3b) || n == 0x3d || (0x3f ≤ n && n ≤ 0x7e)
    || 0x80 ≤ n

/-- How many bytes a target may have. -/
def maxLength : Nat := 65534

/-- The path of a target is what stands before the first `?`, its query what follows; a fragment,
from `#` on, is left out. Texts with other characters than paths and queries may hold are no targets,
and neither are texts that are too long. -/
def ofText? (s : String) : Option Target :=
  let cs := s.toList.takeWhile (· != '#')
  let path := cs.takeWhile (· != '?')
  let query := (cs.drop path.length).drop 1
  if s.utf8ByteSize ≤ maxLength && path.all isPathChar && query.all isQueryChar then
    some { path := String.ofList path, query := String.ofList query }
  else none

end Target

end TabletFleet
