import TabletFleet.Document
import TabletFleet.Timestamp

set_option autoImplicit false

/-! # Shapes of object parts

Most of what a cluster object holds passes through this program without being looked at, yet it has
to be read as strictly as the API reads it and written back in the API's form. A `Shape` says what
such a part looks like; `Shape.read` checks a document against it and gives the written form: unknown
fields dropped, fields that the API always writes filled in, times in whole seconds of UTC. -/

namespace TabletFleet

/-- What a part of a cluster object looks like. -/
inductive Shape where
  | text
  | flag
  | int (lo hi : Int)
  /-- A number or a text, as ports are. -/
  | intOrText
  | time
  /-- Bytes in Base64; null stands for none. -/
  | bytes
  | anything
  | list (item : Shape)
  | map (item : Shape)
  /-- Named fields. Those marked `true` are always written, with an empty value if they are absent. -/
  | record (fields : List (String × Bool × Shape))

namespace Shape

def int32 : Shape := .int minInt32 maxInt32

def int64 : Shape := .int minInt64 maxInt64

/-- A field that is written only if it has a value. -/
def may (name : String) (s : Shape) : String × Bool × Shape := (name, false, s)

/-- A field that is always written. -/
def must (name : String) (s : Shape) : String × Bool × Shape := (name, true, s)

mutual

/-- The empty value of a shape. -/
def empty : Shape → Json
  | .text | .bytes => .str ""
  | .flag => .bool false
  | .int _ _ | .intOrText => .int 0
  | .time => .str Timestamp.epoch.text
  | .anything => .null
  | .list _ => .arr []
  | .map _ => .obj []
  | .record fields => .object (emptyFields fields)

def emptyFields : List (String × Bool × Shape) → List (String × Json)
  | [] => []
  | (name, always, s) :: fields =>
    if always then (name, empty s) :: emptyFields fields else emptyFields fields

end

/-- Base64 text in its only form: groups of four, filled up with `=` at the end, no stray bits. -/
def isBase64 : List Char → Bool
  | [] => true
  | a :: b :: c :: d :: rest =>
    let digit (c : Char) : Option Nat :=
      "ABCDEFGHIJKLMNOPQRSTUVWXYZabcdefghijklmnopqrstuvwxyz0123456789+/".toList.findIdx? (· == c)
    match digit a, digit b, digit c, digit d with
    | some _, some _, some _, some _ => isBase64 rest
    | some _, some _, some n, none => d == '=' && rest.isEmpty && n % 4 == 0
    | some _, some n, none, none => c == '=' && d == '=' && rest.isEmpty && n % 16 == 0
    | _, _, _, _ => false
  | _ => false

variable {δ : Type} [Document δ]

mutual

/-- The written form of a document, if it has this shape. -/
def read : Shape → δ → Option Json
  | .text, d => (Document.text? d).map .str
  | .flag, d => (Document.flag? d).map .bool
  | .int lo hi, d => (Document.intIn? lo hi d).map .int
  | .intOrText, d =>
    match Document.json? d with
    | some (.str s) => some (.str s)
    | _ => (Document.intIn? minInt32 maxInt32 d).map .int
  | .time, d => do return .str (← Timestamp.parse? (← Document.text? d)).text
  | .bytes, d =>
    if Document.isNull d then some (.str "")
    else ((Document.text? d).filter fun s => isBase64 s.toList).map .str
  | .anything, d => Document.json? d
  | .list item, d => (Document.list? (read item) d).map .arr
  | .map item, d => (Document.map? (read item) d).map .ofMap
  | .record fields, d => do
    let ms ← Document.members? d
    return .ofMap (← readFields fields ms)

/-- Those of the given fields that a record has. -/
def readFields : List (String × Bool × Shape) → Members δ → Option (OrdMap String Json)
  | [], _ => some .empty
  | (name, always, s) :: fields, ms => do
    let value? ← Document.optional ms name (read s)
    let others ← readFields fields ms
    match value? with
    | some j => return others.insert name j
    | none => return if always then others.insert name s.empty else others

end

end Shape

/-- A part of an object that is carried along unread: its fields in written form. -/
abbrev Extra := OrdMap String Json

end TabletFleet
