import TabletFleet.Document
import TabletFleet.Labels
import TabletFleet.Text.Hidden
import TabletFleet.Text.Numeral

set_option autoImplicit false

/-! # Tablet aliases

A tablet is known to the topology service by its cell and a number that is unique there. In text the
two are joined by a dash and the number is filled up to ten digits; since cells may contain dashes
themselves, the number is what follows the last one. -/

namespace TabletFleet

/-- The name of a tablet. -/
structure TabletAlias where
  cell : String
  uid : UInt32
deriving DecidableEq, Inhabited

/-- A text that is not the text of an alias. -/
structure InvalidAlias where
  text : String
deriving DecidableEq, Inhabited

def InvalidAlias.message (e : InvalidAlias) : String :=
  "invalid tablet alias " ++ Text.quoted e.text ++ " (expect <cell>-<uid>)"

namespace TabletAlias

/-- `cell-uid`, the uid with ten digits. -/
def text (a : TabletAlias) : String := a.cell ++ "-" ++ Numeral.padded 10 a.uid.toNat

/-- What stands before and after the last dash. -/
def splitLastDash? (cs : List Char) : Option (List Char × List Char) :=
  match cs.reverse.span (· != '-') with
  | (after, '-' :: before) => some (before.reverse, after.reverse)
  | _ => none

/-- The alias that a text names: a cell that is not empty, a dash, and a number below `2 ^ 32`. -/
def parse? (s : String) : Option TabletAlias := do
  let (cell, uid) ← splitLastDash? s.toList
  guard (!cell.isEmpty)
  return { cell := String.ofList cell, uid := ← Numeral.uint32? (String.ofList uid) }

def parse (s : String) : Except InvalidAlias TabletAlias :=
  match parse? s with
  | some a => .ok a
  | none => .error ⟨s⟩

/-- The name shared by a tablet's pod and its data volume claim. -/
def podName (cluster : String) (a : TabletAlias) : String := cluster ++ "-vttablet-" ++ a.text

/-- The alias that an object's labels record. -/
def ofLabels? (labels : Option StringMap) : Option TabletAlias := do
  let labels ← labels
  let cell ← labels.get? LabelKey.cell
  let uid ← labels.get? LabelKey.tabletUid
  return { cell, uid := ← Numeral.uint32? uid }

def toJson (a : TabletAlias) : Json := .object [("cell", .str a.cell), ("uid", .int a.uid.toNat)]

def ofDocument? {δ : Type} [Document δ] (d : δ) : Option TabletAlias := do
  let ms ← Document.record? ["cell", "uid"] d
  return { cell := ← Document.required ms "cell" Document.text?
           uid := ← Document.required ms "uid" Document.uint32? }

end TabletAlias

end TabletFleet
