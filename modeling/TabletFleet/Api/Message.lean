import TabletFleet.Api.Target
import TabletFleet.Cluster.ManagedObject
import TabletFleet.Cluster.Shape.Table
import TabletFleet.Json.Parser
import TabletFleet.Store.Basic

set_option autoImplicit false

/-! # Messages of the API server

Requests to the API server, its answers, and what an answer means. A refusal explains itself by a
status object in its body; where it does not, the HTTP status has to do. What is expected of a body is
decoded from its text: parts that are of no interest need not stand for values. -/

namespace TabletFleet

inductive HttpMethod where
  | get
  | post
  | put
  | delete
deriving DecidableEq, Inhabited

def HttpMethod.name : HttpMethod → String
  | .get => "GET"
  | .post => "POST"
  | .put => "PUT"
  | .delete => "DELETE"

structure ApiRequest where
  method : HttpMethod
  target : Target
  body : Option Json := none
deriving DecidableEq, Inhabited

structure ApiResponse where
  status : Nat
  body : String
deriving DecidableEq, Inhabited

/-- Why a request did not give what was asked for. -/
inductive ApiError where
  /-- The server refused, with a code and a reason. -/
  | refused (code : Nat) (reason : String)
  /-- There was no answer, or it could not be understood, or the request could not be made. -/
  | failed (detail : String)
deriving DecidableEq, Inhabited

/-- The text in the body of an answer, as something to decode from. -/
def ApiResponse.text? (r : ApiResponse) : Option (Nested Json.Source) :=
  (Json.Source.parse? r.body).map (·.document)

namespace ApiError

/-- What a refusal says about itself. -/
def ofStatus? {δ : Type} [Document δ] (body : δ) : Option ApiError := do
  let ms ← Document.record? ["status", "message", "reason", "code"] body
  let _ ← Document.required ms "status" Document.text?
  let _ ← Document.defaulted ms "message" "" Document.text?
  let reason ← Document.defaulted ms "reason" "" Document.text?
  let code ← Document.required ms "code" Document.uint16?
  return .refused code.toNat reason

/-- The error that a refusal amounts to. -/
def ofRefusal (r : ApiResponse) : ApiError :=
  match r.text?.bind ofStatus? with
  | some e => e
  | none => .refused r.status "Failed to parse error data"

/-- The store error about the object at a key. -/
def toStoreError (kind : String) (key : ObjectKey) : ApiError → StoreError
  | .refused code reason =>
    if code = 404 then .notFound kind key
    else if code = 409 && reason == "AlreadyExists" then .alreadyExists kind key
    else if code = 409 then .conflict kind key
    else .api reason
  | .failed detail => .api detail

/-- The store error about no object in particular. -/
def general : ApiError → StoreError
  | .refused _ reason => .api reason
  | .failed detail => .api detail

end ApiError

namespace ApiResponse

/-- The server did not do what was asked. -/
def isRefusal (r : ApiResponse) : Bool := 400 ≤ r.status && r.status < 600

/-- What the body of an answer says. -/
def read {α : Type} (decode : Nested Json.Source → Option α) (r : Option ApiResponse) :
    Except ApiError α :=
  match r with
  | none => .error (.failed "no answer")
  | some r =>
    if r.isRefusal then .error (.ofRefusal r)
    else
      match r.text?.bind decode with
      | some a => .ok a
      | none => .error (.failed "the answer has an unexpected form")

end ApiResponse

/-! ## Forms of answers -/

section Forms

variable {δ : Type} [Document δ]

/-- The items of a list of objects; null stands for none. Other members are values of any kind. -/
def listItems? {K : Type} [ManagedObject K] (body : δ) : Option (List K) := do
  let ms ← Document.members? body
  let fields := ["metadata", "items"]
  guard (Document.givesOnce fields ms)
  guard ((ms.filter (!fields.contains ·.1)).all fun m => (Document.json? m.2).isSome)
  let _ ← Document.required ms "metadata" Shape.listMetadata.read
  Document.required ms "items" fun items =>
    if Document.isNull items then some [] else Document.list? ManagedObject.ofDocument? items

/-- One of the causes that a status object names. -/
def isStatusCause (d : δ) : Bool :=
  let fields := ["reason", "message", "field"]
  ((Document.record? fields d).bind fun ms =>
    fields.mapM fun name => Document.defaulted ms name "" Document.text?).isSome

/-- The details of a status object. -/
def isStatusDetails (d : δ) : Bool :=
  let texts := ["name", "group", "kind", "uid"]
  (do
    let ms ← Document.record? (texts ++ ["causes", "retryAfterSeconds"]) d
    let _ ← texts.mapM fun name => Document.defaulted ms name "" Document.text?
    let causes ← Document.defaulted ms "causes" [] Document.items?
    guard (causes.all isStatusCause)
    Document.defaulted ms "retryAfterSeconds" 0 Document.uint32?).isSome

/-- A status object, as the answer to a deletion may be. -/
def isStatus (d : δ) : Bool :=
  let outcome? (d : δ) : Option String :=
    (Document.word? d).filter fun s => s == "Success" || s == "Failure"
  (do
    let ms ← Document.record? ["status", "code", "message", "reason", "details"] d
    let _ ← Document.optional ms "status" outcome?
    let _ ← Document.defaulted ms "code" 0 Document.uint16?
    let _ ← Document.defaulted ms "message" "" Document.text?
    let _ ← Document.defaulted ms "reason" "" Document.text?
    Document.optional ms "details" fun d => if isStatusDetails d then some () else none).isSome

/-- The answer to a deletion: the deleted object, or a status object. All of it has to be a value, and
its kind, of which the last one counts, tells which. -/
def deletion? (K : Type) [ManagedObject K] (body : δ) : Option Unit := do
  if (← Document.json? body).get? "kind" = some (.str "Status") then guard (isStatus body)
  else
    let _ ← ManagedObject.ofDocument? (K := K) body
    return ()

end Forms

end TabletFleet
