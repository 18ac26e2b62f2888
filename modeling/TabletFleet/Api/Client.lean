import TabletFleet.Api.Message
import TabletFleet.Labels
import TabletFleet.Store.Basic

set_option autoImplicit false

/-! # The API server as a store

The five store calls as requests to the API server. How a request travels is left to a transport. -/

namespace TabletFleet

/-- Sends a request and waits for the answer; there is none if the connection fails. -/
structure Transport (σ : Type) where
  send : ApiRequest → StateM σ (Option ApiResponse)

namespace Transport

variable {σ : Type}

/-- The path of a kind's collection in a namespace. -/
def collectionPath (K : Type) [ManagedObject K] (ns : String) : String :=
  "/api/v1/namespaces/" ++ ns ++ "/" ++ ManagedObject.collection K

/-- The path of an object. -/
def objectPath (K : Type) [ManagedObject K] (key : ObjectKey) : String :=
  collectionPath K key.ns ++ "/" ++ key.name

/-- A path with a query that has no fields. -/
def queried (path : String) : String := path ++ "?"

/-- The target of a list request. -/
def listTarget (K : Type) [ManagedObject K] (ns : String) (selector : StringMap) : String :=
  queried (collectionPath K ns)
    ++ if selector.isEmpty then "" else "&labelSelector=" ++ Target.encoded (Selector.text selector)

/-- Send a request to a target, if it can be one, and read the answer. -/
def exchange {α : Type} (t : Transport σ) (method : HttpMethod) (target : String)
    (body : Option Json) (decode : Nested Json.Source → Option α) : StateM σ (Except ApiError α) := do
  match Target.ofText? target with
  | none => return .error (.failed "the request names no valid target")
  | some target => return ApiResponse.read decode (← t.send { method, target, body })

/-- The calls on one kind of object. -/
def calls (t : Transport σ) (K : Type) [ManagedObject K] : ObjectStore σ K where
  get key := do
    match ← t.exchange .get (objectPath K key) none (ManagedObject.ofDocument? (K := K)) with
    | .ok object => return .ok (some object)
    | .error (.refused code reason) =>
      if reason == "NotFound" then return .ok none
      else return .error ((ApiError.refused code reason).toStoreError (ManagedObject.kind K) key)
    | .error e => return .error (e.toStoreError (ManagedObject.kind K) key)
  list ns selector := do
    return (← t.exchange .get (listTarget K ns selector) none listItems?).mapError ApiError.general
  create object := do
    match requireKey object with
    | .error e => return .error e
    | .ok key =>
      let answer ← t.exchange .post (queried (collectionPath K key.ns))
        (some (ManagedObject.toJson object)) ManagedObject.ofDocument?
      return answer.mapError (·.toStoreError (ManagedObject.kind K) key)
  update object := do
    match requireKey object with
    | .error e => return .error e
    | .ok key =>
      let answer ← t.exchange .put (queried (objectPath K key))
        (some (ManagedObject.toJson object)) ManagedObject.ofDocument?
      return answer.mapError (·.toStoreError (ManagedObject.kind K) key)
  delete key := do
    match ← t.exchange .delete (queried (objectPath K key)) (some (.obj [])) (deletion? K) with
    | .ok () => return .ok ()
    | .error e =>
      match e.toStoreError (ManagedObject.kind K) key with
      | .notFound _ _ => return .ok ()
      | e => return .error e

end Transport

end TabletFleet
