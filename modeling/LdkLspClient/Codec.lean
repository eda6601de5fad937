import LdkLspClient.Msgs

/-!
The JSON-RPC codec of `transport/msgs.rs`, which is not among the sources, as the spec
describes it (§4.1). A payload is read as a JSON-RPC object; a request is typed by its
method; a response carries only its id and is typed by the method that id was sent with,
which the caller's map records, and decoding a response removes its id from the map.
-/

namespace LdkLspClient

/-- Modelled from the spec: a `params` or `result` object, by the shape it has. -/
inductive Body
  | empty
  | protocols (protocols : List UInt16)
  | getVersions (r : GetVersionsResponse)
  | getInfoRequest (r : GetInfoRequest)
  | getInfo (r : GetInfoResponse)
  | buyRequest (r : BuyRequest)
  | buy (r : BuyResponse)
  deriving DecidableEq, Repr

/-- Modelled from the spec: the members of a JSON-RPC 2.0 object. -/
structure Envelope where
  id : Option String
  method : Option String
  params : Option Body
  result : Option Body
  error : Option ResponseError
  deriving DecidableEq, Repr

/-- Modelled from the spec: a payload string as `serde_json` reads it, the text of a
JSON-RPC object or text that is not one. -/
inductive Payload
  | object (e : Envelope)
  | malformed (text : String)
  deriving DecidableEq, Repr

/-- Modelled from the spec: `RawLSPSMessage`, the custom message a payload travels in. -/
structure RawLSPSMessage where
  payload : Payload
  deriving DecidableEq, Repr

/-- Modelled from the spec: why a payload could not be decoded. -/
inductive DecodeError
  | invalidJson
  | unknownMethod (method : String)
  | invalidParams (method : String)
  | unknownRequestId (id : String)
  | invalidResponse (method : String)
  | unknownNotification (method : String)
  | missingIdAndMethod
  deriving DecidableEq, Repr

/-- The error code the `Invalid` notification carries, JSON-RPC's parse error. The spec does
not fix it, and no decode reads it. -/
def jsonrpcInvalidMessageErrorCode : Int := -32700

def jsonrpcInvalidMessageError : ResponseError :=
  { code := jsonrpcInvalidMessageErrorCode, message := "parse error", data := none }

def Envelope.request (id method : String) (params : Body) : Envelope :=
  ⟨some id, some method, some params, none, none⟩

def Envelope.success (id : String) (result : Body) : Envelope := ⟨some id, none, none, some result, none⟩

def Envelope.failure (id : String) (error : ResponseError) : Envelope :=
  ⟨some id, none, none, none, some error⟩

def LSPS2Request.params : LSPS2Request → Body
  | .GetVersions _ => .empty
  | .GetInfo r => .getInfoRequest r
  | .Buy r => .buyRequest r

/-- Modelled from the spec: the JSON-RPC object a message is written as. -/
def LSPSMessage.toEnvelope : LSPSMessage → Envelope
  | .Invalid => ⟨none, none, none, none, some jsonrpcInvalidMessageError⟩
  | .LSPS0 (.Request id r) => .request id.id r.method .empty
  | .LSPS0 (.Response id (.ListProtocols ps)) => .success id.id (.protocols ps)
  | .LSPS0 (.Response id (.ListProtocolsError e)) => .failure id.id e
  | .LSPS2 (.Request id r) => .request id.id r.method r.params
  | .LSPS2 (.Response id (.GetVersions r)) => .success id.id (.getVersions r)
  | .LSPS2 (.Response id (.GetInfo r)) => .success id.id (.getInfo r)
  | .LSPS2 (.Response id (.GetInfoError e)) => .failure id.id e
  | .LSPS2 (.Response id (.Buy r)) => .success id.id (.buy r)
  | .LSPS2 (.Response id (.BuyError e)) => .failure id.id e

/-- `serde_json::to_string` of a message. -/
def serialize (m : LSPSMessage) : Payload := .object m.toEnvelope

/-- Modelled from the spec: the request a method and its params spell. -/
def decodeRequest (id : RequestId) (method : String) (params : Option Body) :
    Except DecodeError LSPSMessage :=
  if method = lsps0ListProtocolsMethodName then
    match params with
    | some .empty => .ok (.LSPS0 (.Request id .ListProtocols))
    | _ => .error (.invalidParams method)
  else if method = lsps2GetVersionsMethodName then
    match params with
    | some .empty => .ok (.LSPS2 (.Request id (.GetVersions {})))
    | _ => .error (.invalidParams method)
  else if method = lsps2GetInfoMethodName then
    match params with
    | some (.getInfoRequest r) => .ok (.LSPS2 (.Request id (.GetInfo r)))
    | _ => .error (.invalidParams method)
  else if method = lsps2BuyMethodName then
    match params with
    | some (.buyRequest r) => .ok (.LSPS2 (.Request id (.Buy r)))
    | _ => .error (.invalidParams method)
  else .error (.unknownMethod method)

/-- Modelled from the spec: the response to `method` that a `result` or an `error` spells;
exactly one of them is present. -/
def decodeResponse (id : RequestId) (method : String) (result : Option Body)
    (error : Option ResponseError) : Except DecodeError LSPSMessage :=
  if method = lsps0ListProtocolsMethodName then
    match result, error with
    | some (.protocols ps), none => .ok (.LSPS0 (.Response id (.ListProtocols ps)))
    | none, some e => .ok (.LSPS0 (.Response id (.ListProtocolsError e)))
    | _, _ => .error (.invalidResponse method)
  else if method = lsps2GetVersionsMethodName then
    match result, error with
    | some (.getVersions r), none => .ok (.LSPS2 (.Response id (.GetVersions r)))
    | _, _ => .error (.invalidResponse method)
  else if method = lsps2GetInfoMethodName then
    match result, error with
    | some (.getInfo r), none => .ok (.LSPS2 (.Response id (.GetInfo r)))
    | none, some e => .ok (.LSPS2 (.Response id (.GetInfoError e)))
    | _, _ => .error (.invalidResponse method)
  else if method = lsps2BuyMethodName then
    match result, error with
    | some (.buy r), none => .ok (.LSPS2 (.Response id (.Buy r)))
    | none, some e => .ok (.LSPS2 (.Response id (.BuyError e)))
    | _, _ => .error (.invalidResponse method)
  else .error (.unknownMethod method)

/-- Modelled from the spec: `LSPSMessage::from_str_with_id_map`. A response's id is looked
up in the map and removed from it, whether or not the response then decodes. An object with
neither id nor method is neither a request nor a response, so it does not decode (§4.1, §7);
an id of `null` is the absent id here, as §4.1 takes the two alike. -/
def LSPSMessage.fromStrWithIdMap (payload : Payload)
    (requestIdToMethodMap : String → Option String) :
    Except DecodeError LSPSMessage × (String → Option String) :=
  match payload with
  | .malformed _ => (.error .invalidJson, requestIdToMethodMap)
  | .object e =>
    match e.id, e.method with
    | some id, some method => (decodeRequest ⟨id⟩ method e.params, requestIdToMethodMap)
    | some id, none =>
      let map := Function.update requestIdToMethodMap id none
      match requestIdToMethodMap id with
      | some method => (decodeResponse ⟨id⟩ method e.result e.error, map)
      | none => (.error (.unknownRequestId id), map)
    | none, some method => (.error (.unknownNotification method), requestIdToMethodMap)
    | none, none => (.error .missingIdAndMethod, requestIdToMethodMap)

def Payload.responseId : Payload → Option String
  | .object ⟨some id, none, _, _, _⟩ => some id
  | _ => none

theorem decodeRequest_eq_ok {id : RequestId} {method : String} {params : Option Body}
    {msg : LSPSMessage} (h : decodeRequest id method params = .ok msg) :
    msg.getRequestIdAndMethod = some (id.id, method) ∧ msg.responseIdAndMethod = none := by
  unfold decodeRequest at h
  split_ifs at h with h0 h1 h2 h3 <;> split at h <;> cases h <;> subst_vars <;>
    exact ⟨rfl, rfl⟩

theorem decodeResponse_eq_ok {id : RequestId} {method : String} {result : Option Body}
    {error : Option ResponseError} {msg : LSPSMessage}
    (h : decodeResponse id method result error = .ok msg) :
    msg.responseIdAndMethod = some (id.id, method) := by
  unfold decodeResponse at h
  split_ifs at h with h0 h1 h2 h3 <;> split at h <;> cases h <;> subst_vars <;> rfl

/-- Decoding changes the map only at the id a payload answers, which it removes. -/
theorem fromStrWithIdMap_map (p : Payload) (map : String → Option String) :
    (LSPSMessage.fromStrWithIdMap p map).2 =
      match p.responseId with
      | some id => Function.update map id none
      | none => map := by
  rcases p with ⟨⟨_ | id, _ | method, params, result, error⟩⟩ | text
  all_goals simp only [LSPSMessage.fromStrWithIdMap, Payload.responseId]
  split <;> rfl

theorem fromStrWithIdMap_response {p : Payload} {map : String → Option String}
    {msg : LSPSMessage} {id method : String}
    (h : (LSPSMessage.fromStrWithIdMap p map).1 = .ok msg)
    (hr : msg.responseIdAndMethod = some (id, method)) :
    p.responseId = some id ∧ map id = some method := by
  rcases p with ⟨⟨_ | i, _ | m, params, result, error⟩⟩ | text
  · cases h
  · cases h
  · simp only [LSPSMessage.fromStrWithIdMap] at h
    split at h
    · rename_i m hm
      rw [decodeResponse_eq_ok h] at hr
      cases hr
      exact ⟨rfl, hm⟩
    · cases h
  · rw [(decodeRequest_eq_ok h).2] at hr
    cases hr
  · cases h

/-- The `Invalid` notification, an object with neither id nor method, does not decode, and
leaves the map as it was. -/
theorem fromStrWithIdMap_serialize_invalid (map : String → Option String) :
    LSPSMessage.fromStrWithIdMap (serialize .Invalid) map = (.error .missingIdAndMethod, map) :=
  rfl

theorem LSPSMessage.ne_invalid_of_response {m : LSPSMessage} {p : String × String}
    (h : m.responseIdAndMethod = some p) : m ≠ .Invalid := by
  rintro rfl
  cases h

/-- **Envelope round trip** (§8): a typed message, any but `Invalid`, reads back as itself
from a map that holds the method of the request it answers. -/
theorem fromStrWithIdMap_serialize (m : LSPSMessage) (map : String → Option String)
    (hm : m ≠ .Invalid)
    (hseed : ∀ id method, m.responseIdAndMethod = some (id, method) → map id = some method) :
    (LSPSMessage.fromStrWithIdMap (serialize m) map).1 = .ok m := by
  simp only [LSPSMessage.responseIdAndMethod] at hseed
  rcases m with _ | ⟨⟨id, ⟨⟩⟩ | ⟨id, ps | e⟩⟩ | ⟨⟨id, r | r | r⟩ | ⟨id, r | r | e | r | e⟩⟩
  · exact absurd rfl hm
  all_goals first
    | rfl
    | simp_all [LSPSMessage.fromStrWithIdMap, serialize, LSPSMessage.toEnvelope, Envelope.request,
        Envelope.success, Envelope.failure, LSPS2Request.method, LSPS2Request.params,
        LSPS0Request.method, decodeRequest, decodeResponse, lsps0ListProtocolsMethodName,
        lsps2GetVersionsMethodName, lsps2GetInfoMethodName, lsps2BuyMethodName]

end LdkLspClient
