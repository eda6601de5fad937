import LdkLspClient.Host

/-!
The LSPS2 messages of `jit_channel/msgs.rs`, and the transport messages they are carried
in. `transport/msgs.rs` is not among the sources: `RequestId`, `ResponseError`, the LSPS0
messages and `LSPSMessage` follow the spec (§3, §4.1, §4.4) and the uses in the sources.
-/

namespace LdkLspClient

/-- Modelled from the spec: `RequestId`, an opaque string (§3). -/
structure RequestId where
  id : String
  deriving DecidableEq, Repr

/-- Modelled from the spec: a JSON-RPC error object. -/
structure ResponseError where
  code : Int
  message : String
  data : Option String
  deriving DecidableEq, Repr

def lsps2GetVersionsMethodName : String := "lsps2.get_versions"
def lsps2GetInfoMethodName : String := "lsps2.get_info"
def lsps2BuyMethodName : String := "lsps2.buy"

structure GetVersionsRequest where
  deriving DecidableEq, Repr

structure GetVersionsResponse where
  versions : List UInt16
  deriving DecidableEq, Repr

structure GetInfoRequest where
  version : UInt16
  token : Option String
  deriving DecidableEq, Repr

structure RawOpeningFeeParams where
  minFeeMsat : UInt64
  proportional : UInt32
  validUntil : DateTime
  minLifetime : UInt32
  maxClientToSelfDelay : UInt32
  deriving DecidableEq, Repr

structure OpeningFeeParams where
  minFeeMsat : UInt64
  proportional : UInt32
  validUntil : DateTime
  minLifetime : UInt32
  maxClientToSelfDelay : UInt32
  promise : String
  deriving DecidableEq, Repr

structure GetInfoResponse where
  openingFeeParamsMenu : List OpeningFeeParams
  minPaymentSizeMsat : UInt64
  maxPaymentSizeMsat : UInt64
  deriving DecidableEq, Repr

structure BuyRequest where
  version : UInt16
  openingFeeParams : OpeningFeeParams
  paymentSizeMsat : Option UInt64
  deriving DecidableEq, Repr

structure JitChannelScid where
  scid : String
  deriving DecidableEq, Repr

structure BuyResponse where
  jitChannelScid : JitChannelScid
  lspCltvExpiryDelta : UInt32
  clientTrustsLsp : Bool
  deriving DecidableEq, Repr

inductive LSPS2Request
  | GetVersions (r : GetVersionsRequest)
  | GetInfo (r : GetInfoRequest)
  | Buy (r : BuyRequest)
  deriving DecidableEq, Repr

def LSPS2Request.method : LSPS2Request → String
  | .GetVersions _ => lsps2GetVersionsMethodName
  | .GetInfo _ => lsps2GetInfoMethodName
  | .Buy _ => lsps2BuyMethodName

inductive LSPS2Response
  | GetVersions (r : GetVersionsResponse)
  | GetInfo (r : GetInfoResponse)
  | GetInfoError (e : ResponseError)
  | Buy (r : BuyResponse)
  | BuyError (e : ResponseError)
  deriving DecidableEq, Repr

inductive LSPS2Message
  | Request (id : RequestId) (r : LSPS2Request)
  | Response (id : RequestId) (r : LSPS2Response)
  deriving DecidableEq, Repr

/-- Modelled from the spec: the one LSPS0 method, `lsps0.list_protocols` (§4.4). -/
def lsps0ListProtocolsMethodName : String := "lsps0.list_protocols"

/-- Modelled from the spec: the LSPS0 request. -/
inductive LSPS0Request
  | ListProtocols
  deriving DecidableEq, Repr

def LSPS0Request.method : LSPS0Request → String
  | .ListProtocols => lsps0ListProtocolsMethodName

/-- Modelled from the spec: the enabled protocol numbers, or an error. -/
inductive LSPS0Response
  | ListProtocols (protocols : List UInt16)
  | ListProtocolsError (e : ResponseError)
  deriving DecidableEq, Repr

inductive LSPS0Message
  | Request (id : RequestId) (r : LSPS0Request)
  | Response (id : RequestId) (r : LSPS0Response)
  deriving DecidableEq, Repr

/-- Modelled from the spec: a decoded message, or `Invalid` for one a peer could not read. -/
inductive LSPSMessage
  | Invalid
  | LSPS0 (m : LSPS0Message)
  | LSPS2 (m : LSPS2Message)
  deriving DecidableEq, Repr

def LSPS2Message.tryFrom : LSPSMessage → Except Unit LSPS2Message
  | .LSPS2 m => .ok m
  | _ => .error ()

theorem LSPS2Message.tryFrom_eq_ok {m : LSPSMessage} {m2 : LSPS2Message} :
    LSPS2Message.tryFrom m = .ok m2 ↔ m = .LSPS2 m2 := by
  cases m <;> simp [LSPS2Message.tryFrom]

/-- Modelled from the spec: the id and method a request carries, recorded when it is sent. -/
def LSPSMessage.getRequestIdAndMethod : LSPSMessage → Option (String × String)
  | .LSPS0 (.Request id r) => some (id.id, r.method)
  | .LSPS2 (.Request id r) => some (id.id, r.method)
  | _ => none

def LSPSMessage.responseIdAndMethod : LSPSMessage → Option (String × String)
  | .LSPS0 (.Response id _) => some (id.id, lsps0ListProtocolsMethodName)
  | .LSPS2 (.Response id (.GetVersions _)) => some (id.id, lsps2GetVersionsMethodName)
  | .LSPS2 (.Response id (.GetInfo _)) | .LSPS2 (.Response id (.GetInfoError _)) =>
    some (id.id, lsps2GetInfoMethodName)
  | .LSPS2 (.Response id (.Buy _)) | .LSPS2 (.Response id (.BuyError _)) =>
    some (id.id, lsps2BuyMethodName)
  | _ => none

end LdkLspClient
