import LdkLspClient.Session

namespace LdkLspClient

/-- The operations of `JITChannelManager` that the facade calls. That manager is not among the
sources: each operation gives the handler's state, the LSPS2 messages it pushes and its
result. -/
structure JitChannelOps (σ2 : Type) where
  createInvoice : σ2 → PublicKey → Option UInt64 → Option String → Nat →
    σ2 × List (PublicKey × LSPS2Message)
  openingFeeParamsGenerated : σ2 → PublicKey → RequestId → List RawOpeningFeeParams →
    Handled σ2 LSPS2Message APIError
  openingFeeParamsSelected : σ2 → PublicKey → Nat → OpeningFeeParams →
    Handled σ2 LSPS2Message APIError
  invoiceParametersGenerated : σ2 → PublicKey → RequestId → UInt64 → UInt32 → Bool →
    Handled σ2 LSPS2Message APIError
  htlcIntercepted : σ2 → UInt64 → InterceptId → UInt64 → UInt64 →
    Handled σ2 LSPS2Message APIError
  channelReady : σ2 → Nat → ChannelId → PublicKey → Handled σ2 LSPS2Message APIError

section Api

variable {σ0 σ2 : Type} (jit : JitChannelOps σ2)

def LiquidityManager.callLsps2 (lm : LiquidityManager σ0 σ2) (h : Handled σ2 LSPS2Message APIError) :
    Outcome σ0 σ2 APIError :=
  ⟨{ lm with lsps2MessageHandler := some h.state },
    h.pushed.map fun (nodeId, m) => (nodeId, .LSPS2 m), h.result⟩

/-- The body of the four calls that need JIT channels: the call into the LSPS2 handler, or
`APIMisuseError` when there is none. -/
def LiquidityManager.requireJitChannels (lm : LiquidityManager σ0 σ2)
    (call : σ2 → Handled σ2 LSPS2Message APIError) : Outcome σ0 σ2 APIError :=
  match lm.lsps2MessageHandler with
  | some lsps2MessageHandler => lm.callLsps2 (call lsps2MessageHandler)
  | none =>
    ⟨lm, [], .error (.APIMisuseError "JIT Channels were not configured when LSPManager was instantiated")⟩

/-- The body of `htlc_intercepted` and `channel_ready`: the call into the LSPS2 handler, its
error passed on by `?`, or `Ok` when there is no handler. -/
def LiquidityManager.ifJitChannels (lm : LiquidityManager σ0 σ2)
    (call : σ2 → Handled σ2 LSPS2Message APIError) : Outcome σ0 σ2 APIError :=
  match lm.lsps2MessageHandler with
  | some lsps2MessageHandler => lm.callLsps2 (call lsps2MessageHandler)
  | none => ⟨lm, [], .ok ()⟩

def LiquidityManager.jitChannelCreateInvoice (lm : LiquidityManager σ0 σ2)
    (counterpartyNodeId : PublicKey) (paymentSizeMsat : Option UInt64) (token : Option String)
    (userChannelId : Nat) : Outcome σ0 σ2 APIError :=
  lm.requireJitChannels fun lsps2MessageHandler =>
    let r := jit.createInvoice lsps2MessageHandler counterpartyNodeId paymentSizeMsat token
      userChannelId
    ⟨r.1, r.2, .ok ()⟩

def LiquidityManager.openingFeeParamsGenerated (lm : LiquidityManager σ0 σ2)
    (counterpartyNodeId : PublicKey) (requestId : RequestId)
    (openingFeeParamsMenu : List RawOpeningFeeParams) : Outcome σ0 σ2 APIError :=
  lm.requireJitChannels fun lsps2MessageHandler =>
    jit.openingFeeParamsGenerated lsps2MessageHandler counterpartyNodeId requestId
      openingFeeParamsMenu

def LiquidityManager.openingFeeParamsSelected (lm : LiquidityManager σ0 σ2)
    (counterpartyNodeId : PublicKey) (channelId : Nat) (openingFeeParams : OpeningFeeParams) :
    Outcome σ0 σ2 APIError :=
  lm.requireJitChannels fun lsps2MessageHandler =>
    jit.openingFeeParamsSelected lsps2MessageHandler counterpartyNodeId channelId openingFeeParams

def LiquidityManager.invoiceParametersGenerated (lm : LiquidityManager σ0 σ2)
    (counterpartyNodeId : PublicKey) (requestId : RequestId) (scid : UInt64)
    (cltvExpiryDelta : UInt32) (clientTrustsLsp : Bool) : Outcome σ0 σ2 APIError :=
  lm.requireJitChannels fun lsps2MessageHandler =>
    jit.invoiceParametersGenerated lsps2MessageHandler counterpartyNodeId requestId scid
      cltvExpiryDelta clientTrustsLsp

def LiquidityManager.htlcIntercepted (lm : LiquidityManager σ0 σ2) (scid : UInt64)
    (interceptId : InterceptId) (inboundAmountMsat expectedOutboundAmountMsat : UInt64) :
    Outcome σ0 σ2 APIError :=
  lm.ifJitChannels fun lsps2MessageHandler =>
    jit.htlcIntercepted lsps2MessageHandler scid interceptId inboundAmountMsat
      expectedOutboundAmountMsat

def LiquidityManager.channelReady (lm : LiquidityManager σ0 σ2) (userChannelId : Nat)
    (channelId : ChannelId) (counterpartyNodeId : PublicKey) : Outcome σ0 σ2 APIError :=
  lm.ifJitChannels fun lsps2MessageHandler =>
    jit.channelReady lsps2MessageHandler userChannelId channelId counterpartyNodeId

theorem requireJitChannels_none {lm : LiquidityManager σ0 σ2}
    (hnone : lm.lsps2MessageHandler = none) (call : σ2 → Handled σ2 LSPS2Message APIError) :
    lm.requireJitChannels call =
      ⟨lm, [], .error (.APIMisuseError "JIT Channels were not configured when LSPManager was instantiated")⟩ := by
  simp [LiquidityManager.requireJitChannels, hnone]

theorem ifJitChannels_none {lm : LiquidityManager σ0 σ2} (hnone : lm.lsps2MessageHandler = none)
    (call : σ2 → Handled σ2 LSPS2Message APIError) : lm.ifJitChannels call = ⟨lm, [], .ok ()⟩ := by
  simp [LiquidityManager.ifJitChannels, hnone]

/-- With no LSPS2 handler, the four calls that need one
refuse with `APIMisuseError`, while `htlc_intercepted` and `channel_ready` return `Ok`; none
of them changes the manager or pushes a message. -/
theorem jit_calls_without_handler (lm : LiquidityManager σ0 σ2)
    (hnone : lm.lsps2MessageHandler = none) (counterpartyNodeId : PublicKey)
    (paymentSizeMsat : Option UInt64) (token : Option String) (userChannelId channelId : Nat)
    (requestId : RequestId) (openingFeeParamsMenu : List RawOpeningFeeParams)
    (openingFeeParams : OpeningFeeParams) (scid : UInt64) (cltvExpiryDelta : UInt32)
    (clientTrustsLsp : Bool) (interceptId : InterceptId)
    (inboundAmountMsat expectedOutboundAmountMsat : UInt64) (readyChannelId : ChannelId) :
    let refused : Outcome σ0 σ2 APIError :=
      ⟨lm, [], .error (.APIMisuseError "JIT Channels were not configured when LSPManager was instantiated")⟩
    lm.jitChannelCreateInvoice jit counterpartyNodeId paymentSizeMsat token userChannelId =
        refused ∧
      lm.openingFeeParamsGenerated jit counterpartyNodeId requestId openingFeeParamsMenu =
        refused ∧
      lm.openingFeeParamsSelected jit counterpartyNodeId channelId openingFeeParams = refused ∧
      lm.invoiceParametersGenerated jit counterpartyNodeId requestId scid cltvExpiryDelta
        clientTrustsLsp = refused ∧
      lm.htlcIntercepted jit scid interceptId inboundAmountMsat expectedOutboundAmountMsat =
        ⟨lm, [], .ok ()⟩ ∧
      lm.channelReady jit userChannelId readyChannelId counterpartyNodeId = ⟨lm, [], .ok ()⟩ :=
  ⟨requireJitChannels_none hnone _, requireJitChannels_none hnone _,
    requireJitChannels_none hnone _, requireJitChannels_none hnone _,
    ifJitChannels_none hnone _, ifJitChannels_none hnone _⟩

end Api

end LdkLspClient
