import LdkLspClient.Codec

/-!
`LiquidityManager` of `transport/message_handler.rs`: the state the facade keeps, how it
routes a decoded message to a protocol handler, and the outbound queue that it and the
handlers share. The handlers themselves (`LSPS0MessageHandler`, `JITChannelManager`) are
not among the sources; each is a function of its own state, and its only effect on the
shared queue is to push messages of its protocol onto it, which `Into<LSPSMessage>` wraps.
-/

namespace LdkLspClient

/-- What one call into a protocol handler does: the state it leaves, the messages of its
protocol it pushes onto the shared queue, in order, and what it returns. -/
structure Handled (σ ProtocolMessage ε : Type) where
  state : σ
  pushed : List (PublicKey × ProtocolMessage)
  result : Except ε Unit

structure ProtocolMessageHandler (σ ProtocolMessage : Type) where
  handleMessage : σ → ProtocolMessage → PublicKey → Handled σ ProtocolMessage LightningError

structure JITChannelsConfig where
  promiseSecret : List UInt8
  minPaymentSizeMsat : UInt64
  maxPaymentSizeMsat : UInt64
  deriving DecidableEq, Repr

structure LiquidityProviderConfig where
  jitChannels : Option JITChannelsConfig
  deriving DecidableEq, Repr

/-- The fields of `LiquidityManager` that the modelled functions read; `σ0` and `σ2` are the
states of its LSPS0 and LSPS2 handlers. -/
structure LiquidityManager (σ0 σ2 : Type) where
  pendingMessages : List (PublicKey × LSPSMessage)
  requestIdToMethodMap : String → Option String
  lsps0MessageHandler : σ0
  lsps2MessageHandler : Option σ2
  providerConfig : Option LiquidityProviderConfig
  bestBlock : BestBlock

/-- A facade call with its pushes kept apart: the state it leaves, the queue not yet
touched, the messages it pushes onto the queue, and what it returns. -/
structure Outcome (σ0 σ2 ε : Type) where
  manager : LiquidityManager σ0 σ2
  pushed : List (PublicKey × LSPSMessage)
  result : Except ε Unit

section Facade

variable {σ0 σ2 ε : Type} (lsps0 : ProtocolMessageHandler σ0 LSPS0Message)
  (lsps2 : ProtocolMessageHandler σ2 LSPS2Message)

def Outcome.apply (o : Outcome σ0 σ2 ε) : LiquidityManager σ0 σ2 :=
  { o.manager with pendingMessages := o.manager.pendingMessages ++ o.pushed }

/-- `LiquidityManager::new`. The LSPS0 handler is built with no protocols, the JIT handler
only when JIT channels are configured. -/
def LiquidityManager.new (lsps0MessageHandlerNew : List UInt16 → σ0)
    (jitChannelManagerNew : JITChannelsConfig → σ2)
    (providerConfig : Option LiquidityProviderConfig) (chainParams : ChainParameters) :
    LiquidityManager σ0 σ2 :=
  { pendingMessages := []
    requestIdToMethodMap := fun _ => none
    lsps0MessageHandler := lsps0MessageHandlerNew []
    lsps2MessageHandler := providerConfig.bind fun config =>
      config.jitChannels.map jitChannelManagerNew
    providerConfig
    bestBlock := chainParams.bestBlock }

def LiquidityManager.enqueueMessage (lm : LiquidityManager σ0 σ2) (nodeId : PublicKey)
    (msg : LSPSMessage) : LiquidityManager σ0 σ2 :=
  { lm with pendingMessages := lm.pendingMessages ++ [(nodeId, msg)] }

def LiquidityManager.handleLspsMessage (lm : LiquidityManager σ0 σ2) (msg : LSPSMessage)
    (senderNodeId : PublicKey) : Outcome σ0 σ2 LightningError :=
  match msg with
  | .Invalid =>
    ⟨lm, [], .error { err := s!"{senderNodeId} did not understand a message we previously sent, maybe they don't support a protocol we are trying to use?", action := .IgnoreAndLog .Error }⟩
  | .LSPS0 msg =>
    let h := lsps0.handleMessage lm.lsps0MessageHandler msg senderNodeId
    ⟨{ lm with lsps0MessageHandler := h.state }, h.pushed.map fun (nodeId, m) => (nodeId, .LSPS0 m),
      h.result⟩
  | .LSPS2 msg =>
    match lm.lsps2MessageHandler with
    | some lsps2MessageHandler =>
      let h := lsps2.handleMessage lsps2MessageHandler msg senderNodeId
      ⟨{ lm with lsps2MessageHandler := some h.state },
        h.pushed.map fun (nodeId, m) => (nodeId, .LSPS2 m), h.result⟩
    | none =>
      ⟨lm, [], .error { err := "Received LSPS2 message without LSPS2 message handler configured. From node = " ++ senderNodeId.fmtDebug, action := .IgnoreAndLog .Info }⟩

/-- `handle_custom_message`: decode against the map, then route the message, or push an
`Invalid` notification back to a sender whose payload did not decode. -/
def LiquidityManager.handleCustomMessage (lm : LiquidityManager σ0 σ2) (msg : RawLSPSMessage)
    (senderNodeId : PublicKey) : Outcome σ0 σ2 LightningError :=
  let decoded := LSPSMessage.fromStrWithIdMap msg.payload lm.requestIdToMethodMap
  let lm := { lm with requestIdToMethodMap := decoded.2 }
  match decoded.1 with
  | .ok msg => lm.handleLspsMessage lsps0 lsps2 msg senderNodeId
  | .error _ => ⟨lm, [(senderNodeId, .Invalid)], .ok ()⟩

/-- The closure of `get_and_clear_pending_msg`, on one queued message: a request's method is
recorded under its id. -/
def recordRequest (requestIdToMethodMap : String → Option String)
    (pending : PublicKey × LSPSMessage) : String → Option String :=
  match pending.2.getRequestIdAndMethod with
  | some (requestId, methodName) => Function.update requestIdToMethodMap requestId (some methodName)
  | none => requestIdToMethodMap

def toRaw (pending : PublicKey × LSPSMessage) : PublicKey × RawLSPSMessage :=
  (pending.1, ⟨serialize pending.2⟩)

def drainPendingMsgs : (String → Option String) → List (PublicKey × LSPSMessage) →
    (String → Option String) × List (PublicKey × RawLSPSMessage)
  | requestIdToMethodMap, [] => (requestIdToMethodMap, [])
  | requestIdToMethodMap, pending :: rest =>
    let drained := drainPendingMsgs (recordRequest requestIdToMethodMap pending) rest
    (drained.1, toRaw pending :: drained.2)

def LiquidityManager.getAndClearPendingMsg (lm : LiquidityManager σ0 σ2) :
    LiquidityManager σ0 σ2 × List (PublicKey × RawLSPSMessage) :=
  let drained := drainPendingMsgs lm.requestIdToMethodMap lm.pendingMessages
  ({ lm with pendingMessages := [], requestIdToMethodMap := drained.1 }, drained.2)

def lspsFeatureBit : Nat := 729

/-- The body shared by `provided_node_features` and `provided_init_features`, in the feature
context of each; `Except.error` is the panic of their `unwrap`. -/
def LiquidityManager.providedFeatures (lm : LiquidityManager σ0 σ2) (ctx : FeatureContext) :
    Except Unit Features :=
  let features := Features.empty
  if lm.providerConfig.isSome then features.setOptionalCustomBit ctx lspsFeatureBit
  else .ok features

def LiquidityManager.providedNodeFeatures (lm : LiquidityManager σ0 σ2)
    (nodeContext : FeatureContext) : Except Unit Features :=
  lm.providedFeatures nodeContext

def LiquidityManager.providedInitFeatures (lm : LiquidityManager σ0 σ2)
    (initContext : FeatureContext) (_theirNodeId : PublicKey) : Except Unit Features :=
  lm.providedFeatures initContext

/-! ## What each call does -/

@[simp] theorem Outcome.apply_pendingMessages (o : Outcome σ0 σ2 ε) :
    o.apply.pendingMessages = o.manager.pendingMessages ++ o.pushed := rfl

@[simp] theorem Outcome.apply_requestIdToMethodMap (o : Outcome σ0 σ2 ε) :
    o.apply.requestIdToMethodMap = o.manager.requestIdToMethodMap := rfl

theorem handleLspsMessage_frame (lm : LiquidityManager σ0 σ2) (msg : LSPSMessage)
    (senderNodeId : PublicKey) :
    (lm.handleLspsMessage lsps0 lsps2 msg senderNodeId).manager.pendingMessages =
        lm.pendingMessages ∧
      (lm.handleLspsMessage lsps0 lsps2 msg senderNodeId).manager.requestIdToMethodMap =
        lm.requestIdToMethodMap := by
  unfold LiquidityManager.handleLspsMessage
  split
  · exact ⟨rfl, rfl⟩
  · exact ⟨rfl, rfl⟩
  · split <;> exact ⟨rfl, rfl⟩

theorem handleCustomMessage_frame (lm : LiquidityManager σ0 σ2) (msg : RawLSPSMessage)
    (senderNodeId : PublicKey) :
    (lm.handleCustomMessage lsps0 lsps2 msg senderNodeId).manager.pendingMessages =
        lm.pendingMessages ∧
      (lm.handleCustomMessage lsps0 lsps2 msg senderNodeId).manager.requestIdToMethodMap =
        (LSPSMessage.fromStrWithIdMap msg.payload lm.requestIdToMethodMap).2 := by
  unfold LiquidityManager.handleCustomMessage
  dsimp only
  split
  · exact handleLspsMessage_frame lsps0 lsps2 _ _ _
  · exact ⟨rfl, rfl⟩

/-- The `Invalid` notification does not decode, so it is answered with another: the facade
pushes `Invalid` back to its sender, leaves the map and the handlers alone and returns `Ok`. -/
theorem handleCustomMessage_serialize_invalid (lm : LiquidityManager σ0 σ2)
    (senderNodeId : PublicKey) :
    lm.handleCustomMessage lsps0 lsps2 ⟨serialize .Invalid⟩ senderNodeId =
      ⟨lm, [(senderNodeId, .Invalid)], .ok ()⟩ := by
  simp only [LiquidityManager.handleCustomMessage, fromStrWithIdMap_serialize_invalid]

theorem drainPendingMsgs_eq (requestIdToMethodMap : String → Option String)
    (pending : List (PublicKey × LSPSMessage)) :
    drainPendingMsgs requestIdToMethodMap pending =
      (pending.foldl recordRequest requestIdToMethodMap, pending.map toRaw) := by
  induction pending generalizing requestIdToMethodMap with
  | nil => rfl
  | cons p rest ih => simp [drainPendingMsgs, ih]

/-- The drain hands over the whole queue in order, serialized, records the method of every
request in it, and leaves the queue empty. -/
theorem getAndClearPendingMsg_eq (lm : LiquidityManager σ0 σ2) :
    lm.getAndClearPendingMsg =
      ({ lm with
          pendingMessages := []
          requestIdToMethodMap := lm.pendingMessages.foldl recordRequest lm.requestIdToMethodMap },
        lm.pendingMessages.map toRaw) := by
  simp [LiquidityManager.getAndClearPendingMsg, drainPendingMsgs_eq]

theorem providedFeatures_eq (lm : LiquidityManager σ0 σ2) (ctx : FeatureContext)
    (h : ctx.knows lspsFeatureBit = false) :
    lm.providedFeatures ctx = .ok ⟨if lm.providerConfig.isSome then [lspsFeatureBit] else []⟩ := by
  unfold LiquidityManager.providedFeatures
  split
  · simp only [Features.setOptionalCustomBit, Features.setCustomBit, lspsFeatureBit] at h ⊢
    simp [h, Features.empty]
  · rfl

/-- Neither features call panics in contexts that do not know bit 729; both give the same
features, which carry the bit exactly when a provider configuration was given. -/
theorem provided_features_lsps_bit (lm : LiquidityManager σ0 σ2)
    (nodeContext initContext : FeatureContext) (theirNodeId : PublicKey)
    (hnode : nodeContext.knows lspsFeatureBit = false)
    (hinit : initContext.knows lspsFeatureBit = false) :
    ∃ f, lm.providedNodeFeatures nodeContext = .ok f ∧
      lm.providedInitFeatures initContext theirNodeId = .ok f ∧
      (f.supports lspsFeatureBit = true ↔ lm.providerConfig.isSome = true) := by
  refine ⟨⟨if lm.providerConfig.isSome then [lspsFeatureBit] else []⟩,
    providedFeatures_eq lm _ hnode, providedFeatures_eq lm _ hinit, ?_⟩
  cases lm.providerConfig <;> exact Iff.rfl

/-- With a provider configuration that has no JIT channels, `new` sets the LSPS feature bit
but builds no LSPS2 handler, so every LSPS2 message is refused with an error to log. -/
theorem lsps_bit_without_lsps2_handler (lsps0MessageHandlerNew : List UInt16 → σ0)
    (jitChannelManagerNew : JITChannelsConfig → σ2) (chainParams : ChainParameters)
    (nodeContext : FeatureContext) (hnode : nodeContext.knows lspsFeatureBit = false)
    (msg : LSPS2Message) (senderNodeId : PublicKey) :
    let lm := LiquidityManager.new lsps0MessageHandlerNew jitChannelManagerNew (some ⟨none⟩)
      chainParams
    lm.providedNodeFeatures nodeContext = .ok ⟨[lspsFeatureBit]⟩ ∧
      lm.handleLspsMessage lsps0 lsps2 (.LSPS2 msg) senderNodeId =
        ⟨lm, [], .error { err := "Received LSPS2 message without LSPS2 message handler configured. From node = " ++ senderNodeId.fmtDebug, action := .IgnoreAndLog .Info }⟩ :=
  ⟨providedFeatures_eq _ nodeContext hnode, rfl⟩

end Facade

end LdkLspClient
