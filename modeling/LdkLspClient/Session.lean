import LdkLspClient.Manager

namespace LdkLspClient

/-- A call on the facade: `handle_custom_message` on a payload from a peer, one push onto the
shared queue by a protocol handler, or `get_and_clear_pending_msg`. -/
inductive Call
  | handleCustomMessage (msg : RawLSPSMessage) (senderNodeId : PublicKey)
  | push (nodeId : PublicKey) (msg : LSPSMessage)
  | getAndClearPendingMsg

/-- What a call showed: the payload it decoded and how, with what it pushed and returned;
a push; or the batch handed to the host. -/
inductive Observed
  | handled (senderNodeId : PublicKey) (payload : Payload)
      (decoded : Except DecodeError LSPSMessage) (pushed : List (PublicKey × LSPSMessage))
      (result : Except LightningError Unit)
  | pushed (nodeId : PublicKey) (msg : LSPSMessage)
  | drained (batch : List (PublicKey × RawLSPSMessage))

def Observed.pushes : Observed → List (PublicKey × LSPSMessage)
  | .handled _ _ _ msgs _ => msgs
  | .pushed nodeId msg => [(nodeId, msg)]
  | .drained _ => []

def Observed.batch : Observed → List (PublicKey × RawLSPSMessage)
  | .drained batch => batch
  | _ => []

section Run

variable {σ0 σ2 : Type} (lsps0 : ProtocolMessageHandler σ0 LSPS0Message)
  (lsps2 : ProtocolMessageHandler σ2 LSPS2Message)

def LiquidityManager.call (lm : LiquidityManager σ0 σ2) :
    Call → LiquidityManager σ0 σ2 × Observed
  | .handleCustomMessage msg senderNodeId =>
    let o := lm.handleCustomMessage lsps0 lsps2 msg senderNodeId
    (o.apply, .handled senderNodeId msg.payload
      (LSPSMessage.fromStrWithIdMap msg.payload lm.requestIdToMethodMap).1 o.pushed o.result)
  | .push nodeId msg => (lm.enqueueMessage nodeId msg, .pushed nodeId msg)
  | .getAndClearPendingMsg =>
    let drained := lm.getAndClearPendingMsg
    (drained.1, .drained drained.2)

/-- The calls in order: the state they leave and what each showed. A run takes the decode and
the routing of `handle_custom_message` as one step, though the source releases the map's lock
between them (`Threaded` steps lock by lock). A handler pushes one message a lock, so runs of
single pushes and drains cover every interleaving of the two. -/
def LiquidityManager.run (lm : LiquidityManager σ0 σ2) :
    List Call → LiquidityManager σ0 σ2 × List Observed
  | [] => (lm, [])
  | c :: cs =>
    let first := lm.call lsps0 lsps2 c
    let rest := first.1.run cs
    (rest.1, first.2 :: rest.2)

theorem run_append (lm : LiquidityManager σ0 σ2) (cs ds : List Call) :
    lm.run lsps0 lsps2 (cs ++ ds) =
      ((((lm.run lsps0 lsps2 cs).1).run lsps0 lsps2 ds).1,
        (lm.run lsps0 lsps2 cs).2 ++ (((lm.run lsps0 lsps2 cs).1).run lsps0 lsps2 ds).2) := by
  induction cs generalizing lm with
  | nil => rfl
  | cons c cs ih => simp [LiquidityManager.run, ih]

/-! ## The outbound queue -/

theorem call_queue (lm : LiquidityManager σ0 σ2) (c : Call) :
    (lm.call lsps0 lsps2 c).2.batch ++ (lm.call lsps0 lsps2 c).1.pendingMessages.map toRaw =
      (lm.pendingMessages ++ (lm.call lsps0 lsps2 c).2.pushes).map toRaw := by
  cases c with
  | handleCustomMessage msg senderNodeId =>
    simp [LiquidityManager.call, Observed.batch, Observed.pushes,
      (handleCustomMessage_frame lsps0 lsps2 lm msg senderNodeId).1]
  | push nodeId msg => simp [LiquidityManager.call, LiquidityManager.enqueueMessage,
      Observed.batch, Observed.pushes]
  | getAndClearPendingMsg => simp [LiquidityManager.call, getAndClearPendingMsg_eq,
      Observed.batch, Observed.pushes]

theorem run_queue (lm : LiquidityManager σ0 σ2) (calls : List Call) :
    (lm.run lsps0 lsps2 calls).2.flatMap Observed.batch ++
        (lm.run lsps0 lsps2 calls).1.pendingMessages.map toRaw =
      (lm.pendingMessages ++ (lm.run lsps0 lsps2 calls).2.flatMap Observed.pushes).map toRaw := by
  induction calls generalizing lm with
  | nil => simp [LiquidityManager.run]
  | cons c cs ih =>
    let first := lm.call lsps0 lsps2 c
    calc (first.2.batch ++ (first.1.run lsps0 lsps2 cs).2.flatMap Observed.batch) ++
          (first.1.run lsps0 lsps2 cs).1.pendingMessages.map toRaw
        = first.2.batch ++ (first.1.pendingMessages ++
            (first.1.run lsps0 lsps2 cs).2.flatMap Observed.pushes).map toRaw := by
          rw [List.append_assoc, ih]
      _ = (lm.pendingMessages ++ (first.2.pushes ++
            (first.1.run lsps0 lsps2 cs).2.flatMap Observed.pushes)).map toRaw := by
          rw [List.map_append, ← List.append_assoc, call_queue, ← List.map_append,
            List.append_assoc]

/-- **No message lost, duplicated or reordered.** Over any run, the batches handed to the
host, followed by what is still queued, are the queued and pushed messages in push order,
each serialized for its peer; a run that ends with a drain leaves nothing queued and has
handed everything over. -/
theorem get_and_clear_pending_msg_in_push_order (lm : LiquidityManager σ0 σ2)
    (calls : List Call) :
    (lm.run lsps0 lsps2 calls).2.flatMap Observed.batch ++
          (lm.run lsps0 lsps2 calls).1.pendingMessages.map toRaw =
        (lm.pendingMessages ++ (lm.run lsps0 lsps2 calls).2.flatMap Observed.pushes).map toRaw ∧
      (lm.run lsps0 lsps2 (calls ++ [.getAndClearPendingMsg])).1.pendingMessages = [] ∧
      (lm.run lsps0 lsps2 (calls ++ [.getAndClearPendingMsg])).2.flatMap Observed.batch =
        (lm.pendingMessages ++
          (lm.run lsps0 lsps2 (calls ++ [.getAndClearPendingMsg])).2.flatMap Observed.pushes).map
            toRaw := by
  have hempty : (lm.run lsps0 lsps2 (calls ++ [.getAndClearPendingMsg])).1.pendingMessages = [] := by
    simp [run_append, LiquidityManager.run, LiquidityManager.call, getAndClearPendingMsg_eq]
  have hall := run_queue lsps0 lsps2 lm (calls ++ [.getAndClearPendingMsg])
  rw [hempty, List.map_nil, List.append_nil] at hall
  exact ⟨run_queue lsps0 lsps2 lm calls, hempty, hall⟩

/-! ## Routing -/

/-- The state a protocol handler reaches from `s` when handed the messages of `inbox` in
order, each with its sender. -/
def ProtocolMessageHandler.feed {σ ProtocolMessage : Type}
    (handler : ProtocolMessageHandler σ ProtocolMessage) (s : σ)
    (inbox : List (ProtocolMessage × PublicKey)) : σ :=
  inbox.foldl (fun s m => (handler.handleMessage s m.1 m.2).state) s

@[simp] theorem ProtocolMessageHandler.feed_append {σ ProtocolMessage : Type}
    (handler : ProtocolMessageHandler σ ProtocolMessage) (s : σ)
    (inbox more : List (ProtocolMessage × PublicKey)) :
    handler.feed s (inbox ++ more) = handler.feed (handler.feed s inbox) more :=
  List.foldl_append _ _ _ _

def Observed.lsps0Inbox : Observed → List (LSPS0Message × PublicKey)
  | .handled senderNodeId _ (.ok (.LSPS0 msg)) _ _ => [(msg, senderNodeId)]
  | _ => []

def Observed.lsps2Inbox : Observed → List (LSPS2Message × PublicKey)
  | .handled senderNodeId _ (.ok (.LSPS2 msg)) _ _ => [(msg, senderNodeId)]
  | _ => []

theorem call_handlers (lm : LiquidityManager σ0 σ2) (c : Call) :
    (lm.call lsps0 lsps2 c).1.lsps0MessageHandler =
        lsps0.feed lm.lsps0MessageHandler (lm.call lsps0 lsps2 c).2.lsps0Inbox ∧
      (lm.call lsps0 lsps2 c).1.lsps2MessageHandler =
        lm.lsps2MessageHandler.map (fun s => lsps2.feed s (lm.call lsps0 lsps2 c).2.lsps2Inbox) ∧
      (lm.call lsps0 lsps2 c).1.providerConfig = lm.providerConfig ∧
      (lm.call lsps0 lsps2 c).1.bestBlock = lm.bestBlock := by
  rcases lm with ⟨pending, map, s0, _ | s2, config, best⟩ <;> cases c with
  | handleCustomMessage msg senderNodeId =>
    rcases h : (LSPSMessage.fromStrWithIdMap msg.payload map).1 with _ | (_ | _ | _) <;>
      simp only [LiquidityManager.call, LiquidityManager.handleCustomMessage, h] <;>
      exact ⟨rfl, rfl, rfl, rfl⟩
  | _ => exact ⟨rfl, rfl, rfl, rfl⟩

/-- **The facade only routes.** Over any run, each protocol handler is where it gets by
handling, in order, exactly the messages of its own protocol that the run decoded, each with
its sender; an absent LSPS2 handler stays absent. `Invalid` notifications, payloads that do
not decode, pushes and drains reach no handler, and no call changes the configuration or
the chain tip. -/
theorem run_routes_by_protocol (lm : LiquidityManager σ0 σ2) (calls : List Call) :
    (lm.run lsps0 lsps2 calls).1.lsps0MessageHandler =
        lsps0.feed lm.lsps0MessageHandler ((lm.run lsps0 lsps2 calls).2.flatMap Observed.lsps0Inbox) ∧
      (lm.run lsps0 lsps2 calls).1.lsps2MessageHandler =
        lm.lsps2MessageHandler.map
          (fun s => lsps2.feed s ((lm.run lsps0 lsps2 calls).2.flatMap Observed.lsps2Inbox)) ∧
      (lm.run lsps0 lsps2 calls).1.providerConfig = lm.providerConfig ∧
      (lm.run lsps0 lsps2 calls).1.bestBlock = lm.bestBlock := by
  induction calls generalizing lm with
  | nil => exact ⟨rfl, Option.map_id'.symm, rfl, rfl⟩
  | cons c cs ih =>
    obtain ⟨h0, h2, hc, hb⟩ := call_handlers lsps0 lsps2 lm c
    obtain ⟨ih0, ih2, ihc, ihb⟩ := ih (lm.call lsps0 lsps2 c).1
    refine ⟨?_, ?_, ihc.trans hc, ihb.trans hb⟩
    · simp only [LiquidityManager.run, List.flatMap_cons, ih0, h0,
        ProtocolMessageHandler.feed_append]
    · simp only [LiquidityManager.run, List.flatMap_cons, ih2, h2, Option.map_map,
        Function.comp_def, ProtocolMessageHandler.feed_append]

end Run

def silentHandler (ProtocolMessage : Type) : ProtocolMessageHandler Unit ProtocolMessage :=
  ⟨fun s _ _ => ⟨s, [], .ok ()⟩⟩

def freshManager : LiquidityManager Unit Unit :=
  LiquidityManager.new (fun _ => ()) (fun _ => ()) none ⟨⟨⟨0⟩, 0⟩⟩

end LdkLspClient
