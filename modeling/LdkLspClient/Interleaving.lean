import LdkLspClient.Threads

namespace LdkLspClient

/-- The traffic a step showed. -/
def Effect.wire : Effect → List Wire
  | .decoded senderNodeId payload _ => [.received senderNodeId payload]
  | .drained batch => batch.map fun (nodeId, raw) => .sent nodeId raw.payload
  | _ => []

def Effect.pushes : Effect → List (PublicKey × LSPSMessage)
  | .pushed nodeId msg => [(nodeId, msg)]
  | _ => []

def Effect.batch : Effect → List (PublicKey × RawLSPSMessage)
  | .drained batch => batch
  | _ => []

def Effect.lsps0Inbox : Effect → List (LSPS0Message × PublicKey)
  | .routed (.LSPS0 msg) senderNodeId => [(msg, senderNodeId)]
  | _ => []

def Effect.lsps2Inbox : Effect → List (LSPS2Message × PublicKey)
  | .routed (.LSPS2 msg) senderNodeId => [(msg, senderNodeId)]
  | _ => []

section Interleaving

variable {σ0 σ2 : Type} (lsps0 : ProtocolMessageHandler σ0 LSPS0Message)
  (lsps2 : ProtocolMessageHandler σ2 LSPS2Message)

/-- What a step of a call's code does to the manager: nothing, a decode, a routing, a push or a
drain. -/
theorem Pc.next_cases {lm lm' : LiquidityManager σ0 σ2} {pc pc' : Pc} {effect : Option Effect}
    (h : pc.next lsps0 lsps2 lm = some (pc', lm', effect)) :
    (lm' = lm ∧ effect = none) ∨
    (∃ senderNodeId payload, lm' = { lm with requestIdToMethodMap :=
        (LSPSMessage.fromStrWithIdMap payload lm.requestIdToMethodMap).2 } ∧
      effect = some (.decoded senderNodeId payload
        (LSPSMessage.fromStrWithIdMap payload lm.requestIdToMethodMap).1)) ∨
    (∃ msg senderNodeId, lm' = (lm.handleLspsMessage lsps0 lsps2 msg senderNodeId).manager ∧
      effect = some (.routed msg senderNodeId)) ∨
    (∃ nodeId msg, lm' = lm.enqueueMessage nodeId msg ∧ effect = some (.pushed nodeId msg)) ∨
    (lm' = lm.getAndClearPendingMsg.1 ∧ effect = some (.drained lm.getAndClearPendingMsg.2)) := by
  cases pc with
  | decoding msg senderNodeId =>
    simp only [Pc.next, Option.some.injEq, Prod.mk.injEq] at h
    exact .inr (.inl ⟨senderNodeId, msg.payload, h.2.1.symm, h.2.2.symm⟩)
  | routing msg m senderNodeId =>
    simp only [Pc.next, Option.some.injEq, Prod.mk.injEq] at h
    exact .inr (.inr (.inl ⟨m, senderNodeId, h.2.1.symm, h.2.2.symm⟩))
  | pushing shown pending =>
    cases pending with
    | nil =>
      simp only [Pc.next, Option.some.injEq, Prod.mk.injEq] at h
      exact .inl ⟨h.2.1.symm, h.2.2.symm⟩
    | cons p ps =>
      simp only [Pc.next, Option.some.injEq, Prod.mk.injEq] at h
      exact .inr (.inr (.inr (.inl ⟨p.1, p.2, h.2.1.symm, h.2.2.symm⟩)))
  | draining =>
    simp only [Pc.next, Option.some.injEq, Prod.mk.injEq] at h
    exact .inr (.inr (.inr (.inr ⟨h.2.1.symm, h.2.2.symm⟩)))
  | pushWait shown pending =>
    cases pending <;> simp only [Pc.next, Option.some.injEq, Prod.mk.injEq] at h <;>
      exact .inl ⟨h.2.1.symm, h.2.2.symm⟩
  | decodeWait | drainWait | drainQueueWait =>
    simp only [Pc.next, Option.some.injEq, Prod.mk.injEq] at h
    exact .inl ⟨h.2.1.symm, h.2.2.symm⟩
  | done => cases h

theorem sched_cases (s : Threaded σ0 σ2) (e : Sched) :
    (s.sched lsps0 lsps2 e).2 = [] ∧ (s.sched lsps0 lsps2 e).1.manager = s.manager ∨
      ∃ (pc pc' : Pc) (y : Effect), (s.sched lsps0 lsps2 e).2 = [y] ∧
        pc.next lsps0 lsps2 s.manager = some (pc', (s.sched lsps0 lsps2 e).1.manager, some y) := by
  cases e with
  | spawn c => exact .inl ⟨rfl, rfl⟩
  | step t =>
    rcases h : s.stepThread lsps0 lsps2 t with _ | ⟨s', _ | y⟩
    · left
      simp [Threaded.sched, h]
    · obtain ⟨pc, pc', lm, -, hn, -, -, rfl⟩ := stepThread_some lsps0 lsps2 h
      rcases Pc.next_cases lsps0 lsps2 hn with ⟨rfl, -⟩ | ⟨_, _, -, h'⟩ | ⟨_, _, -, h'⟩ |
          ⟨_, _, -, h'⟩ | ⟨-, h'⟩
      · left
        simp [Threaded.sched, h]
      all_goals cases h'
    · obtain ⟨pc, pc', lm, -, hn, -, -, rfl⟩ := stepThread_some lsps0 lsps2 h
      simp only [Threaded.sched, h]
      exact .inr ⟨pc, pc', y, rfl, hn⟩

/-- A property of what a stretch of steps does to the manager, with the effects it showed,
holds over any schedule when it holds of no step and of each step of a call's code, and
composes. -/
theorem run_of_next {P : LiquidityManager σ0 σ2 → List Effect → LiquidityManager σ0 σ2 → Prop}
    (hnil : ∀ lm, P lm [] lm)
    (hstep : ∀ {lm lm' : LiquidityManager σ0 σ2} {pc pc' : Pc} {y : Effect},
      pc.next lsps0 lsps2 lm = some (pc', lm', some y) → P lm [y] lm')
    (htrans : ∀ {a b c : LiquidityManager σ0 σ2} {es fs : List Effect},
      P a es b → P b fs c → P a (es ++ fs) c)
    (s : Threaded σ0 σ2) (sched : List Sched) :
    P s.manager (s.run lsps0 lsps2 sched).2 (s.run lsps0 lsps2 sched).1.manager := by
  induction sched generalizing s with
  | nil => exact hnil _
  | cons e es ih =>
    have hfirst : P s.manager (s.sched lsps0 lsps2 e).2 (s.sched lsps0 lsps2 e).1.manager := by
      rcases sched_cases lsps0 lsps2 s e with ⟨he, hm⟩ | ⟨pc, pc', y, he, hn⟩
      · rw [he, hm]
        exact hnil _
      · rw [he]
        exact hstep hn
    exact htrans hfirst (ih _)

/-! ## The queue -/

theorem Pc.next_queue {lm lm' : LiquidityManager σ0 σ2} {pc pc' : Pc} {effect : Option Effect}
    (h : pc.next lsps0 lsps2 lm = some (pc', lm', effect)) :
    effect.toList.flatMap Effect.batch ++ lm'.pendingMessages.map toRaw =
      (lm.pendingMessages ++ effect.toList.flatMap Effect.pushes).map toRaw := by
  rcases Pc.next_cases lsps0 lsps2 h with ⟨rfl, rfl⟩ | ⟨_, _, rfl, rfl⟩ | ⟨m, senderNodeId, rfl, rfl⟩ |
      ⟨_, _, rfl, rfl⟩ | ⟨rfl, rfl⟩
  · simp
  · simp [Effect.batch, Effect.pushes]
  · simp [Effect.batch, Effect.pushes, (handleLspsMessage_frame lsps0 lsps2 lm m senderNodeId).1]
  · simp [Effect.batch, Effect.pushes, LiquidityManager.enqueueMessage]
  · simp [Effect.batch, Effect.pushes, getAndClearPendingMsg_eq]

/-- **No message lost, duplicated or reordered, under any interleaving.** Over any schedule of
the facade's threads, the batches handed to the host, followed by what is still queued, are
the queued messages and then every message pushed, in the order the pushes took the queue's
lock, each serialized for its peer. -/
theorem interleaved_queue (s : Threaded σ0 σ2) (sched : List Sched) :
    (s.run lsps0 lsps2 sched).2.flatMap Effect.batch ++
        (s.run lsps0 lsps2 sched).1.manager.pendingMessages.map toRaw =
      (s.manager.pendingMessages ++ (s.run lsps0 lsps2 sched).2.flatMap Effect.pushes).map toRaw :=
  run_of_next lsps0 lsps2 (P := fun lm es lm' => es.flatMap Effect.batch ++
      lm'.pendingMessages.map toRaw = (lm.pendingMessages ++ es.flatMap Effect.pushes).map toRaw)
    (fun _ => by simp) (fun hn => Pc.next_queue lsps0 lsps2 hn)
    (fun hab hbc => by
      simp only [List.flatMap_append, List.map_append, List.append_assoc] at hab hbc ⊢
      rw [hbc, ← List.append_assoc, hab, List.append_assoc])
    s sched

/-! ## The map -/

theorem Pc.next_map {lm lm' : LiquidityManager σ0 σ2} {pc pc' : Pc} {effect : Option Effect}
    (h : pc.next lsps0 lsps2 lm = some (pc', lm', effect)) :
    lm'.requestIdToMethodMap =
      outstanding lm.requestIdToMethodMap (effect.toList.flatMap Effect.wire) := by
  rcases Pc.next_cases lsps0 lsps2 h with ⟨rfl, rfl⟩ | ⟨senderNodeId, payload, rfl, rfl⟩ |
      ⟨m, senderNodeId, rfl, rfl⟩ | ⟨_, _, rfl, rfl⟩ | ⟨rfl, rfl⟩
  · rfl
  · simp only [Option.toList_some, List.flatMap_cons, List.flatMap_nil, List.append_nil,
      Effect.wire, outstanding, List.foldl_cons, List.foldl_nil, fromStrWithIdMap_map]
    rfl
  · exact (handleLspsMessage_frame lsps0 lsps2 lm m senderNodeId).2
  · rfl
  · simp only [getAndClearPendingMsg_eq, Option.toList_some, List.flatMap_cons,
      List.flatMap_nil, List.append_nil, Effect.wire, outstanding, List.map_map, List.foldl_map]
    exact congrArg (fun f => List.foldl f _ _) (funext₂ fun map pending =>
      (record_sent_serialize map pending).symm)

/-- **The map refines the traffic, under any interleaving.** Over any schedule of the facade's
threads, the map holds exactly what the payloads received and handed over leave outstanding,
taken in the order their decodes and drains took the map's lock. -/
theorem interleaved_map (s : Threaded σ0 σ2) (sched : List Sched) :
    (s.run lsps0 lsps2 sched).1.manager.requestIdToMethodMap =
      outstanding s.manager.requestIdToMethodMap
        ((s.run lsps0 lsps2 sched).2.flatMap Effect.wire) :=
  run_of_next lsps0 lsps2 (P := fun lm es lm' => lm'.requestIdToMethodMap =
      outstanding lm.requestIdToMethodMap (es.flatMap Effect.wire))
    (fun _ => rfl) (fun hn => Pc.next_map lsps0 lsps2 hn)
    (fun hab hbc => by
      dsimp only at hab hbc ⊢
      rw [hbc, hab, outstanding, outstanding, outstanding, List.flatMap_append, List.foldl_append])
    s sched

theorem run_effect {s : Threaded σ0 σ2} {sched : List Sched} {pre post : List Effect} {x : Effect}
    (h : (s.run lsps0 lsps2 sched).2 = pre ++ x :: post) :
    ∃ (lm lm' : LiquidityManager σ0 σ2) (pc pc' : Pc), lm.requestIdToMethodMap =
        outstanding s.manager.requestIdToMethodMap (pre.flatMap Effect.wire) ∧
      pc.next lsps0 lsps2 lm = some (pc', lm', some x) := by
  induction sched generalizing s pre with
  | nil => simp [Threaded.run] at h
  | cons e es ih =>
    simp only [Threaded.run] at h
    rcases sched_cases lsps0 lsps2 s e with ⟨he, hm⟩ | ⟨pc, pc', y, he, hn⟩
    · rw [he, List.nil_append] at h
      obtain ⟨lm, lm', pc, pc', hmap, hn'⟩ := ih h
      exact ⟨lm, lm', pc, pc', by rw [hmap, hm], hn'⟩
    · rw [he, List.singleton_append] at h
      cases pre with
      | nil =>
        obtain ⟨rfl, -⟩ := List.cons.inj h
        exact ⟨s.manager, _, pc, pc', rfl, hn⟩
      | cons z pre =>
        rw [List.cons_append] at h
        obtain ⟨rfl, htail⟩ := List.cons.inj h
        obtain ⟨lm, lm', pc, pc', hmap, hn'⟩ := ih htail
        refine ⟨lm, lm', pc, pc', ?_, hn'⟩
        rw [hmap, Pc.next_map lsps0 lsps2 hn]
        simp [outstanding, List.foldl_append]

/-- A request with `id` to `method` was handed over in `traffic`, and no later payload bears on
`id`. -/
def RequestPending (traffic : List Wire) (id method : String) : Prop :=
  ∃ a nodeId request b, traffic = a ++ .sent nodeId request :: b ∧
    request.requestIdAndMethod = some (id, method) ∧ ∀ w ∈ b, ¬ w.Touches id

theorem Pc.next_decoded {lm lm' : LiquidityManager σ0 σ2} {pc pc' : Pc} {senderNodeId : PublicKey}
    {payload : Payload} {decoded : Except DecodeError LSPSMessage}
    (h : pc.next lsps0 lsps2 lm = some (pc', lm', some (.decoded senderNodeId payload decoded))) :
    decoded = (LSPSMessage.fromStrWithIdMap payload lm.requestIdToMethodMap).1 := by
  rcases Pc.next_cases lsps0 lsps2 h with ⟨-, h⟩ | ⟨_, _, -, h⟩ | ⟨_, _, -, h⟩ | ⟨_, _, -, h⟩ |
      ⟨-, h⟩
  · cases h
  · cases h
    rfl
  all_goals cases h

/-- **Responses match requests, under any interleaving.** Over any schedule of the facade's
threads from an empty map, take any decode, and the traffic before it in the order of the
map's lock. A payload it decodes as a response with id `id` to `method` carries that id and
answers a request with that id and method which a drain handed over earlier for some peer,
with nothing bearing on the id since. Conversely, a response with id `id` to `method` decodes
as itself when such a request is pending. -/
theorem interleaved_responses (s : Threaded σ0 σ2)
    (hempty : s.manager.requestIdToMethodMap = fun _ => none) (sched : List Sched)
    (pre post : List Effect) (senderNodeId : PublicKey) (payload : Payload)
    (decoded : Except DecodeError LSPSMessage)
    (hrun : (s.run lsps0 lsps2 sched).2 = pre ++ .decoded senderNodeId payload decoded :: post)
    (id method : String) :
    (∀ msg, decoded = .ok msg → msg.responseIdAndMethod = some (id, method) →
      payload.responseId = some id ∧ RequestPending (pre.flatMap Effect.wire) id method) ∧
    (∀ resp, payload = serialize resp → resp.responseIdAndMethod = some (id, method) →
      RequestPending (pre.flatMap Effect.wire) id method → decoded = .ok resp) := by
  obtain ⟨lm, lm', pc, pc', hmap, hn⟩ := run_effect lsps0 lsps2 hrun
  have hd := Pc.next_decoded lsps0 lsps2 hn
  refine ⟨fun msg hok hr => ?_, fun resp hp hr ⟨a, nodeId, request, b, hpre, hreq, hquiet⟩ => ?_⟩
  · obtain ⟨hid, hm⟩ := fromStrWithIdMap_response (hd ▸ hok) hr
    rw [hmap, hempty] at hm
    exact ⟨hid, outstanding_eq_some hm⟩
  · rw [hd, hp]
    refine fromStrWithIdMap_serialize resp _ (LSPSMessage.ne_invalid_of_response hr) fun i m h => ?_
    rw [hr] at h
    cases h
    rw [hmap, hpre]
    exact outstanding_of_sent _ hreq hquiet

/-- Peer `2` is sent a `list_protocols` request with id `1`, by a push, then a drain, each
thread stepping to its return; then its answer is received and decoded. -/
def answeredSchedule : List Sched :=
  [.spawn (.push ⟨[2], []⟩ (.LSPS0 (.Request ⟨"1"⟩ .ListProtocols))), .step 0, .step 0, .step 0,
    .spawn .getAndClearPendingMsg, .step 1, .step 1, .step 1,
    .spawn (.handleCustomMessage ⟨serialize (.LSPS0 (.Response ⟨"1"⟩ (.ListProtocols [2])))⟩
      ⟨[2], []⟩), .step 2, .step 2]

theorem interleaved_responses_answered :
    let request : LSPSMessage := .LSPS0 (.Request ⟨"1"⟩ .ListProtocols)
    let response : LSPSMessage := .LSPS0 (.Response ⟨"1"⟩ (.ListProtocols [2]))
    let pre : List Effect :=
      [.pushed ⟨[2], []⟩ request, .drained [(⟨[2], []⟩, ⟨serialize request⟩)]]
    (∀ msg, (.ok response : Except DecodeError LSPSMessage) = .ok msg →
        msg.responseIdAndMethod = some ("1", lsps0ListProtocolsMethodName) →
        (serialize response).responseId = some "1" ∧
          RequestPending (pre.flatMap Effect.wire) "1" lsps0ListProtocolsMethodName) ∧
      (∀ resp, serialize response = serialize resp →
        resp.responseIdAndMethod = some ("1", lsps0ListProtocolsMethodName) →
        RequestPending (pre.flatMap Effect.wire) "1" lsps0ListProtocolsMethodName →
        (.ok response : Except DecodeError LSPSMessage) = .ok resp) :=
  interleaved_responses (silentHandler _) (silentHandler _) (Threaded.init freshManager) rfl
    answeredSchedule
    [.pushed ⟨[2], []⟩ (.LSPS0 (.Request ⟨"1"⟩ .ListProtocols)),
      .drained [(⟨[2], []⟩, ⟨serialize (.LSPS0 (.Request ⟨"1"⟩ .ListProtocols))⟩)]] []
    ⟨[2], []⟩ (serialize (.LSPS0 (.Response ⟨"1"⟩ (.ListProtocols [2]))))
    (.ok (.LSPS0 (.Response ⟨"1"⟩ (.ListProtocols [2])))) rfl "1" lsps0ListProtocolsMethodName

/-! ## The handlers -/

theorem handleLspsMessage_handlers (lm : LiquidityManager σ0 σ2) (msg : LSPSMessage)
    (senderNodeId : PublicKey) :
    let after := (lm.handleLspsMessage lsps0 lsps2 msg senderNodeId).manager
    after.lsps0MessageHandler =
        lsps0.feed lm.lsps0MessageHandler (Effect.routed msg senderNodeId).lsps0Inbox ∧
      after.lsps2MessageHandler = lm.lsps2MessageHandler.map
        (fun s => lsps2.feed s (Effect.routed msg senderNodeId).lsps2Inbox) ∧
      after.providerConfig = lm.providerConfig ∧ after.bestBlock = lm.bestBlock := by
  rcases lm with ⟨_, _, _, _ | _, _, _⟩ <;> rcases msg with _ | _ | _ <;> exact ⟨rfl, rfl, rfl, rfl⟩

theorem Pc.next_handlers {lm lm' : LiquidityManager σ0 σ2} {pc pc' : Pc} {effect : Option Effect}
    (h : pc.next lsps0 lsps2 lm = some (pc', lm', effect)) :
    lm'.lsps0MessageHandler =
        lsps0.feed lm.lsps0MessageHandler (effect.toList.flatMap Effect.lsps0Inbox) ∧
      lm'.lsps2MessageHandler = lm.lsps2MessageHandler.map
        (fun s => lsps2.feed s (effect.toList.flatMap Effect.lsps2Inbox)) ∧
      lm'.providerConfig = lm.providerConfig ∧ lm'.bestBlock = lm.bestBlock := by
  rcases Pc.next_cases lsps0 lsps2 h with ⟨rfl, rfl⟩ | ⟨_, _, rfl, rfl⟩ | ⟨msg, senderNodeId, rfl, rfl⟩ |
      ⟨_, _, rfl, rfl⟩ | ⟨rfl, rfl⟩
  · exact ⟨rfl, Option.map_id'.symm, rfl, rfl⟩
  · exact ⟨rfl, Option.map_id'.symm, rfl, rfl⟩
  · simpa only [Option.toList_some, List.flatMap_cons, List.flatMap_nil, List.append_nil] using
      handleLspsMessage_handlers lsps0 lsps2 lm msg senderNodeId
  · exact ⟨rfl, Option.map_id'.symm, rfl, rfl⟩
  · exact ⟨rfl, Option.map_id'.symm, rfl, rfl⟩

/-- **Each handler sees its own protocol, in the order of routing.** Over any schedule of the
facade's threads, each protocol handler is where it gets by handling exactly the messages of
its protocol that were routed to it, in the order their threads called it; an absent LSPS2
handler stays absent. No step changes the configuration or the chain tip. -/
theorem interleaved_routing (s : Threaded σ0 σ2) (sched : List Sched) :
    (s.run lsps0 lsps2 sched).1.manager.lsps0MessageHandler =
        lsps0.feed s.manager.lsps0MessageHandler
          ((s.run lsps0 lsps2 sched).2.flatMap Effect.lsps0Inbox) ∧
      (s.run lsps0 lsps2 sched).1.manager.lsps2MessageHandler =
        s.manager.lsps2MessageHandler.map
          (fun h => lsps2.feed h ((s.run lsps0 lsps2 sched).2.flatMap Effect.lsps2Inbox)) ∧
      (s.run lsps0 lsps2 sched).1.manager.providerConfig = s.manager.providerConfig ∧
      (s.run lsps0 lsps2 sched).1.manager.bestBlock = s.manager.bestBlock :=
  run_of_next lsps0 lsps2 (P := fun lm es lm' =>
      lm'.lsps0MessageHandler = lsps0.feed lm.lsps0MessageHandler (es.flatMap Effect.lsps0Inbox) ∧
      lm'.lsps2MessageHandler =
        lm.lsps2MessageHandler.map (fun h => lsps2.feed h (es.flatMap Effect.lsps2Inbox)) ∧
      lm'.providerConfig = lm.providerConfig ∧ lm'.bestBlock = lm.bestBlock)
    (fun _ => ⟨rfl, Option.map_id'.symm, rfl, rfl⟩) (fun hn => Pc.next_handlers lsps0 lsps2 hn)
    (fun ⟨h0, h2, hc, hb⟩ ⟨h0', h2', hc', hb'⟩ => ⟨by
        rw [h0', h0, List.flatMap_append, ProtocolMessageHandler.feed_append], by
        rw [h2', h2, Option.map_map]
        simp only [Function.comp_def, List.flatMap_append, ProtocolMessageHandler.feed_append],
      hc'.trans hc, hb'.trans hb⟩)
    s sched

/-! ## Serial schedules -/

theorem Threaded.run_cons_fst (s : Threaded σ0 σ2) (e : Sched) (es : List Sched) :
    (s.run lsps0 lsps2 (e :: es)).1 = ((s.sched lsps0 lsps2 e).1.run lsps0 lsps2 es).1 := rfl

theorem sched_spawn_fst (lm : LiquidityManager σ0 σ2) (ts : List Pc) (mapLock queueLock : Option Nat)
    (c : Call) :
    ((⟨lm, ts, mapLock, queueLock⟩ : Threaded σ0 σ2).sched lsps0 lsps2 (.spawn c)).1 =
      ⟨lm, ts ++ [Pc.start c], mapLock, queueLock⟩ := rfl

theorem sched_step_last (ts : List Pc) (pc pc' : Pc) (mapLock queueLock mapLock' queueLock' : Option Nat)
    {lm lm' : LiquidityManager σ0 σ2} {effect : Option Effect}
    (hn : pc.next lsps0 lsps2 lm = some (pc', lm', effect))
    (hmap : mayEnter Pc.holdsMap mapLock pc pc' = true)
    (hqueue : mayEnter Pc.holdsQueue queueLock pc pc' = true)
    (hmap' : lockAfter Pc.holdsMap mapLock ts.length pc pc' = mapLock')
    (hqueue' : lockAfter Pc.holdsQueue queueLock ts.length pc pc' = queueLock') :
    ((⟨lm, ts ++ [pc], mapLock, queueLock⟩ : Threaded σ0 σ2).sched lsps0 lsps2
        (.step ts.length)).1 = ⟨lm', ts ++ [pc'], mapLock', queueLock'⟩ := by
  simp only [Threaded.sched, Threaded.stepThread, List.getElem?_concat_length, hn, hmap, hqueue,
    Bool.and_self, if_true, List.set_append_right _ _ (Nat.le_refl _), Nat.sub_self,
    List.set_cons_zero, hmap', hqueue']

theorem push_phase (ts : List Pc) (shown : Observed) (pending : List (PublicKey × LSPSMessage))
    (lm : LiquidityManager σ0 σ2) :
    ((⟨lm, ts ++ [.pushWait shown pending], none, none⟩ : Threaded σ0 σ2).run lsps0 lsps2
        (List.replicate (2 * pending.length + 1) (.step ts.length))).1 =
      ⟨{ lm with pendingMessages := lm.pendingMessages ++ pending }, ts ++ [.done shown], none,
        none⟩ := by
  induction pending generalizing lm with
  | nil =>
    rw [List.replicate_succ, Threaded.run_cons_fst,
      sched_step_last lsps0 lsps2 ts (.pushWait shown []) (.done shown) none none none none rfl rfl
        rfl rfl rfl]
    simp [Threaded.run]
  | cons p ps ih =>
    rw [List.length_cons, show 2 * (ps.length + 1) + 1 = 2 * ps.length + 1 + 1 + 1 by omega,
      List.replicate_succ, List.replicate_succ, Threaded.run_cons_fst,
      sched_step_last lsps0 lsps2 ts (.pushWait shown (p :: ps)) (.pushing shown (p :: ps)) none
        none none (some ts.length) rfl rfl rfl rfl rfl, Threaded.run_cons_fst,
      sched_step_last lsps0 lsps2 ts (.pushing shown (p :: ps)) (.pushWait shown ps) none
        (some ts.length) none none rfl rfl rfl rfl rfl, ih]
    simp [LiquidityManager.enqueueMessage]

/-- A call made alone, from entering the facade to returning, leaves the manager as the atomic
call does and shows what it shows. -/
theorem serial_call (lm : LiquidityManager σ0 σ2) (ts : List Pc) (c : Call) :
    ∃ k, ((⟨lm, ts, none, none⟩ : Threaded σ0 σ2).run lsps0 lsps2
        (.spawn c :: List.replicate k (.step ts.length))).1 =
      ⟨(lm.call lsps0 lsps2 c).1, ts ++ [.done (lm.call lsps0 lsps2 c).2], none, none⟩ := by
  cases c with
  | push nodeId msg =>
    refine ⟨2 * [(nodeId, msg)].length + 1, ?_⟩
    rw [Threaded.run_cons_fst, sched_spawn_fst, Pc.start, push_phase]
    rfl
  | getAndClearPendingMsg =>
    refine ⟨3, ?_⟩
    rw [Threaded.run_cons_fst, sched_spawn_fst, Pc.start, List.replicate_succ, List.replicate_succ,
      List.replicate_one,
      Threaded.run_cons_fst, sched_step_last lsps0 lsps2 ts .drainWait .drainQueueWait none none
        (some ts.length) none rfl rfl rfl rfl rfl,
      Threaded.run_cons_fst, sched_step_last lsps0 lsps2 ts .drainQueueWait .draining
        (some ts.length) none (some ts.length) (some ts.length) rfl rfl rfl rfl rfl,
      Threaded.run_cons_fst, sched_step_last lsps0 lsps2 ts .draining
        (.done (.drained lm.getAndClearPendingMsg.2)) (some ts.length) (some ts.length) none none
        rfl rfl rfl rfl rfl]
    rfl
  | handleCustomMessage msg senderNodeId =>
    have hstart : ∀ k, ((⟨lm, ts, none, none⟩ : Threaded σ0 σ2).run lsps0 lsps2
        (.spawn (.handleCustomMessage msg senderNodeId) :: .step ts.length :: k)).1 =
          ((⟨lm, ts ++ [.decoding msg senderNodeId], some ts.length, none⟩ : Threaded σ0 σ2).run
            lsps0 lsps2 k).1 := fun k => by
      rw [Threaded.run_cons_fst, sched_spawn_fst, Pc.start, Threaded.run_cons_fst,
        sched_step_last lsps0 lsps2 ts (.decodeWait msg senderNodeId) (.decoding msg senderNodeId)
          none none (some ts.length) none rfl rfl rfl rfl rfl]
    rcases hd : (LSPSMessage.fromStrWithIdMap msg.payload lm.requestIdToMethodMap).1 with e | m
    · have hn : (Pc.decoding msg senderNodeId).next lsps0 lsps2 lm =
          some (.pushWait (.handled senderNodeId msg.payload (.error e) [(senderNodeId, .Invalid)]
              (.ok ())) [(senderNodeId, .Invalid)],
            { lm with requestIdToMethodMap :=
                (LSPSMessage.fromStrWithIdMap msg.payload lm.requestIdToMethodMap).2 },
            some (.decoded senderNodeId msg.payload (.error e))) := by
        simp only [Pc.next, hd]
      refine ⟨2 * [(senderNodeId, LSPSMessage.Invalid)].length + 1 + 1 + 1, ?_⟩
      rw [List.replicate_succ, List.replicate_succ, hstart,
        Threaded.run_cons_fst, sched_step_last lsps0 lsps2 ts (.decoding msg senderNodeId) _
          (some ts.length) none none none hn rfl rfl rfl rfl, push_phase]
      simp only [LiquidityManager.call, LiquidityManager.handleCustomMessage, hd]
      rfl
    · let decodedMap := (LSPSMessage.fromStrWithIdMap msg.payload lm.requestIdToMethodMap).2
      let o := ({ lm with requestIdToMethodMap := decodedMap } : LiquidityManager σ0 σ2).handleLspsMessage
        lsps0 lsps2 m senderNodeId
      have hn : (Pc.decoding msg senderNodeId).next lsps0 lsps2 lm =
          some (.routing msg m senderNodeId, { lm with requestIdToMethodMap := decodedMap },
            some (.decoded senderNodeId msg.payload (.ok m))) := by
        simp only [Pc.next, hd]
      refine ⟨2 * o.pushed.length + 1 + 1 + 1 + 1, ?_⟩
      rw [List.replicate_succ, List.replicate_succ, List.replicate_succ, hstart,
        Threaded.run_cons_fst, sched_step_last lsps0 lsps2 ts (.decoding msg senderNodeId)
          (.routing msg m senderNodeId) (some ts.length) none none none hn rfl rfl rfl rfl,
        Threaded.run_cons_fst, sched_step_last lsps0 lsps2 ts (.routing msg m senderNodeId)
          (.pushWait (.handled senderNodeId msg.payload (.ok m) o.pushed o.result) o.pushed)
          none none none none rfl rfl rfl rfl rfl, push_phase]
      simp only [LiquidityManager.call, LiquidityManager.handleCustomMessage, hd]
      rfl

/-- **Atomic runs are the serial schedules.** For every run of atomic calls there is a schedule
of the facade's threads, each call entering and stepping alone to its return before the next
enters, that leaves the same manager, with no lock held, and in which each thread has
returned showing what its call showed in the run. -/
theorem serial_runs (lm : LiquidityManager σ0 σ2) (calls : List Call) :
    ∃ sched, ((Threaded.init lm).run lsps0 lsps2 sched).1 =
      ⟨(lm.run lsps0 lsps2 calls).1, (lm.run lsps0 lsps2 calls).2.map Pc.done, none, none⟩ := by
  suffices h : ∀ (lm : LiquidityManager σ0 σ2) (ts : List Pc), ∃ sched,
      ((⟨lm, ts, none, none⟩ : Threaded σ0 σ2).run lsps0 lsps2 sched).1 =
        ⟨(lm.run lsps0 lsps2 calls).1, ts ++ (lm.run lsps0 lsps2 calls).2.map Pc.done, none, none⟩
    from h lm []
  induction calls with
  | nil => exact fun lm ts => ⟨[], by simp [Threaded.run, LiquidityManager.run]⟩
  | cons c cs ih =>
    intro lm ts
    obtain ⟨k, hk⟩ := serial_call lsps0 lsps2 lm ts c
    obtain ⟨sched, hs⟩ := ih (lm.call lsps0 lsps2 c).1 (ts ++ [.done (lm.call lsps0 lsps2 c).2])
    refine ⟨(.spawn c :: List.replicate k (.step ts.length)) ++ sched, ?_⟩
    rw [Threaded.run_append]
    dsimp only
    rw [hk, hs]
    simp [LiquidityManager.run]

end Interleaving

end LdkLspClient
