import LdkLspClient.Session
import Mathlib.Data.List.Basic

namespace LdkLspClient

def Payload.requestIdAndMethod : Payload → Option (String × String)
  | .object ⟨some id, some method, _, _, _⟩ => some (id, method)
  | _ => none

theorem serialize_requestIdAndMethod (m : LSPSMessage) :
    (serialize m).requestIdAndMethod = m.getRequestIdAndMethod := by
  rcases m with _ | ⟨⟨id, ⟨⟩⟩ | ⟨id, _ | _⟩⟩ | ⟨⟨id, _ | _ | _⟩ | ⟨id, _ | _ | _ | _ | _⟩⟩ <;> rfl

/-- A payload on the wire: handed to the host for a peer, or received from one. -/
inductive Wire
  | sent (nodeId : PublicKey) (payload : Payload)
  | received (senderNodeId : PublicKey) (payload : Payload)

def Observed.wire : Observed → List Wire
  | .handled senderNodeId payload _ _ _ => [.received senderNodeId payload]
  | .pushed _ _ => []
  | .drained batch => batch.map fun (nodeId, raw) => .sent nodeId raw.payload

/-- A payload on the wire that bears on the entry of `id`: a request sent under it, or a
payload received that answers it. -/
def Wire.Touches (id : String) : Wire → Prop
  | .sent _ payload => ∃ method, payload.requestIdAndMethod = some (id, method)
  | .received _ payload => payload.responseId = some id

def Wire.record (map : String → Option String) : Wire → String → Option String
  | .sent _ payload =>
    match payload.requestIdAndMethod with
    | some (id, method) => Function.update map id (some method)
    | none => map
  | .received _ payload =>
    match payload.responseId with
    | some id => Function.update map id none
    | none => map

/-- **What the traffic leaves outstanding** under each id: the method of the last request
sent under it, unless a payload answering it has come in since. It is keyed by id alone:
which peer a request went to, or a response came from, plays no part. -/
def outstanding (map : String → Option String) (traffic : List Wire) : String → Option String :=
  traffic.foldl Wire.record map

theorem record_of_not_touches {w : Wire} {id : String} (map : String → Option String)
    (h : ¬ w.Touches id) : w.record map id = map id := by
  cases w with
  | sent nodeId payload =>
    rcases hp : payload.requestIdAndMethod with _ | ⟨i, method⟩
    · simp only [Wire.record, hp]
    · have hi : id ≠ i := fun hi => h ⟨method, hi ▸ hp⟩
      simp only [Wire.record, hp]
      exact Function.update_noteq hi _ _
  | received senderNodeId payload =>
    rcases hp : payload.responseId with _ | i
    · simp only [Wire.record, hp]
    · have hi : id ≠ i := fun hi => h (hi ▸ hp)
      simp only [Wire.record, hp]
      exact Function.update_noteq hi _ _

theorem outstanding_eq_some {traffic : List Wire} {id method : String}
    (h : outstanding (fun _ => none) traffic id = some method) :
    ∃ a nodeId request b, traffic = a ++ .sent nodeId request :: b ∧
      request.requestIdAndMethod = some (id, method) ∧ ∀ w ∈ b, ¬ w.Touches id := by
  induction traffic using List.reverseRecOn with
  | nil => cases h
  | append_singleton traffic w ih =>
    rw [outstanding, List.foldl_append, List.foldl_cons, List.foldl_nil] at h
    by_cases ht : w.Touches id
    · cases w with
      | sent nodeId request =>
        obtain ⟨m, hm⟩ := ht
        simp only [Wire.record, hm, Function.update_same, Option.some.injEq] at h
        exact ⟨traffic, nodeId, request, [], rfl, h ▸ hm, by simp⟩
      | received senderNodeId payload =>
        simp only [Wire.Touches] at ht
        simp [Wire.record, ht] at h
    · rw [record_of_not_touches _ ht] at h
      obtain ⟨a, nodeId, request, b, rfl, hr, hb⟩ := ih h
      refine ⟨a, nodeId, request, b ++ [w], by simp, hr, ?_⟩
      simp only [List.mem_append, List.mem_singleton]
      rintro x (hx | rfl)
      exacts [hb x hx, ht]

theorem outstanding_of_not_touches {traffic : List Wire} {id : String}
    (map : String → Option String) (h : ∀ w ∈ traffic, ¬ w.Touches id) :
    outstanding map traffic id = map id := by
  induction traffic generalizing map with
  | nil => rfl
  | cons w traffic ih =>
    rw [outstanding, List.foldl_cons, ← outstanding,
      ih _ fun x hx => h x (List.mem_cons_of_mem w hx),
      record_of_not_touches _ (h w (List.mem_cons_self w traffic))]

/-- A request sent under an id stays outstanding while no later payload bears on it. -/
theorem outstanding_of_sent {a b : List Wire} {nodeId : PublicKey} {request : Payload}
    {id method : String} (map : String → Option String)
    (hr : request.requestIdAndMethod = some (id, method)) (hb : ∀ w ∈ b, ¬ w.Touches id) :
    outstanding map (a ++ .sent nodeId request :: b) id = some method := by
  rw [outstanding, List.foldl_append, List.foldl_cons, ← outstanding,
    outstanding_of_not_touches _ hb]
  simp only [Wire.record, hr, Function.update_same]

section Run

variable {σ0 σ2 : Type} (lsps0 : ProtocolMessageHandler σ0 LSPS0Message)
  (lsps2 : ProtocolMessageHandler σ2 LSPS2Message)

theorem record_sent_serialize (map : String → Option String) (pending : PublicKey × LSPSMessage) :
    Wire.record map (.sent pending.1 (serialize pending.2)) = recordRequest map pending := by
  rcases h : pending.2.getRequestIdAndMethod with _ | ⟨id, method⟩ <;>
    simp only [Wire.record, recordRequest, serialize_requestIdAndMethod, h]

theorem call_map (lm : LiquidityManager σ0 σ2) (c : Call) :
    (lm.call lsps0 lsps2 c).1.requestIdToMethodMap =
      outstanding lm.requestIdToMethodMap (lm.call lsps0 lsps2 c).2.wire := by
  cases c with
  | handleCustomMessage msg senderNodeId =>
    simp only [LiquidityManager.call, Outcome.apply_requestIdToMethodMap,
      (handleCustomMessage_frame lsps0 lsps2 lm msg senderNodeId).2, fromStrWithIdMap_map]
    rfl
  | push nodeId msg => rfl
  | getAndClearPendingMsg =>
    simp only [LiquidityManager.call, getAndClearPendingMsg_eq, Observed.wire, outstanding,
      List.map_map, List.foldl_map]
    exact congrArg (fun f => List.foldl f _ _) (funext₂ fun map pending =>
      (record_sent_serialize map pending).symm)

/-- **The map refines the traffic.** After any run, the map holds exactly what the traffic
of the run leaves outstanding. -/
theorem run_map (lm : LiquidityManager σ0 σ2) (calls : List Call) :
    (lm.run lsps0 lsps2 calls).1.requestIdToMethodMap =
      outstanding lm.requestIdToMethodMap ((lm.run lsps0 lsps2 calls).2.flatMap Observed.wire) := by
  induction calls generalizing lm with
  | nil => rfl
  | cons c cs ih =>
    simp only [LiquidityManager.run, List.flatMap_cons, outstanding, List.foldl_append]
    rw [ih, outstanding, call_map]
    rfl

theorem run_observed {lm : LiquidityManager σ0 σ2} {calls : List Call} {pre post : List Observed}
    {x : Observed} (h : (lm.run lsps0 lsps2 calls).2 = pre ++ x :: post) :
    ∃ (lm' : LiquidityManager σ0 σ2) (c : Call), lm'.requestIdToMethodMap =
      outstanding lm.requestIdToMethodMap (pre.flatMap Observed.wire) ∧
        (lm'.call lsps0 lsps2 c).2 = x := by
  induction calls generalizing lm pre with
  | nil => simp [LiquidityManager.run] at h
  | cons c cs ih =>
    cases pre with
    | nil => exact ⟨lm, c, rfl, (List.cons.inj h).1⟩
    | cons y pre =>
      obtain ⟨hy, h⟩ := List.cons.inj h
      obtain ⟨lm', c', hmap, hx⟩ := ih h
      refine ⟨lm', c', ?_, hx⟩
      rw [hmap, call_map, hy]
      simp [outstanding, List.foldl_append]

/-- **A decoded response answers an outstanding request.** From a start with an empty map,
a payload that decodes as a response with id `id` to `method`, whoever sent it, carries that
id and answers a request with that id and method which an earlier drain handed over for some
peer, with no request under the id handed over and no payload answering it received since. -/
theorem decoded_response_was_requested (lm : LiquidityManager σ0 σ2)
    (hempty : lm.requestIdToMethodMap = fun _ => none) (calls : List Call)
    (pre post : List Observed) (senderNodeId : PublicKey) (payload : Payload) (msg : LSPSMessage)
    (pushed : List (PublicKey × LSPSMessage)) (result : Except LightningError Unit)
    (hrun : (lm.run lsps0 lsps2 calls).2 =
      pre ++ .handled senderNodeId payload (.ok msg) pushed result :: post)
    (id method : String) (hresponse : msg.responseIdAndMethod = some (id, method)) :
    payload.responseId = some id ∧
      ∃ a nodeId request b, pre.flatMap Observed.wire = a ++ .sent nodeId request :: b ∧
        request.requestIdAndMethod = some (id, method) ∧ ∀ w ∈ b, ¬ w.Touches id := by
  obtain ⟨lm', c, hmap, hc⟩ := run_observed lsps0 lsps2 hrun
  cases c with
  | handleCustomMessage raw sender =>
    simp only [LiquidityManager.call, Observed.handled.injEq] at hc
    obtain ⟨-, rfl, hdecoded, -, -⟩ := hc
    obtain ⟨hid, hm⟩ := fromStrWithIdMap_response hdecoded hresponse
    rw [hmap, hempty] at hm
    exact ⟨hid, outstanding_eq_some hm⟩
  | push => cases hc
  | getAndClearPendingMsg => cases hc

/-- **A response to an outstanding request decodes.** Over any run, a payload received from
any peer that is a response with id `id` to `method` decodes as itself, once a drain has
handed over a request with that id and method for some peer, and no payload bearing on the
id has been handed over or received since. -/
theorem outstanding_response_decodes (lm : LiquidityManager σ0 σ2) (calls : List Call)
    (pre post : List Observed) (senderNodeId : PublicKey) (resp : LSPSMessage)
    (decoded : Except DecodeError LSPSMessage) (pushed : List (PublicKey × LSPSMessage))
    (result : Except LightningError Unit)
    (hrun : (lm.run lsps0 lsps2 calls).2 =
      pre ++ .handled senderNodeId (serialize resp) decoded pushed result :: post)
    (id method : String) (hresponse : resp.responseIdAndMethod = some (id, method))
    (a b : List Wire) (nodeId : PublicKey) (request : Payload)
    (hsent : pre.flatMap Observed.wire = a ++ .sent nodeId request :: b)
    (hrequest : request.requestIdAndMethod = some (id, method))
    (hquiet : ∀ w ∈ b, ¬ w.Touches id) :
    decoded = .ok resp := by
  obtain ⟨lm', c, hmap, hc⟩ := run_observed lsps0 lsps2 hrun
  cases c with
  | handleCustomMessage raw sender =>
    simp only [LiquidityManager.call, Observed.handled.injEq] at hc
    obtain ⟨-, hpayload, rfl, -, -⟩ := hc
    rw [hpayload]
    refine fromStrWithIdMap_serialize resp _ (LSPSMessage.ne_invalid_of_response hresponse)
      fun i m h => ?_
    rw [hresponse] at h
    cases h
    rw [hmap, hsent]
    exact outstanding_of_sent _ hrequest hquiet
  | push => cases hc
  | getAndClearPendingMsg => cases hc

end Run

/-- Peer `2` is sent a `list_protocols` request with id `1`, then peer `3` answers id `1`. -/
def crossedCalls : List Call :=
  [.push ⟨[2], []⟩ (.LSPS0 (.Request ⟨"1"⟩ .ListProtocols)), .getAndClearPendingMsg,
    .handleCustomMessage ⟨serialize (.LSPS0 (.Response ⟨"1"⟩ (.ListProtocols [2])))⟩ ⟨[3], []⟩]

/-- The map is keyed by id alone: peer `3`'s payload decodes as the response to the request
that went to peer `2`, and consumes its entry. -/
theorem response_from_another_peer :
    (freshManager.run (silentHandler _) (silentHandler _) crossedCalls).2 =
        [.pushed ⟨[2], []⟩ (.LSPS0 (.Request ⟨"1"⟩ .ListProtocols)),
          .drained [(⟨[2], []⟩, ⟨serialize (.LSPS0 (.Request ⟨"1"⟩ .ListProtocols))⟩)],
          .handled ⟨[3], []⟩ (serialize (.LSPS0 (.Response ⟨"1"⟩ (.ListProtocols [2]))))
            (.ok (.LSPS0 (.Response ⟨"1"⟩ (.ListProtocols [2])))) [] (.ok ())] ∧
      (freshManager.run (silentHandler _) (silentHandler _) crossedCalls).1.requestIdToMethodMap
        "1" = none ∧
      (⟨[2], []⟩ : PublicKey) ≠ ⟨[3], []⟩ :=
  ⟨rfl, rfl, by decide⟩

theorem decoded_response_was_requested_crossed :
    (serialize (.LSPS0 (.Response ⟨"1"⟩ (.ListProtocols [2])))).responseId = some "1" ∧
      ∃ a nodeId request b,
        [Observed.pushed ⟨[2], []⟩ (.LSPS0 (.Request ⟨"1"⟩ .ListProtocols)),
            .drained [(⟨[2], []⟩, ⟨serialize (.LSPS0 (.Request ⟨"1"⟩ .ListProtocols))⟩)]].flatMap
          Observed.wire = a ++ .sent nodeId request :: b ∧
        request.requestIdAndMethod = some ("1", lsps0ListProtocolsMethodName) ∧
        ∀ w ∈ b, ¬ w.Touches "1" :=
  decoded_response_was_requested (silentHandler _) (silentHandler _) freshManager rfl crossedCalls
    [.pushed ⟨[2], []⟩ (.LSPS0 (.Request ⟨"1"⟩ .ListProtocols)),
      .drained [(⟨[2], []⟩, ⟨serialize (.LSPS0 (.Request ⟨"1"⟩ .ListProtocols))⟩)]] []
    ⟨[3], []⟩ (serialize (.LSPS0 (.Response ⟨"1"⟩ (.ListProtocols [2]))))
    (.LSPS0 (.Response ⟨"1"⟩ (.ListProtocols [2]))) [] (.ok ()) rfl "1" lsps0ListProtocolsMethodName rfl

def answeredCalls : List Call :=
  [.push ⟨[2], []⟩ (.LSPS0 (.Request ⟨"1"⟩ .ListProtocols)), .getAndClearPendingMsg,
    .handleCustomMessage ⟨serialize (.LSPS0 (.Response ⟨"1"⟩ (.ListProtocols [2])))⟩ ⟨[2], []⟩]

theorem outstanding_response_decodes_answered :
    (freshManager.run (silentHandler _) (silentHandler _) answeredCalls).2 =
        [.pushed ⟨[2], []⟩ (.LSPS0 (.Request ⟨"1"⟩ .ListProtocols)),
          .drained [(⟨[2], []⟩, ⟨serialize (.LSPS0 (.Request ⟨"1"⟩ .ListProtocols))⟩)],
          .handled ⟨[2], []⟩ (serialize (.LSPS0 (.Response ⟨"1"⟩ (.ListProtocols [2]))))
            (.ok (.LSPS0 (.Response ⟨"1"⟩ (.ListProtocols [2])))) [] (.ok ())] ∧
      (.ok (.LSPS0 (.Response ⟨"1"⟩ (.ListProtocols [2]))) : Except DecodeError LSPSMessage) =
        .ok (.LSPS0 (.Response ⟨"1"⟩ (.ListProtocols [2]))) :=
  ⟨rfl, outstanding_response_decodes (silentHandler _) (silentHandler _) freshManager answeredCalls
    [.pushed ⟨[2], []⟩ (.LSPS0 (.Request ⟨"1"⟩ .ListProtocols)),
      .drained [(⟨[2], []⟩, ⟨serialize (.LSPS0 (.Request ⟨"1"⟩ .ListProtocols))⟩)]] []
    ⟨[2], []⟩ (.LSPS0 (.Response ⟨"1"⟩ (.ListProtocols [2])))
    (.ok (.LSPS0 (.Response ⟨"1"⟩ (.ListProtocols [2])))) [] (.ok ()) rfl
    "1" lsps0ListProtocolsMethodName rfl [] [] ⟨[2], []⟩
    (serialize (.LSPS0 (.Request ⟨"1"⟩ .ListProtocols))) rfl rfl
    fun w hw => absurd hw (List.not_mem_nil w)⟩

end LdkLspClient
