import LdkLspClient.Session

namespace LdkLspClient

inductive Side
  | a | b
  deriving DecidableEq, Repr

def Side.other : Side → Side
  | .a => .b
  | .b => .a

@[simp] theorem Side.other_other (side : Side) : side.other.other = side := by cases side <;> rfl

@[simp] theorem Side.other_ne (side : Side) : side.other ≠ side := by cases side <;> decide

def Side.swaps : Nat → Side → Side
  | 0, side => side
  | n + 1, side => (Side.swaps n side).other

theorem Side.swaps_other (n : Nat) (side : Side) :
    Side.swaps n side.other = (Side.swaps n side).other := by
  induction n with
  | zero => rfl
  | succ n ih => exact congrArg Side.other ih

/-- Two managers talking to each other: their node ids, and the payloads in flight to each.
What one hands its host for the other is put in flight to it, and in-flight payloads reach
the other's `handle_custom_message` in any order; any payload may also arrive from outside. -/
structure Exchange (σ0 σ2 : Type) where
  manager : Side → LiquidityManager σ0 σ2
  nodeId : Side → PublicKey
  inFlight : Side → List RawLSPSMessage

inductive Exchange.Event
  | call (side : Side) (c : Call)
  | deliver (side : Side) (index : Nat)

section Exchange

variable {σ0 σ2 : Type} (lsps0 : ProtocolMessageHandler σ0 LSPS0Message)
  (lsps2 : ProtocolMessageHandler σ2 LSPS2Message)

def Exchange.step (ex : Exchange σ0 σ2) : Exchange.Event → Exchange σ0 σ2 × List (Side × Observed)
  | .call side c =>
    let r := (ex.manager side).call lsps0 lsps2 c
    let toOther := r.2.batch.filterMap fun (nodeId, raw) =>
      if nodeId = ex.nodeId side.other then some raw else none
    ({ ex with
        manager := Function.update ex.manager side r.1
        inFlight := Function.update ex.inFlight side.other (ex.inFlight side.other ++ toOther) },
      [(side, r.2)])
  | .deliver side index =>
    match (ex.inFlight side)[index]? with
    | some raw =>
      let r := (ex.manager side).call lsps0 lsps2 (.handleCustomMessage raw (ex.nodeId side.other))
      ({ ex with
          manager := Function.update ex.manager side r.1
          inFlight := Function.update ex.inFlight side ((ex.inFlight side).eraseIdx index) },
        [(side, r.2)])
    | none => (ex, [])

def Exchange.run (ex : Exchange σ0 σ2) : List Exchange.Event → Exchange σ0 σ2 × List (Side × Observed)
  | [] => (ex, [])
  | e :: es =>
    let first := ex.step lsps0 lsps2 e
    let rest := first.1.run es
    (rest.1, first.2 ++ rest.2)

theorem Exchange.run_append (ex : Exchange σ0 σ2) (es es' : List Exchange.Event) :
    ex.run lsps0 lsps2 (es ++ es') =
      (((ex.run lsps0 lsps2 es).1.run lsps0 lsps2 es').1,
        (ex.run lsps0 lsps2 es).2 ++ ((ex.run lsps0 lsps2 es).1.run lsps0 lsps2 es').2) := by
  induction es generalizing ex with
  | nil => rfl
  | cons e es ih => simp [Exchange.run, ih]

/-- One round: `side` receives the first payload in flight to it, then its host drains its
queue. -/
def Exchange.round (side : Side) : List Exchange.Event :=
  [.deliver side 0, .call side .getAndClearPendingMsg]

def Exchange.rounds : Side → Nat → List Exchange.Event
  | _, 0 => []
  | side, n + 1 => Exchange.round side ++ Exchange.rounds side.other n

/-- The `Invalid` notification is the one payload in flight, to `side`, and both queues are
empty. -/
structure Exchange.Bouncing (ex : Exchange σ0 σ2) (side : Side) : Prop where
  toSide : ex.inFlight side = [⟨serialize .Invalid⟩]
  toOther : ex.inFlight side.other = []
  queues : ∀ s, (ex.manager s).pendingMessages = []

theorem run_invalid_drain (lm : LiquidityManager σ0 σ2) (hq : lm.pendingMessages = [])
    (senderNodeId : PublicKey) :
    lm.run lsps0 lsps2
        [.handleCustomMessage ⟨serialize .Invalid⟩ senderNodeId, .getAndClearPendingMsg] =
      (lm, [.handled senderNodeId (serialize .Invalid) (.error .missingIdAndMethod)
          [(senderNodeId, .Invalid)] (.ok ()),
        .drained [(senderNodeId, ⟨serialize .Invalid⟩)]]) := by
  cases lm
  subst hq
  simp [LiquidityManager.run, LiquidityManager.call, handleCustomMessage_serialize_invalid,
    fromStrWithIdMap_serialize_invalid, getAndClearPendingMsg_eq, Outcome.apply, recordRequest,
    toRaw, LSPSMessage.getRequestIdAndMethod]

/-- **One round of the ping-pong.** From a bouncing exchange, `side` answers the `Invalid`
notification with another, which its drain puts in flight back: the exchange bounces to the
other side, with both managers as they were. -/
theorem Exchange.round_bouncing {ex : Exchange σ0 σ2} {side : Side} (h : ex.Bouncing side) :
    (ex.run lsps0 lsps2 (Exchange.round side)).1 =
        { ex with
          inFlight := Function.update (Function.update ex.inFlight side []) side.other
            [⟨serialize .Invalid⟩] } ∧
      (ex.run lsps0 lsps2 (Exchange.round side)).2 =
        [(side, .handled (ex.nodeId side.other) (serialize .Invalid) (.error .missingIdAndMethod)
            [(ex.nodeId side.other, .Invalid)] (.ok ())),
          (side, .drained [(ex.nodeId side.other, ⟨serialize .Invalid⟩)])] := by
  have hm := run_invalid_drain lsps0 lsps2 (ex.manager side) (h.queues side) (ex.nodeId side.other)
  simp only [LiquidityManager.run, Prod.mk.injEq, List.cons.injEq, and_true] at hm
  obtain ⟨hlm, ho1, ho2⟩ := hm
  simp only [Exchange.round, Exchange.run, Exchange.step, h.toSide, List.getElem?_cons_zero,
    Function.update_same, Function.update_noteq (Side.other_ne side), ho1, ho2, hlm,
    Function.update_idem, Function.update_eq_self, h.toOther, Observed.batch]
  simp

theorem Exchange.Bouncing.round {ex : Exchange σ0 σ2} {side : Side} (h : ex.Bouncing side) :
    (ex.run lsps0 lsps2 (Exchange.round side)).1.Bouncing side.other := by
  rw [(Exchange.round_bouncing lsps0 lsps2 h).1]
  refine ⟨Function.update_same _ _ _, ?_, h.queues⟩
  rw [Side.other_other]
  exact (Function.update_noteq (Side.other_ne side).symm _ _).trans (Function.update_same _ _ _)

theorem Exchange.run_nodeId (ex : Exchange σ0 σ2) (events : List Exchange.Event) :
    (ex.run lsps0 lsps2 events).1.nodeId = ex.nodeId := by
  induction events generalizing ex with
  | nil => rfl
  | cons e es ih =>
    rw [Exchange.run, ih]
    cases e with
    | call => rfl
    | deliver side index => simp only [Exchange.step]; split <;> rfl

theorem Exchange.rounds_succ (side : Side) (n : Nat) :
    Exchange.rounds side (n + 1) = Exchange.rounds side n ++ Exchange.round (Side.swaps n side) := by
  induction n generalizing side with
  | zero => simp [Exchange.rounds, Side.swaps]
  | succ n ih =>
    rw [Exchange.rounds, ih, Exchange.rounds, List.append_assoc, Side.swaps, ← Side.swaps_other]

/-- After `n` rounds from a bouncing exchange, it bounces still, to the side `n` swaps reach. -/
theorem Exchange.Bouncing.rounds {ex : Exchange σ0 σ2} {side : Side} (h : ex.Bouncing side)
    (n : Nat) : (ex.run lsps0 lsps2 (Exchange.rounds side n)).1.Bouncing (Side.swaps n side) := by
  induction n with
  | zero => exact h
  | succ n ih =>
    rw [Exchange.rounds_succ, Exchange.run_append]
    exact ih.round lsps0 lsps2

end Exchange

def freshExchange : Exchange Unit Unit :=
  ⟨fun _ => freshManager, fun | .a => ⟨[1], []⟩ | .b => ⟨[2], []⟩, fun _ => []⟩

/-- A malformed payload from `a` reaches `b`, which answers it with `Invalid`; `b`'s host
drains the answer, and it is in flight to `a`. -/
def invalidStart : List Exchange.Event :=
  [.call .b (.handleCustomMessage ⟨.malformed "garbage"⟩ ⟨[1], []⟩), .call .b .getAndClearPendingMsg]

theorem invalidStart_bouncing (lsps0 : ProtocolMessageHandler Unit LSPS0Message)
    (lsps2 : ProtocolMessageHandler Unit LSPS2Message) :
    (freshExchange.run lsps0 lsps2 invalidStart).1.Bouncing .a :=
  ⟨rfl, rfl, fun s => by cases s <;> rfl⟩

/-- **`Invalid` bounces forever.** Whatever the handlers, once a malformed payload has reached
`b`, in every round `n + 1` the side holding the `Invalid` notification answers it with another
`Invalid` to the other side: its decode fails, since the notification has neither id nor
method, and `handle_custom_message` replies to a failed decode with `Invalid`. -/
theorem invalid_notification_bounces (lsps0 : ProtocolMessageHandler Unit LSPS0Message)
    (lsps2 : ProtocolMessageHandler Unit LSPS2Message) (n : Nat) :
    (Side.swaps n .a, .handled (freshExchange.nodeId (Side.swaps n .a).other) (serialize .Invalid)
        (.error .missingIdAndMethod) [(freshExchange.nodeId (Side.swaps n .a).other, .Invalid)]
        (.ok ())) ∈
      (freshExchange.run lsps0 lsps2 (invalidStart ++ Exchange.rounds .a (n + 1))).2 := by
  have hb := (invalidStart_bouncing lsps0 lsps2).rounds lsps0 lsps2 n
  rw [Exchange.run_append, Exchange.rounds_succ, Exchange.run_append,
    (Exchange.round_bouncing lsps0 lsps2 hb).2, Exchange.run_nodeId, Exchange.run_nodeId]
  simp

end LdkLspClient
