import LdkLspClient.Correlation

/-!
The facade under threads, lock by lock. The host calls `handle_custom_message` and
`get_and_clear_pending_msg` from several threads, and the protocol handlers push onto the
shared queue from theirs. The facade has two locks, the request-id map's and the outbound
queue's, and its calls take them as follows:

* `handle_custom_message` locks the map, decodes, and unlocks it when its block ends; it then
  routes the message holding no lock of the facade's, or pushes `Invalid` under the queue's
  lock (`enqueue_message`);
* a push locks the queue for one message;
* `get_and_clear_pending_msg` locks the map, then the queue, and drains holding both.

A thread's place in its call (`Pc`) says which locks it holds. A step moves one thread to its
next place: it takes a lock by entering a place that holds it, which it may do only while no
thread holds it, and gives a lock back by leaving such a place. A protocol handler is, as
elsewhere, a function of its state: its call is one step, and the messages it pushes are then
pushed one lock at a time.
-/

namespace LdkLspClient

/-- Where a thread is in the facade call it makes. `handle_custom_message` waits for the map's
lock, decodes holding it, then routes holding none; a call's pushes wait for the queue's lock
and push one message a lock, and the call then returns showing `shown`; a drain waits for the
map's lock, then for the queue's, and drains holding both. -/
inductive Pc
  | decodeWait (msg : RawLSPSMessage) (senderNodeId : PublicKey)
  | decoding (msg : RawLSPSMessage) (senderNodeId : PublicKey)
  | routing (msg : RawLSPSMessage) (decoded : LSPSMessage) (senderNodeId : PublicKey)
  | pushWait (shown : Observed) (pending : List (PublicKey × LSPSMessage))
  | pushing (shown : Observed) (pending : List (PublicKey × LSPSMessage))
  | drainWait
  | drainQueueWait
  | draining
  | done (shown : Observed)

def Pc.start : Call → Pc
  | .handleCustomMessage msg senderNodeId => .decodeWait msg senderNodeId
  | .push nodeId msg => .pushWait (.pushed nodeId msg) [(nodeId, msg)]
  | .getAndClearPendingMsg => .drainWait

/-- The places that hold the map's lock: the decode, and the drain once it has the lock. -/
def Pc.holdsMap : Pc → Bool
  | .decoding .. | .drainQueueWait | .draining => true
  | _ => false

/-- The places that hold the queue's lock: a push, and the drain once it has both. -/
def Pc.holdsQueue : Pc → Bool
  | .pushing .. | .draining => true
  | _ => false

def Pc.waitsForMap : Pc → Bool
  | .decodeWait .. | .drainWait => true
  | _ => false

def Pc.waitsForQueue : Pc → Bool
  | .pushWait _ (_ :: _) | .drainQueueWait => true
  | _ => false

def Pc.isDone : Pc → Bool
  | .done _ => true
  | _ => false

def Pc.stepsToRouting : Pc → Nat
  | .decodeWait .. | .drainWait => 3
  | .decoding .. | .drainQueueWait => 2
  | .routing .. | .draining => 1
  | _ => 0

def Pc.stepsToReturn : Pc → Nat
  | .pushWait _ pending => 2 * pending.length + 2
  | .pushing _ pending => 2 * pending.length + 1
  | _ => 0

/-- What one step showed: a payload decoded under the map's lock, a message handed to
`handle_lsps_message`, a message pushed under the queue's lock, or a batch drained. -/
inductive Effect
  | decoded (senderNodeId : PublicKey) (payload : Payload)
      (decoded : Except DecodeError LSPSMessage)
  | routed (msg : LSPSMessage) (senderNodeId : PublicKey)
  | pushed (nodeId : PublicKey) (msg : LSPSMessage)
  | drained (batch : List (PublicKey × RawLSPSMessage))

/-- The manager, the threads in it by their places, and which thread holds each lock. -/
structure Threaded (σ0 σ2 : Type) where
  manager : LiquidityManager σ0 σ2
  threads : List Pc
  mapLock : Option Nat
  queueLock : Option Nat

def stepsLeft (f : Pc → Nat) (threads : List Pc) : Nat :=
  threads.foldr (fun pc n => f pc + n) 0

/-- What the threads have left: the steps up to their handler calls and drains, then the
rest. -/
def Threaded.remaining {σ0 σ2 : Type} (s : Threaded σ0 σ2) : Nat × Nat :=
  (stepsLeft Pc.stepsToRouting s.threads, stepsLeft Pc.stepsToReturn s.threads)

theorem stepsLeft_set {f : Pc → Nat} {threads : List Pc} {t : Nat} {pc : Pc}
    (ht : threads[t]? = some pc) (pc' : Pc) :
    stepsLeft f (threads.set t pc') + f pc = stepsLeft f threads + f pc' := by
  induction threads generalizing t with
  | nil => cases ht
  | cons q threads ih =>
    cases t with
    | zero =>
      obtain rfl : q = pc := Option.some.inj (by rwa [List.getElem?_cons_zero] at ht)
      simp only [stepsLeft, List.set_cons_zero, List.foldr_cons]
      omega
    | succ t =>
      have := ih (by rwa [List.getElem?_cons_succ] at ht)
      simp only [stepsLeft, List.set_cons_succ, List.foldr_cons] at this ⊢
      omega

def Threaded.init {σ0 σ2 : Type} (lm : LiquidityManager σ0 σ2) : Threaded σ0 σ2 :=
  ⟨lm, [], none, none⟩

/-- The holder of a lock once thread `t` moves from `pc` to `pc'`: `t` takes it by entering
a place that holds it, and gives it back by leaving one. -/
def lockAfter (holds : Pc → Bool) (lock : Option Nat) (t : Nat) (pc pc' : Pc) : Option Nat :=
  if holds pc' then some t else if holds pc then none else lock

/-- A thread enters a place that holds a lock it does not have only while no thread holds it. -/
def mayEnter (holds : Pc → Bool) (lock : Option Nat) (pc pc' : Pc) : Bool :=
  !holds pc' || holds pc || lock.isNone

/-! ## The locks -/

def LockHeld (lock : Option Nat) (holds : Pc → Bool) (threads : List Pc) : Prop :=
  ∀ t, lock = some t ↔ ∃ pc, threads[t]? = some pc ∧ holds pc = true

/-- Each lock is held by the thread whose place holds it, and by no other. -/
structure Threaded.Inv {σ0 σ2 : Type} (s : Threaded σ0 σ2) : Prop where
  map : LockHeld s.mapLock Pc.holdsMap s.threads
  queue : LockHeld s.queueLock Pc.holdsQueue s.threads

theorem LockHeld.move {lock : Option Nat} {holds : Pc → Bool} {threads : List Pc} {t : Nat}
    {pc pc' : Pc} (h : LockHeld lock holds threads) (ht : threads[t]? = some pc)
    (henter : mayEnter holds lock pc pc' = true) :
    LockHeld (lockAfter holds lock t pc pc') holds (threads.set t pc') := by
  have hlen : t < threads.length := (List.getElem?_eq_some_iff.mp ht).1
  have hown : lock = some t ↔ holds pc = true := by simp only [h t, ht, Option.some.injEq, exists_eq_left']
  intro u
  rw [List.getElem?_set]
  unfold lockAfter
  by_cases htu : t = u
  · subst htu
    have hgoal : (∃ pc'', (if t < threads.length then some pc' else none) = some pc'' ∧
        holds pc'' = true) ↔ holds pc' = true := by simp [hlen]
    rw [if_pos rfl, hgoal]
    cases hp' : holds pc'
    · cases hp : holds pc
      · simpa [hp] using hown
      · simp
    · simp
  · have hne : (some t = some u) = False := by simp [htu]
    rw [if_neg htu, ← h u]
    unfold mayEnter at henter
    cases hp' : holds pc' <;> cases hp : holds pc <;>
      simp only [hp, hp', hown.mpr, hne, Bool.false_eq_true, if_false, if_true, Bool.not_true,
        Bool.false_or, Bool.true_or, Option.isNone_iff_eq_none] at henter ⊢
    · simp
    · simp [henter]

theorem LockHeld.spawn {lock : Option Nat} {holds : Pc → Bool} {threads : List Pc} {pc : Pc}
    (h : LockHeld lock holds threads) (hpc : holds pc = false) :
    LockHeld lock holds (threads ++ [pc]) := by
  intro u
  rw [h u]
  rcases Nat.lt_or_ge u threads.length with hu | hu
  · rw [List.getElem?_append_left hu]
  · rw [List.getElem?_append_right hu, List.getElem?_eq_none hu]
    rcases Nat.eq_or_lt_of_le hu with rfl | hu
    · simp [hpc]
    · rw [List.getElem?_eq_none (by simp; omega)]

section Step

variable {σ0 σ2 : Type} (lsps0 : ProtocolMessageHandler σ0 LSPS0Message)
  (lsps2 : ProtocolMessageHandler σ2 LSPS2Message)

/-- The code of a call from one place to the next, on the manager as it is then: the next
place, the manager after, and what the step showed. A call that has returned has no next
place. -/
def Pc.next (lm : LiquidityManager σ0 σ2) :
    Pc → Option (Pc × LiquidityManager σ0 σ2 × Option Effect)
  | .decodeWait msg senderNodeId => some (.decoding msg senderNodeId, lm, none)
  | .decoding msg senderNodeId =>
    let decoded := LSPSMessage.fromStrWithIdMap msg.payload lm.requestIdToMethodMap
    let next : Pc := match decoded.1 with
      | .ok m => .routing msg m senderNodeId
      | .error e =>
        .pushWait (.handled senderNodeId msg.payload (.error e) [(senderNodeId, .Invalid)] (.ok ()))
          [(senderNodeId, .Invalid)]
    some (next, { lm with requestIdToMethodMap := decoded.2 },
      some (.decoded senderNodeId msg.payload decoded.1))
  | .routing msg m senderNodeId =>
    let o := lm.handleLspsMessage lsps0 lsps2 m senderNodeId
    some (.pushWait (.handled senderNodeId msg.payload (.ok m) o.pushed o.result) o.pushed,
      o.manager, some (.routed m senderNodeId))
  | .pushWait shown [] => some (.done shown, lm, none)
  | .pushWait shown (p :: ps) => some (.pushing shown (p :: ps), lm, none)
  | .pushing shown [] => some (.done shown, lm, none)
  | .pushing shown (p :: ps) =>
    some (.pushWait shown ps, lm.enqueueMessage p.1 p.2, some (.pushed p.1 p.2))
  | .drainWait => some (.drainQueueWait, lm, none)
  | .drainQueueWait => some (.draining, lm, none)
  | .draining =>
    let drained := lm.getAndClearPendingMsg
    some (.done (.drained drained.2), drained.1, some (.drained drained.2))
  | .done _ => none

/-- Thread `t` takes its next step, unless it has returned or waits for a lock another
thread holds. -/
def Threaded.stepThread (s : Threaded σ0 σ2) (t : Nat) :
    Option (Threaded σ0 σ2 × Option Effect) :=
  match s.threads[t]? with
  | none => none
  | some pc =>
    match pc.next lsps0 lsps2 s.manager with
    | none => none
    | some (pc', lm, effect) =>
      if mayEnter Pc.holdsMap s.mapLock pc pc' && mayEnter Pc.holdsQueue s.queueLock pc pc' then
        some (⟨lm, s.threads.set t pc', lockAfter Pc.holdsMap s.mapLock t pc pc',
          lockAfter Pc.holdsQueue s.queueLock t pc pc'⟩, effect)
      else none

inductive Sched
  | spawn (c : Call)
  | step (t : Nat)

def Threaded.sched (s : Threaded σ0 σ2) : Sched → Threaded σ0 σ2 × List Effect
  | .spawn c => ({ s with threads := s.threads ++ [Pc.start c] }, [])
  | .step t =>
    match s.stepThread lsps0 lsps2 t with
    | some (s', effect) => (s', effect.toList)
    | none => (s, [])

def Threaded.run (s : Threaded σ0 σ2) : List Sched → Threaded σ0 σ2 × List Effect
  | [] => (s, [])
  | e :: es =>
    let first := s.sched lsps0 lsps2 e
    let rest := first.1.run es
    (rest.1, first.2 ++ rest.2)

theorem stepThread_some {s s' : Threaded σ0 σ2} {t : Nat} {effect : Option Effect}
    (h : s.stepThread lsps0 lsps2 t = some (s', effect)) :
    ∃ pc pc' lm, s.threads[t]? = some pc ∧ pc.next lsps0 lsps2 s.manager = some (pc', lm, effect) ∧
      mayEnter Pc.holdsMap s.mapLock pc pc' = true ∧
      mayEnter Pc.holdsQueue s.queueLock pc pc' = true ∧
      s' = ⟨lm, s.threads.set t pc', lockAfter Pc.holdsMap s.mapLock t pc pc',
        lockAfter Pc.holdsQueue s.queueLock t pc pc'⟩ := by
  unfold Threaded.stepThread at h
  rcases ht : s.threads[t]? with _ | pc
  · simp only [ht] at h; cases h
  rcases hn : pc.next lsps0 lsps2 s.manager with _ | ⟨pc', lm, e⟩
  · simp only [ht, hn] at h; cases h
  simp only [ht, hn] at h
  split_ifs at h with hm
  obtain ⟨rfl, rfl⟩ := Prod.mk.inj (Option.some.inj h)
  obtain ⟨hmap, hqueue⟩ := Bool.and_eq_true_iff.mp hm
  exact ⟨pc, pc', lm, rfl, hn, hmap, hqueue, rfl⟩

theorem Threaded.run_append (s : Threaded σ0 σ2) (as bs : List Sched) :
    s.run lsps0 lsps2 (as ++ bs) =
      (((s.run lsps0 lsps2 as).1.run lsps0 lsps2 bs).1,
        (s.run lsps0 lsps2 as).2 ++ ((s.run lsps0 lsps2 as).1.run lsps0 lsps2 bs).2) := by
  induction as generalizing s with
  | nil => rfl
  | cons a as ih => simp [Threaded.run, ih]

theorem stepThread_inv {s s' : Threaded σ0 σ2} {t : Nat} {effect : Option Effect}
    (hs : s.Inv) (h : s.stepThread lsps0 lsps2 t = some (s', effect)) : s'.Inv := by
  obtain ⟨pc, pc', lm, ht, -, hmap, hqueue, rfl⟩ := stepThread_some lsps0 lsps2 h
  exact ⟨hs.map.move ht hmap, hs.queue.move ht hqueue⟩

theorem Pc.start_holds (c : Call) :
    (Pc.start c).holdsMap = false ∧ (Pc.start c).holdsQueue = false := by
  cases c <;> exact ⟨rfl, rfl⟩

theorem sched_inv {s : Threaded σ0 σ2} (hs : s.Inv) (e : Sched) :
    (s.sched lsps0 lsps2 e).1.Inv := by
  cases e with
  | spawn c => exact ⟨hs.map.spawn (Pc.start_holds c).1, hs.queue.spawn (Pc.start_holds c).2⟩
  | step t =>
    rcases h : s.stepThread lsps0 lsps2 t with _ | ⟨s', effect⟩
    · simp only [Threaded.sched, h]
      exact hs
    · simp only [Threaded.sched, h]
      exact stepThread_inv lsps0 lsps2 hs h

/-- **The locks exclude.** Over any schedule from a state where they are right, each lock is
held by the one thread whose place holds it, so two threads are never both in the decode or
the drain, nor both pushing. -/
theorem run_inv {s : Threaded σ0 σ2} (hs : s.Inv) (sched : List Sched) :
    (s.run lsps0 lsps2 sched).1.Inv := by
  induction sched generalizing s with
  | nil => exact hs
  | cons e es ih => exact ih (sched_inv lsps0 lsps2 hs e)

theorem init_inv (lm : LiquidityManager σ0 σ2) : (Threaded.init lm).Inv :=
  ⟨fun _ => by simp [Threaded.init], fun _ => by simp [Threaded.init]⟩

/-! ## No deadlock -/

theorem stepThread_isSome {s : Threaded σ0 σ2} {t : Nat} {pc : Pc} (ht : s.threads[t]? = some pc)
    (hdone : pc.isDone = false) (hmap : pc.waitsForMap = true → s.mapLock = none)
    (hqueue : pc.waitsForQueue = true → s.queueLock = none) :
    (s.stepThread lsps0 lsps2 t).isSome = true := by
  unfold Threaded.stepThread
  rw [ht]
  cases pc with
  | decoding msg senderNodeId =>
    simp only [Pc.next]
    rcases (LSPSMessage.fromStrWithIdMap msg.payload s.manager.requestIdToMethodMap).1 with _ | _ <;>
      rfl
  | decodeWait | drainWait => simp [Pc.next, mayEnter, Pc.holdsMap, Pc.holdsQueue, hmap rfl]
  | drainQueueWait => simp [Pc.next, mayEnter, Pc.holdsMap, Pc.holdsQueue, hqueue rfl]
  | pushWait shown pending =>
    cases pending with
    | nil => rfl
    | cons p ps => simp [Pc.next, mayEnter, Pc.holdsMap, Pc.holdsQueue, hqueue rfl]
  | pushing shown pending => cases pending <;> rfl
  | routing | draining => rfl
  | done => cases hdone

theorem queue_holder_steps {s : Threaded σ0 σ2} {v : Nat} (hs : s.Inv)
    (hv : s.queueLock = some v) : (s.stepThread lsps0 lsps2 v).isSome = true := by
  obtain ⟨pc, ht, hholds⟩ := (hs.queue v).mp hv
  cases pc with
  | pushing | draining =>
    exact stepThread_isSome lsps0 lsps2 ht rfl (fun h => by cases h) fun h => by cases h
  | _ => cases hholds

theorem map_holder_steps {s : Threaded σ0 σ2} {u : Nat} (hs : s.Inv)
    (hu : s.mapLock = some u) : ∃ w, (s.stepThread lsps0 lsps2 w).isSome = true := by
  obtain ⟨pc, ht, hholds⟩ := (hs.map u).mp hu
  cases pc with
  | decoding | draining =>
    exact ⟨u, stepThread_isSome lsps0 lsps2 ht rfl (fun h => by cases h) fun h => by cases h⟩
  | drainQueueWait =>
    rcases hq : s.queueLock with _ | v
    · exact ⟨u, stepThread_isSome lsps0 lsps2 ht rfl (fun h => by cases h) fun _ => hq⟩
    · exact ⟨v, queue_holder_steps lsps0 lsps2 hs hq⟩
  | _ => cases hholds

/-- **No deadlock.** In a state where the locks are right, while some call has not returned,
some thread can step: a waiter for the map is behind its holder, which decodes, drains, or
waits for the queue; the queue's holder never waits. The one call that holds both locks takes
the map's first, and no thread waits for the map holding the queue. -/
theorem progress {s : Threaded σ0 σ2} {t : Nat} {pc : Pc} (hs : s.Inv)
    (ht : s.threads[t]? = some pc) (hdone : pc.isDone = false) :
    ∃ u, (s.stepThread lsps0 lsps2 u).isSome = true := by
  by_cases hwm : pc.waitsForMap = true ∧ s.mapLock ≠ none
  · obtain ⟨u, hu⟩ := Option.ne_none_iff_exists'.mp hwm.2
    exact map_holder_steps lsps0 lsps2 hs hu
  by_cases hwq : pc.waitsForQueue = true ∧ s.queueLock ≠ none
  · obtain ⟨v, hv⟩ := Option.ne_none_iff_exists'.mp hwq.2
    exact ⟨v, queue_holder_steps lsps0 lsps2 hs hv⟩
  exact ⟨t, stepThread_isSome lsps0 lsps2 ht hdone (fun h => not_not.mp fun hn => hwm ⟨h, hn⟩)
    fun h => not_not.mp fun hn => hwq ⟨h, hn⟩⟩

/-! ## Every call returns -/

theorem Pc.next_remaining {lm lm' : LiquidityManager σ0 σ2} {pc pc' : Pc} {effect : Option Effect}
    (h : pc.next lsps0 lsps2 lm = some (pc', lm', effect)) :
    pc'.stepsToRouting < pc.stepsToRouting ∨
      pc'.stepsToRouting = pc.stepsToRouting ∧ pc'.stepsToReturn < pc.stepsToReturn := by
  cases pc with
  | decoding msg senderNodeId =>
    simp only [Pc.next, Option.some.injEq, Prod.mk.injEq] at h
    obtain ⟨rfl, -⟩ := h
    split <;> simp [Pc.stepsToRouting]
  | pushWait _ pending | pushing _ pending =>
    cases pending <;> simp only [Pc.next, Option.some.injEq, Prod.mk.injEq] at h <;>
      obtain ⟨rfl, -⟩ := h <;>
      simp only [Pc.stepsToRouting, Pc.stepsToReturn, List.length_cons, List.length_nil,
        true_and] <;> omega
  | done => cases h
  | _ =>
    simp only [Pc.next, Option.some.injEq, Prod.mk.injEq] at h
    obtain ⟨rfl, -⟩ := h
    simp [Pc.stepsToRouting]

def Threaded.Steps (s' s : Threaded σ0 σ2) : Prop :=
  ∃ t effect, s.stepThread lsps0 lsps2 t = some (s', effect)

theorem stepThread_remaining {s s' : Threaded σ0 σ2} {t : Nat} {effect : Option Effect}
    (h : s.stepThread lsps0 lsps2 t = some (s', effect)) :
    Prod.Lex (· < ·) (· < ·) s'.remaining s.remaining := by
  obtain ⟨pc, pc', lm, ht, hn, -, -, rfl⟩ := stepThread_some lsps0 lsps2 h
  have h1 := stepsLeft_set (f := Pc.stepsToRouting) ht pc'
  have h2 := stepsLeft_set (f := Pc.stepsToReturn) ht pc'
  rw [Prod.lex_def]
  simp only [Threaded.remaining]
  rcases Pc.next_remaining lsps0 lsps2 hn with hlt | ⟨heq, hlt⟩ <;> omega

/-- No schedule steps forever: every call is straight-line code between its locks. -/
theorem steps_wellFounded : WellFounded (@Threaded.Steps σ0 σ2 lsps0 lsps2) :=
  Subrelation.wf (r := InvImage (Prod.Lex (· < ·) (· < ·)) Threaded.remaining)
    (fun ⟨_, _, h⟩ => stepThread_remaining lsps0 lsps2 h)
    (InvImage.wf _ WellFoundedRelation.wf)

/-- **Every call returns.** From a manager with no thread in it, after any schedule: no order
of further steps goes on forever, and once no thread can step, every call that entered the
facade has returned. -/
theorem every_call_returns (lm : LiquidityManager σ0 σ2) (sched : List Sched) :
    Acc (Threaded.Steps lsps0 lsps2) ((Threaded.init lm).run lsps0 lsps2 sched).1 ∧
      ((∀ u, ((Threaded.init lm).run lsps0 lsps2 sched).1.stepThread lsps0 lsps2 u = none) →
        ∀ pc ∈ ((Threaded.init lm).run lsps0 lsps2 sched).1.threads, pc.isDone = true) := by
  refine ⟨(steps_wellFounded lsps0 lsps2).apply _, fun hstuck pc hpc => ?_⟩
  obtain ⟨t, ht⟩ := List.mem_iff_getElem?.mp hpc
  by_contra hdone
  obtain ⟨u, hu⟩ := progress lsps0 lsps2 (run_inv lsps0 lsps2 (init_inv lm) sched) ht
    (Bool.eq_false_iff.mpr hdone)
  rw [hstuck u] at hu
  cases hu

end Step

end LdkLspClient
