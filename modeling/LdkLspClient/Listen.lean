import LdkLspClient.Manager

namespace LdkLspClient

section Listen

variable {σ0 σ2 : Type}

def LiquidityManager.transactionsConfirmed (lm : LiquidityManager σ0 σ2) (_header : BlockHeader)
    (_height : UInt32) : LiquidityManager σ0 σ2 :=
  lm

def LiquidityManager.bestBlockUpdated (lm : LiquidityManager σ0 σ2) (_header : BlockHeader)
    (_height : UInt32) : LiquidityManager σ0 σ2 :=
  lm

/-- `Listen::filtered_block_connected`. A failed `assert_eq!` panics with its message, here
`Except.error`; heights are `u32`, and `height - 1` wraps at zero as in a release build. -/
def LiquidityManager.filteredBlockConnected (lm : LiquidityManager σ0 σ2) (header : BlockHeader)
    (height : UInt32) : Except String (LiquidityManager σ0 σ2) :=
  if lm.bestBlock.blockHash ≠ header.prevBlockhash then
    .error "Blocks must be connected in chain-order - the connected header must build on the last connected header"
  else if lm.bestBlock.height ≠ height - 1 then
    .error "Blocks must be connected in chain-order - the connected block height must be one greater than the previous height"
  else
    let lm := lm.transactionsConfirmed header height
    .ok (lm.bestBlockUpdated header height)

def LiquidityManager.blockDisconnected (lm : LiquidityManager σ0 σ2) (header : BlockHeader)
    (height : UInt32) : Except String (LiquidityManager σ0 σ2) :=
  let newHeight := height - 1
  if lm.bestBlock.blockHash ≠ header.blockHash then
    .error "Blocks must be disconnected in chain-order - the disconnected header must be the last connected header"
  else if lm.bestBlock.height ≠ height then
    .error "Blocks must be disconnected in chain-order - the disconnected block must have the correct height"
  else
    .ok { lm with bestBlock := ⟨header.prevBlockhash, newHeight⟩ }

theorem filteredBlockConnected_eq_ok {lm lm' : LiquidityManager σ0 σ2} {header : BlockHeader}
    {height : UInt32} :
    lm.filteredBlockConnected header height = .ok lm' ↔
      lm.bestBlock.blockHash = header.prevBlockhash ∧ lm.bestBlock.height = height - 1 ∧
        lm' = lm := by
  unfold LiquidityManager.filteredBlockConnected
  split_ifs with h1 h2 <;> simp_all [LiquidityManager.bestBlockUpdated,
    LiquidityManager.transactionsConfirmed, eq_comm]

theorem blockDisconnected_eq_ok {lm lm' : LiquidityManager σ0 σ2} {header : BlockHeader}
    {height : UInt32} :
    lm.blockDisconnected header height = .ok lm' ↔
      lm.bestBlock.blockHash = header.blockHash ∧ lm.bestBlock.height = height ∧
        lm' = { lm with bestBlock := ⟨header.prevBlockhash, height - 1⟩ } := by
  unfold LiquidityManager.blockDisconnected
  split_ifs with h1 h2 <;> simp_all [eq_comm]

inductive ListenCall
  | filteredBlockConnected (header : BlockHeader) (height : UInt32)
  | blockDisconnected (header : BlockHeader) (height : UInt32)
  deriving DecidableEq, Repr

def ListenCall.isConnect : ListenCall → Bool
  | .filteredBlockConnected _ _ => true
  | .blockDisconnected _ _ => false

def LiquidityManager.listen (lm : LiquidityManager σ0 σ2) :
    ListenCall → Except String (LiquidityManager σ0 σ2)
  | .filteredBlockConnected header height => lm.filteredBlockConnected header height
  | .blockDisconnected header height => lm.blockDisconnected header height

/-- The calls in order, stopping at the first panic. -/
def LiquidityManager.listenRun (lm : LiquidityManager σ0 σ2) :
    List ListenCall → Except String (LiquidityManager σ0 σ2)
  | [] => .ok lm
  | c :: cs =>
    match lm.listen c with
    | .ok lm => lm.listenRun cs
    | .error e => .error e

/-! ## Chain order -/

/-- Chain order at a tip: a connected block builds on the tip, one higher; a disconnected
block is the tip. -/
def ListenCall.InOrder (tip : BestBlock) : ListenCall → Prop
  | .filteredBlockConnected header height =>
    header.prevBlockhash = tip.blockHash ∧ height.toNat = tip.height.toNat + 1
  | .blockDisconnected header height => header.blockHash = tip.blockHash ∧ height = tip.height

instance (tip : BestBlock) (c : ListenCall) : Decidable (c.InOrder tip) :=
  match c with
  | .filteredBlockConnected _ _ => inferInstanceAs (Decidable (_ ∧ _))
  | .blockDisconnected _ _ => inferInstanceAs (Decidable (_ ∧ _))

def ListenCall.tipAfter : ListenCall → BestBlock
  | .filteredBlockConnected header height => ⟨header.blockHash, height⟩
  | .blockDisconnected header height => ⟨header.prevBlockhash, height - 1⟩

/-- Calls in chain order from a tip, each against the tip the ones before it leave. -/
def ChainOrdered : BestBlock → List ListenCall → Prop
  | _, [] => True
  | tip, c :: cs => c.InOrder tip ∧ ChainOrdered c.tipAfter cs

instance decidableChainOrdered : (tip : BestBlock) → (calls : List ListenCall) →
    Decidable (ChainOrdered tip calls)
  | _, [] => isTrue trivial
  | _, c :: cs =>
    have := decidableChainOrdered c.tipAfter cs
    inferInstanceAs (Decidable (_ ∧ _))

theorem uint32_sub_one_of_toNat {a b : UInt32} (h : a.toNat = b.toNat + 1) : b = a - 1 :=
  UInt32.toNat.inj (by rw [UInt32.toNat_sub_of_le a 1 (by show 1 ≤ a.toNat; omega)]; simp [h])

theorem listen_disconnect_inOrder {lm : LiquidityManager σ0 σ2} {header : BlockHeader}
    {height : UInt32} (h : (ListenCall.blockDisconnected header height).InOrder lm.bestBlock) :
    lm.listen (.blockDisconnected header height) =
      .ok { lm with bestBlock := (ListenCall.blockDisconnected header height).tipAfter } :=
  blockDisconnected_eq_ok.mpr ⟨h.1.symm, h.2.symm, rfl⟩

theorem listen_connect_inOrder {lm : LiquidityManager σ0 σ2} {header : BlockHeader}
    {height : UInt32} (h : (ListenCall.filteredBlockConnected header height).InOrder lm.bestBlock) :
    lm.listen (.filteredBlockConnected header height) = .ok lm :=
  filteredBlockConnected_eq_ok.mpr ⟨h.1.symm, uint32_sub_one_of_toNat h.2, rfl⟩

/-- After a connect in chain order the best block is one below the tip, so the next call in
chain order fails its height check. -/
theorem listen_after_connect {lm : LiquidityManager σ0 σ2} {header : BlockHeader}
    {height : UInt32} {c : ListenCall}
    (h1 : (ListenCall.filteredBlockConnected header height).InOrder lm.bestBlock)
    (h2 : c.InOrder (ListenCall.filteredBlockConnected header height).tipAfter) :
    ∃ e, lm.listen c = .error e := by
  obtain ⟨-, hh⟩ := h1
  rcases hx : lm.listen c with e | lm'
  · exact ⟨e, rfl⟩
  · exfalso
    cases c with
    | filteredBlockConnected header' height' =>
      obtain ⟨-, hh'⟩ := h2
      simp only [ListenCall.tipAfter] at hh'
      have := congrArg UInt32.toNat (filteredBlockConnected_eq_ok.mp hx).2.1
      rw [UInt32.toNat_sub_of_le _ 1 (by show 1 ≤ height'.toNat; omega)] at this
      have hone : (1 : UInt32).toNat = 1 := rfl
      omega
    | blockDisconnected header' height' =>
      obtain ⟨-, rfl⟩ := h2
      have := congrArg UInt32.toNat (blockDisconnected_eq_ok.mp hx).2.1
      simp only [ListenCall.tipAfter] at this
      omega

def chainTip (tip : BestBlock) (calls : List ListenCall) : BestBlock :=
  calls.foldl (fun _ c => c.tipAfter) tip

theorem listen_run_disconnects (lm : LiquidityManager σ0 σ2) (calls : List ListenCall)
    (hord : ChainOrdered lm.bestBlock calls) (hdis : ∀ c ∈ calls, c.isConnect = false) :
    ∃ lm', lm.listenRun calls = .ok lm' ∧ lm'.bestBlock = chainTip lm.bestBlock calls := by
  induction calls generalizing lm with
  | nil => exact ⟨lm, rfl, rfl⟩
  | cons c cs ih =>
    obtain ⟨hc, hcs⟩ := hord
    cases c with
    | filteredBlockConnected => simp [ListenCall.isConnect] at hdis
    | blockDisconnected header height =>
      obtain ⟨lm', h, hb⟩ := ih { lm with bestBlock := _ } hcs
        fun c hc => hdis c (List.mem_cons_of_mem _ hc)
      refine ⟨lm', ?_, hb⟩
      rw [LiquidityManager.listenRun, listen_disconnect_inOrder hc]
      exact h

theorem listen_run_ok_iff (lm : LiquidityManager σ0 σ2) (calls : List ListenCall)
    (hord : ChainOrdered lm.bestBlock calls) :
    (∃ lm', lm.listenRun calls = .ok lm') ↔ ∀ c ∈ calls.dropLast, c.isConnect = false := by
  induction calls generalizing lm with
  | nil => simp [LiquidityManager.listenRun]
  | cons c cs ih =>
    obtain ⟨hc, hcs⟩ := hord
    cases c with
    | blockDisconnected header height =>
      rw [LiquidityManager.listenRun, listen_disconnect_inOrder hc]
      exact (ih { lm with bestBlock := (ListenCall.blockDisconnected header height).tipAfter } hcs).trans
        (by cases cs <;> simp [ListenCall.isConnect])
    | filteredBlockConnected header height =>
      cases cs with
      | nil => simp [LiquidityManager.listenRun, listen_connect_inOrder hc]
      | cons c' cs =>
        obtain ⟨e, he⟩ := listen_after_connect hc hcs.1
        simp [LiquidityManager.listenRun, listen_connect_inOrder hc, he, ListenCall.isConnect]

/-- **The listener on a run in chain order.** Disconnects move the best block with the tip;
a connect passes its checks but leaves the best block where it was, so whatever call comes
next in chain order panics. A run in chain order goes through exactly when no connect comes
before another call, and one of disconnects alone ends with the best block at the tip. -/
theorem listen_run_chain_ordered (lm : LiquidityManager σ0 σ2) (calls : List ListenCall)
    (hord : ChainOrdered lm.bestBlock calls) :
    ((∃ lm', lm.listenRun calls = .ok lm') ↔ ∀ c ∈ calls.dropLast, c.isConnect = false) ∧
      ((∀ c ∈ calls, c.isConnect = false) →
        ∃ lm', lm.listenRun calls = .ok lm' ∧ lm'.bestBlock = chainTip lm.bestBlock calls) :=
  ⟨listen_run_ok_iff lm calls hord, listen_run_disconnects lm calls hord⟩

end Listen

/-- Bitcoin's genesis block and the two blocks after it, by their hashes as displayed. -/
def genesisHeader : BlockHeader :=
  ⟨⟨0⟩, ⟨0x000000000019d6689c085ae165831e934ff763ae46a2a6c172b3f1b60a8ce26f⟩⟩

def block1Header : BlockHeader :=
  ⟨genesisHeader.blockHash, ⟨0x00000000839a8e6886ab5951d76f411475428afc90947ee320161bbf18eb6048⟩⟩

def block2Header : BlockHeader :=
  ⟨block1Header.blockHash, ⟨0x000000006a625f06636b8bb6ac7b960a8d03705d1ace08b1a19da3fdcc99ddbd⟩⟩

def genesisManager : LiquidityManager Unit Unit :=
  LiquidityManager.new (fun _ => ()) (fun _ => ()) none ⟨⟨genesisHeader.blockHash, 0⟩⟩

/-- On the genesis block, block 1 alone connects, but blocks 1 and 2 in chain order do not:
a connect comes before another call. -/
theorem listen_run_chain_ordered_connects :
    ChainOrdered genesisManager.bestBlock [.filteredBlockConnected block1Header 1] ∧
      (∃ lm', genesisManager.listenRun [.filteredBlockConnected block1Header 1] = .ok lm') ∧
    ChainOrdered genesisManager.bestBlock
        [.filteredBlockConnected block1Header 1, .filteredBlockConnected block2Header 2] ∧
      ¬ ∃ lm', genesisManager.listenRun
        [.filteredBlockConnected block1Header 1, .filteredBlockConnected block2Header 2] = .ok lm' :=
  ⟨by decide, (listen_run_chain_ordered genesisManager _ (by decide)).1.mpr nofun, by decide,
    fun h => absurd ((listen_run_chain_ordered genesisManager _ (by decide)).1.mp h _
      (List.mem_singleton_self _)) (by decide)⟩

/-- Blocks 1 and 2 connected in chain order on the genesis block: the first connect leaves
the best block at genesis, since `best_block_updated` is a stub, so the second one panics. -/
theorem second_connect_panics :
    ChainOrdered genesisManager.bestBlock
        [.filteredBlockConnected block1Header 1, .filteredBlockConnected block2Header 2] ∧
      (genesisManager.filteredBlockConnected block1Header 1).map LiquidityManager.bestBlock =
        .ok ⟨genesisHeader.blockHash, 0⟩ ∧
      genesisManager.listenRun
          [.filteredBlockConnected block1Header 1, .filteredBlockConnected block2Header 2] =
        .error "Blocks must be connected in chain-order - the connected header must build on the last connected header" :=
  ⟨by decide, rfl, rfl⟩

/-- At height 0 the subtraction wraps: disconnecting the genesis block passes both checks and
stores height `u32::MAX`, and the genesis block then connects again at height 0 through the
wrapped comparison. -/
theorem disconnect_at_height_zero :
    (genesisManager.blockDisconnected genesisHeader 0).map LiquidityManager.bestBlock =
        .ok ⟨⟨0⟩, 4294967295⟩ ∧
      (genesisManager.listenRun
          [.blockDisconnected genesisHeader 0, .filteredBlockConnected genesisHeader 0]).map
          LiquidityManager.bestBlock = .ok ⟨⟨0⟩, 4294967295⟩ :=
  ⟨rfl, rfl⟩

end LdkLspClient
