import TiWlan.Iface.Operations
import TiWlan.Lib.Run

/-!
# The Tx watchdog

`tx_watchdog_work` is armed when the first frame goes to an empty firmware
(`wl1271_tx_allocate`, `wlcore/tx.c`, lines 186–242), restarted or cancelled when blocks come
back (`wlcore_fw_status`, `wlcore/main.c`, lines 389–478), and started again by the
operations during which the firmware may hold frames for long (`wlcore/main.c`, lines
229–300). A stop cancels it and forgets the blocks (lines 1860–1954).

Results: `Watched` is kept by the atomic steps of the operations (`watched_atom`), by
interfaces that come and go and by a recovery (`step_watched`); in every state of a run the
watchdog of a running firmware that holds blocks is pending, and when it fires it is
pending again or a recovery is queued (`txWatchdog_covers`).
-/

namespace TiWlan.Iface

open TiWlan.Driver TiWlan.Lib TiWlan.Link TiWlan.Tx

/-! ## The accounting -/

/-- If the firmware runs and holds blocks, the watchdog is pending. The number of free blocks is a
`u32`. -/
structure Armed (on : Prop) (a : TxAccounting) : Prop where
  armed : on → a.txAllocatedBlocks ≠ 0 → a.txWatchdogPending = true
  available : a.txBlocksAvailable < 2 ^ 32

/-- The blocks are the same, and a pending watchdog stays pending. -/
structure BlocksKeep (a a' : TxAccounting) : Prop where
  allocated : a'.txAllocatedBlocks = a.txAllocatedBlocks
  available : a'.txBlocksAvailable = a.txBlocksAvailable
  watchdog : a.txWatchdogPending = true → a'.txWatchdogPending = true

theorem BlocksKeep.trans {a a' a'' : TxAccounting} (h : BlocksKeep a a') (h' : BlocksKeep a' a'') :
    BlocksKeep a a'' :=
  ⟨h'.allocated.trans h.allocated, h'.available.trans h.available,
    fun hw => h'.watchdog (h.watchdog hw)⟩

theorem BlocksKeep.of_eq {a a' : TxAccounting} (h : a' = a) : BlocksKeep a a' := by
  rw [h]
  exact ⟨rfl, rfl, id⟩

section
variable {on : Prop} {wl : Wl1271}

theorem Armed.of_keep {a a' : TxAccounting} (h : Armed on a) (hk : BlocksKeep a a') :
    Armed on a' := by
  refine ⟨fun hon hne => hk.watchdog (h.armed hon ?_), ?_⟩
  · rw [← hk.allocated]
    exact hne
  · rw [hk.available]
    exact h.available

/-- A frame goes to the firmware. -/
theorem Armed.commit (h : Armed on wl.toTxAccounting) {a : TxAlloc}
    (hb : a.totalBlocks ≤ wl.txBlocksAvailable) (hpos : 0 < a.totalBlocks) (v : Option VifId)
    (skb : Skb) (l : Hlid) : Armed on (txAllocateCommit wl v skb l a).toTxAccounting := by
  have havail := h.available
  refine ⟨fun hon _ => ?_, ?_⟩
  · show (wl.txWatchdogPending || (u32 (wl.txAllocatedBlocks + a.totalBlocks) == a.totalBlocks &&
      u32 (wl.txAllocatedBlocks + a.totalBlocks) != 0)) = true
    by_cases hzero : wl.txAllocatedBlocks = 0
    · have hfirst : u32 (wl.txAllocatedBlocks + a.totalBlocks) = a.totalBlocks := by
        rw [hzero]
        unfold u32
        omega
      have hne : a.totalBlocks ≠ 0 := by omega
      simp [hfirst, hne]
    · rw [h.armed hon hzero, Bool.true_or]
  · show wl.txBlocksAvailable - a.totalBlocks < 2 ^ 32
    omega

/-- A status block is accounted for, whatever it says. -/
theorem Armed.status (h : Armed on wl.toTxAccounting) (st : FwStatus) :
    Armed on (fwStatusAccounting wl st) := by
  refine ⟨fun hon hne => ?_, u32_lt _⟩
  have hne' : u32 (wl.txAllocatedBlocks - freedBlocks wl st) ≠ 0 := hne
  show (if freedBlocks wl st = 0 then wl.txWatchdogPending
    else u32 (wl.txAllocatedBlocks - freedBlocks wl st) != 0) = true
  split
  · rename_i hfreed
    refine h.armed hon fun hzero => hne' ?_
    rw [hfreed, hzero]
    rfl
  · simpa using hne'

theorem armed_atom {P : Assume} {s s' : Option Skb × Wl1271} (hatom : TxAtom P s s')
    (h : Armed on s.2.toTxAccounting) : Armed on s'.2.toTxAccounting := by
  cases hatom with
  | opTx hp =>
    unfold wl1271OpTx
    split <;> exact h
  | @commit wl wl' skb v l a hid hb hpos =>
    obtain ⟨-, rfl⟩ := allocTxId_some hid
    exact Armed.commit h hb hpos v skb l
  | release hid =>
    obtain ⟨-, rfl⟩ := allocTxId_some hid
    unfold wl1271FreeTxId
    split <;> exact h.of_keep ⟨rfl, rfl, id⟩
  | busy hb => exact h.of_keep ⟨rfl, rfl, id⟩
  | complete hs hd =>
    unfold deferFrame wl1271FreeTxId
    split <;> exact h.of_keep ⟨rfl, rfl, id⟩
  | completeDummy hs hd =>
    unfold wl1271FreeTxId
    split <;> exact h.of_keep ⟨rfl, rfl, id⟩
  | status hst => exact h.status _
  | other hk ht ha hw =>
    obtain ⟨_, _, ha⟩ := ha
    rw [ha]
    exact h.of_keep ⟨rfl, rfl, id⟩
  | _ => exact h

end

/-! ## The operations -/

/-- What the driver keeps of its watchdog: it covers the blocks of a running firmware, and a firmware
that is off holds none. -/
structure Watched (wl : Wl1271) : Prop where
  acct : Armed (wl.state = .on) wl.toTxAccounting
  off : wl.state = .off → wl.txAllocatedBlocks = 0

section
variable {A : LinkAssume} {wl wl' : Wl1271}

/-- The blocks are the same, and the driver is neither on nor off that was not before. -/
theorem Watched.of_keep (h : Watched wl) (hon : wl'.state = .on → wl.state = .on)
    (hoff : wl'.state = .off → wl.state = .off)
    (hk : BlocksKeep wl.toTxAccounting wl'.toTxAccounting) : Watched wl' := by
  have hacct := h.acct.of_keep hk
  exact ⟨⟨fun hs => hacct.armed (hon hs), hacct.available⟩,
    fun hs => hk.allocated.trans (h.off (hoff hs))⟩

/-- At most a recovery was queued. -/
theorem Watched.of_power (h : Watched wl) (hp : wl.toPower.MayRecover wl'.toPower)
    (hk : BlocksKeep wl.toTxAccounting wl'.toTxAccounting) : Watched wl' :=
  h.of_keep hp.on_of_on hp.off_of_off hk

/-- A link that is given back takes its frames with it. -/
theorem freeRoleLink_acct (wl : Wl1271) (v : VifId) (r : RoleLink) :
    (freeRoleLink wl v r).toTxAccounting = wl.toTxAccounting := by
  unfold freeRoleLink
  split <;> rfl

/-- A station that goes may arm the watchdog. -/
theorem wl1271FreeSta_blocks (wl : Wl1271) (v : VifId) (h : Hlid) :
    BlocksKeep wl.toTxAccounting (wl1271FreeSta wl v h).toTxAccounting := by
  cases hsta : (wl.vifs v).staHlidMap h with
  | false =>
    rw [wl1271FreeSta_of_not hsta]
    exact .of_eq rfl
  | true =>
    obtain ⟨_, heq⟩ := wl1271FreeSta_frame hsta
    rw [heq]
    exact ⟨rfl, rfl, fun hp => Bool.or_eq_true_iff.mpr (Or.inl hp)⟩

theorem watched_atom (hatom : LinkAtom A wl wl') (h : Watched wl) : Watched wl' := by
  have hpower := hatom.driver.power.power
  cases hatom with
  | tx hreach hoff =>
    have hacct : Armed (wl.state = .on) wl'.toTxAccounting :=
      hreach.invariant (I := fun s => Armed (wl.state = .on) s.2.toTxAccounting)
        (fun _ _ => armed_atom) h.acct
    refine ⟨⟨fun hon => hacct.armed (hpower.on_of_on hon), hacct.available⟩, fun hoff' => ?_⟩
    have hwl := hpower.off_of_off hoff'
    exact (hoff hwl).trans (h.off hwl)
  | quiet hq => exact h.of_power hpower ⟨hq.allocated, hq.available, hq.watchdog⟩
  | fire hidle =>
    refine ⟨⟨fun hon hne => ?_, h.acct.available⟩, h.off⟩
    rcases hidle with hstate | hzero
    · exact absurd hon hstate
    · exact absurd hzero hne
  | take hv hfree heq =>
    obtain ⟨_, -, rfl⟩ := allocateRoleLink_some heq
    exact h.of_power hpower ⟨rfl, rfl, id⟩
  | @give v hv r => exact h.of_power hpower (.of_eq (freeRoleLink_acct wl v r))
  | addSta hv heq =>
    obtain ⟨-, rfl⟩ := wl1271AllocateSta_some heq
    exact h.of_power hpower ⟨rfl, rfl, id⟩
  | @freeSta v hv l => exact h.of_power hpower (wl1271FreeSta_blocks wl v l)

theorem Watched.reach (h : Watched wl) (hreach : LinkReach A wl wl') : Watched wl' :=
  hreach.invariant (fun _ _ => watched_atom) h

end

/-! ## Removing an interface -/

theorem Watched.removeInterface {W : Wlcore} {v : VifId} (h : Watched W.toWl1271)
    (hinit : (W.vifs v).initialized = true) (hstate : W.state ≠ .off) (env : RemoveEnv) :
    Watched (W.wl1271OpRemoveInterfaceLocked v env).toWl1271 :=
  wl1271OpRemoveInterfaceLocked_induction (A := .any) (fun _ _ h => h.of_keep id id (.of_eq rfl))
    (fun _ _ hl h => h.reach hl) (fun _ _ _ h => h.of_keep id id (.of_eq rfl)) trivial
    (offers_any _) hinit hstate h

/-! ## Boot and stop -/

/-- The number of memory blocks that the firmware reports during a boot. -/
def bootBlocks : BootAttempt → ℕ
  | .boots n | .hwInitFails (some n) => n
  | _ => 0

/-- The firmware reports its number of blocks as a `u32`. -/
def BootsU32 : Wlcore.Op → Prop
  | .addInterface _ _ _ env => ∀ a ∈ env.attempts, bootBlocks a < 2 ^ 32
  | _ => True

theorem initFwLoop_acct {as : List BootAttempt} (has : ∀ a ∈ as, bootBlocks a < 2 ^ 32)
    (wl : Wl1271) (hb : wl.txBlocksAvailable < 2 ^ 32) :
    (initFwLoop as wl).2.txAllocatedBlocks = wl.txAllocatedBlocks ∧
      (initFwLoop as wl).2.txBlocksAvailable < 2 ^ 32 := by
  refine initFwLoop_induction (I := fun wl' => wl'.txAllocatedBlocks = wl.txAllocatedBlocks ∧
    wl'.txBlocksAvailable < 2 ^ 32) wl ?_ ?_ ?_ (fun _ n hn h => ⟨h.1, ?_⟩) ⟨rfl, hb⟩
  · exact fun _ _ h => h
  · exact fun _ _ _ _ h => h
  · exact fun _ h => h
  · exact hn.elim (has _) (has _)

/-- A firmware that was just booted holds nothing. -/
theorem Watched.boot {W : Wlcore} (h : Watched W.toWl1271) {attempts : List BootAttempt}
    (hu : ∀ a ∈ attempts, bootBlocks a < 2 ^ 32) :
    Watched (W.addInterfaceBoot attempts).2.toWl1271 := by
  unfold Wlcore.addInterfaceBoot
  split
  · rename_i hoff
    have hboots : ∀ a ∈ attempts.take 3, bootBlocks a < 2 ^ 32 :=
      fun a ha => hu a (List.mem_of_mem_take ha)
    obtain ⟨halloc, hlt⟩ := initFwLoop_acct hboots W.toWl1271 h.acct.available
    have hzero : (initFwLoop (attempts.take 3) W.toWl1271).2.txAllocatedBlocks = 0 :=
      halloc.trans (h.off hoff)
    exact ⟨⟨fun _ hne => absurd hzero hne, hlt⟩, fun _ => hzero⟩
  · exact h

theorem Watched.addInterface {W : Wlcore} (h : Watched W.toWl1271) (v : VifId)
    (type : Option BssType) (dummyP2p : Bool) {env : Wlcore.AddEnv}
    (hu : ∀ a ∈ env.attempts, bootBlocks a < 2 ^ 32) :
    Watched (W.wl1271OpAddInterface v type dummyP2p env).2.toWl1271 := by
  refine wl1271OpAddInterface_induction (I := fun W => Watched W.toWl1271)
    (fun _ hk => h.reach (hk .any).reach) (fun _ => h.of_keep id id (.of_eq rfl))
    (fun W₁ W₂ hi => ?_) fun _ _ _ h₂ => h₂.of_keep id id (.of_eq rfl)
  have hstate := congrArg Power.state hi.init.power
  have hvif : Watched W₁.toWl1271 := h.of_keep (fun hs => hstate.symm.trans hs)
    (fun hs => hstate.symm.trans hs) (.of_eq hi.init.acct)
  exact (hvif.boot hu).reach (hi.role .any).reach

/-- A stop takes every block from the firmware. -/
theorem Watched.opStop {wl : Wl1271} (h : Watched wl) : Watched (Driver.wlcoreOpStopLocked wl) := by
  rcases wlcoreOpStopLocked_cases wl with ⟨hoff, p, heq⟩ | ⟨-, wl₁, p, -, heq⟩ <;> rw [heq]
  · exact ⟨⟨fun _ hne => absurd (h.off hoff) hne, h.acct.available⟩, fun _ => h.off hoff⟩
  · exact ⟨⟨fun _ hne => absurd rfl hne, Nat.two_pow_pos 32⟩, fun _ => rfl⟩

/-! ## Runs -/

/-- A watchdog that fires while the firmware holds blocks is armed again, or queues a recovery. -/
theorem txWatchdogWork_answers {W : Wlcore} (hp : W.txWatchdogPending = true)
    (hon : W.state = .on) (hheld : 0 < W.txAllocatedBlocks) :
    W.wl12xxTxWatchdogWork.txWatchdogPending = true ∨
      W.wl12xxTxWatchdogWork.recoveryWorkQueued = true := by
  have hne : W.txAllocatedBlocks ≠ 0 := by omega
  have hidle : ¬ (W.state ≠ .on ∨ W.txAllocatedBlocks = 0) := by simp [hon, hne]
  have hagain : (wl12xxRearmTxWatchdogLocked
      { W.toWl1271 with txWatchdogPending := false }).txWatchdogPending = true := by
    simp [wl12xxRearmTxWatchdogLocked, hne]
  have hrecovery : (wl12xxQueueRecoveryWork
      { W.toWl1271 with txWatchdogPending := false }).recoveryWorkQueued = true := by
    simp [wl12xxQueueRecoveryWork, Power.queueRecoveryWork, hon]
  dsimp only [Wlcore.wl12xxTxWatchdogWork]
  rw [if_neg (by simp [hp])]
  split_ifs
  · contradiction
  · exact Or.inl hagain
  · exact Or.inl hagain
  · exact Or.inl hagain
  · exact Or.inr hrecovery

theorem step_watched {W : Wlcore} {op : Wlcore.Op} (hlisted : Listing W) (hu : BootsU32 op)
    (h : Watched W.toWl1271) : Watched (W.step op).toWl1271 := by
  have hstop (W : Wlcore) (h : Watched W.toWl1271) : Watched W.wlcoreOpStopLocked.toWl1271 := by
    dsimp only [Wlcore.wlcoreOpStopLocked]
    split <;> exact h.opStop
  have hquiet (W : Wlcore) (wl : Wl1271) (h : Watched W.toWl1271)
      (hk : QuietKeep W.toWl1271 wl) : Watched wl :=
    h.of_keep (fun hs => hk.state.symm.trans hs) (fun hs => hk.state.symm.trans hs)
      (.of_eq hk.acct)
  refine step_induction (A := .any) (I := fun W => Watched W.toWl1271) h hlisted
    (fun _ hp => h.reach (step_keep W hp).reach) (fun v type dummyP2p env hop => ?_)
    (fun W v env _ h hl hv hstate => h.removeInterface (hl.initialized v hv) hstate env)
    (fun W h _ => hstop W h) hquiet fun _ _ h hk => h.reach hk.reach
  subst hop
  exact h.addInterface v type dummyP2p hu

theorem probe_watched (c : Conf) : Watched (Wlcore.probe c).toWl1271 :=
  ⟨⟨fun _ hne => absurd rfl hne, Nat.two_pow_pos 32⟩, fun _ => rfl⟩

/-- The watchdog of a running firmware that holds blocks is pending; when it fires, it is pending
again or a recovery is queued. -/
theorem txWatchdog_covers (c : Conf) (ops : List Wlcore.Op) (hops : ∀ op ∈ ops, BootsU32 op)
    (hon : (run Wlcore.step (Wlcore.probe c) ops).state = .on)
    (hheld : 0 < (run Wlcore.step (Wlcore.probe c) ops).txAllocatedBlocks) :
    (run Wlcore.step (Wlcore.probe c) ops).txWatchdogPending = true ∧
      ((run Wlcore.step (Wlcore.probe c) (ops ++ [.txWatchdogWork])).txWatchdogPending = true ∨
        (run Wlcore.step (Wlcore.probe c) (ops ++ [.txWatchdogWork])).recoveryWorkQueued =
          true) := by
  have hstep (W : Wlcore) (op : Wlcore.Op) (hop : op ∈ ops)
      (h : Listing W ∧ Watched W.toWl1271) : Listing (W.step op) ∧ Watched (W.step op).toWl1271 :=
    ⟨step_listing op h.1, step_watched h.1 (hops op hop) h.2⟩
  obtain ⟨-, hwatched⟩ := run_induction_mem hstep ⟨probe_listing c, probe_watched c⟩
  rw [run_append]
  generalize run Wlcore.step (Wlcore.probe c) ops = W at hon hheld hwatched ⊢
  have hpending := hwatched.acct.armed hon (by omega)
  exact ⟨hpending, txWatchdogWork_answers hpending hon hheld⟩

/-- A frame is sent on the STA link. -/
def oneFrameOps : List Wlcore.Op :=
  [.addInterface 0 (some .staBss) false { attempts := [.boots 10] },
    .bssInfoChanged 0 true (.join .ok) {},
    .opTx { id := 1, data := [0x88, 0x41], queueMapping := 0, vif := some 0 },
    .txWork true { iters := [{}, {}] }]

theorem txWatchdog_covers_oneFrame :
    0 < (run Wlcore.step (Wlcore.probe (chipConf .wl128x)) oneFrameOps).txAllocatedBlocks ∧
      (run Wlcore.step (Wlcore.probe (chipConf .wl128x)) oneFrameOps).txWatchdogPending = true :=
  have hboots : ∀ op ∈ oneFrameOps, BootsU32 op := by
    simp [oneFrameOps, BootsU32, bootBlocks]
  have hheld : 0 <
      (run Wlcore.step (Wlcore.probe (chipConf .wl128x)) oneFrameOps).txAllocatedBlocks := by
    decide +kernel
  ⟨hheld, (txWatchdog_covers (chipConf .wl128x) oneFrameOps hboots (by decide +kernel) hheld).1⟩

end TiWlan.Iface
