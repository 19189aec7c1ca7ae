import TiWlan.Tx.Atoms

/-!
# The frame of the data path

The atomic steps stay within `TxKeep`, and so do the functions that are chains of them: there is
one lemma `f_keep` per function `f` whose frame is needed. Removing an interface sends what is
left in the queues and removes links; it stays within `PowerKeep`.
-/

namespace TiWlan.Driver

open TiWlan.Tx

/-- Nothing is assumed of an interrupt. -/
theorem irqAssumed_any (env : IrqEnv) (wl : Wl1271) : IrqAssumed .any env wl := by
  have hevent (e : EventEnv) : EventOffers .any e := ⟨fun _ _ _ _ => trivial, fun _ => trivial⟩
  have hreads : ∀ (its : List IrqIter) (n : ℕ) (wl : Wl1271), StatusReads .any n its wl := by
    intro its
    induction its with
    | nil => exact fun n wl => .nil n wl
    | cons it its ih => exact fun n wl => .cons (fun _ _ => trivial) (fun n => ih n _) n
  exact ⟨fun it _ => ⟨fun _ _ _ => trivial, fun _ _ _ _ => trivial, hevent it.mboxA,
    hevent it.mboxB⟩, hreads env.iters _ wl⟩

section
variable (wl : Wl1271)

theorem wl1271SkbDequeue_keep : TxKeep wl (wl1271SkbDequeue wl).2 :=
  (wl1271SkbDequeue_reach (P := .any) wl).keep

theorem prepareWepKey_keep (env : PrepEnv) (v : Option VifId) (skb : Skb) :
    TxKeep wl (prepareWepKey wl env v skb).2 :=
  Reach.keep (P := .any) (s := (none, wl)) (prepareWepKey_reach wl env v skb)

theorem wl1271PrepareTxFrame_keep (env : PrepEnv) (v : Option VifId) (skb : Skb) (off : ℕ)
    (h : Hlid) : TxKeep wl (wl1271PrepareTxFrame wl env v skb off h).2 := by
  rcases wl1271PrepareTxFrame_reach .any wl env v skb off h with
    ⟨_, _, heq, hr⟩ | ⟨_, _, heq, hr, -⟩ <;> rw [heq] <;> exact hr.keep

theorem wlcoreHwPrePktSend_keep (off lastLen : ℕ) :
    TxKeep wl (wlcoreHwPrePktSend wl off lastLen).2 :=
  Reach.keep (P := .any) (s := (none, wl)) (wlcoreHwPrePktSend_reach wl off lastLen)

theorem txWorkIter_keep (it : TxIter) (l : TxLocals) : TxKeep wl (txWorkIter wl it l).2.1 :=
  (txWorkIter_reach (P := .any) (fun _ _ => trivial) wl l).keep

theorem txWorkLoop_keep (its : List TxIter) (wl : Wl1271) (l : TxLocals) :
    TxKeep wl (txWorkLoop its wl l).2.1 :=
  (txWorkLoop_reach (P := .any) (fun _ _ _ _ => trivial) wl l).keep

theorem txWorkOutAck_keep (env : TxWorkEnv) (l : TxLocals) :
    TxKeep wl (txWorkOutAck wl env l).2 :=
  (txWorkOutAck_reach (P := .any) wl env l).keep

theorem wlcoreTxWorkLocked_keep (env : TxWorkEnv) : TxKeep wl (wlcoreTxWorkLocked wl env).2 :=
  (wlcoreTxWorkLocked_reach (P := .any) (fun _ _ _ _ => trivial) wl).keep

theorem wl1271TxCompletePacket_keep (r : TxResult) : TxKeep wl (wl1271TxCompletePacket wl r) :=
  (wl1271TxCompletePacket_reach (P := .any) wl r).keep

theorem wl18xxTxCompletePacket_keep (b : ℕ) : TxKeep wl (wl18xxTxCompletePacket wl b) :=
  (wl18xxTxCompletePacket_reach (P := .any) wl b).keep

theorem wlcoreHwTxImmediateCompl_keep (it : IrqIter) (wl : Wl1271) :
    TxKeep wl (wlcoreHwTxImmediateCompl it wl) :=
  (wlcoreHwTxImmediateCompl_reach (P := .any) it wl).keep

theorem wlcoreHwTxDelayedCompl_keep (it : IrqIter) (wl : Wl1271) :
    TxKeep wl (wlcoreHwTxDelayedCompl it wl).2 :=
  (wlcoreHwTxDelayedCompl_reach (P := .any) it wl).keep

theorem wl12xxIrqUpdateLinksStatus_keep (st : FwStatus) (wl : Wl1271) (v : VifId) :
    TxKeep wl (wl12xxIrqUpdateLinksStatus st wl v) :=
  (wl12xxIrqUpdateLinksStatus_reach (P := .any) st wl v).keep

theorem wlcoreFwStatus_keep (st : FwStatus) : TxKeep wl (wlcoreFwStatus wl st) :=
  (wlcoreFwStatus_reach (P := .any) trivial).keep

theorem wlcoreIrqLocked_keep (env : IrqEnv) : TxKeep wl (wlcoreIrqLocked wl env).2 :=
  (wlcoreIrqLocked_reach (irqAssumed_any env wl)).keep

end

/-! ## Removing an interface -/

theorem wl12xxCmdRoleStopDev_powerKeep (wl : Wl1271) (v : VifId) (env : RoleStopEnv) :
    PowerKeep wl (wl12xxCmdRoleStopDev wl v env).2 := by
  unfold wl12xxCmdRoleStopDev
  split_ifs
  · exact .refl _
  · exact (cmdEffect_keep _ _).powerKeep
  · split
    · exact freeRoleLink_powerKeep ..
    · exact (TxKeep.queueRecovery wl).powerKeep.trans (freeRoleLink_powerKeep ..)
    · exact (TxKeep.queueRecovery wl).powerKeep

theorem wl12xxStopDev_powerKeep (wl : Wl1271) (v : VifId) (env : StopDevEnv) :
    PowerKeep wl (wl12xxStopDev wl v env) := by
  have htx := (wlcoreTxWorkLocked_keep wl env.tx).powerKeep
  unfold wl12xxStopDev
  split
  · rename_i wl₁ heq
    rw [heq] at htx
    refine htx.trans ?_
    have hstop := wl12xxCmdRoleStopDev_powerKeep wl₁ v env.roleStop
    split_ifs
    · exact (cmdEffect_keep _ _).powerKeep
    · split <;> rename_i hr <;> rw [hr] at hstop
      · exact hstop
      · split
        · exact hstop
        · exact hstop.trans (cmdEffect_keep _ _).powerKeep
  · rename_i heq
    rwa [heq] at htx

theorem removeDisableRoles_powerKeep (wl : Wl1271) (v : VifId) (env : RemoveEnv) :
    PowerKeep wl (removeDisableRoles wl v env) := by
  dsimp only [removeDisableRoles]
  split_ifs
  · exact .refl _
  · exact (TxKeep.queueRecovery wl).powerKeep
  · exact (wl12xxStopDev_powerKeep wl v _).trans (cmdEffect_keep _ _).powerKeep
  · exact (cmdEffect_keep _ _).powerKeep

theorem wl1271OpRemoveInterfaceLocked_powerKeep (wl : Wl1271) (v : VifId) (env : RemoveEnv) :
    PowerKeep wl (wl1271OpRemoveInterfaceLocked wl v env) := by
  dsimp only [wl1271OpRemoveInterfaceLocked]
  split
  · exact .refl _
  · split
    · exact .of_parts rfl rfl
    · refine PowerKeep.trans ?_ ((removeDisableRoles_powerKeep _ v env).trans
        ((removeDeinit_powerKeep _ v).trans (removeSleepAuth_keep _ _ env).powerKeep))
      exact .of_parts rfl rfl

end TiWlan.Driver
