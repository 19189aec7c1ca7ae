import TiWlan.Driver.Wow
import TiWlan.Lib.Run

/-!
# The driver's copy of the firmware's filters

`wl1271_rx_filter_enable` (`wlcore/rx.c`, lines 301–324) updates `rx_filter_enabled` with each
successful command and drops the requests that look redundant. No other function touches the
array: `wlcore_op_stop_locked` (`wlcore/main.c`, lines 1860–1954) resets the rest of the state
that belongs to the firmware, but not this. A firmware that is booted after a recovery has no
filter, and the copy still says what the last firmware had.

* `keeps_rxFilterEnable`, `keeps_configureWowlan`: commands keep the copy right;
* `step_mirrors`: so does every operation that does not boot a firmware with filters marked;
* `rxFilters_mirrored`: the result for whole runs;
* `rxFilters_stale_after_recovery`: a recovery after which the copy is wrong.
-/

namespace TiWlan.Power

open TiWlan.Driver TiWlan.Lib
open Function (update)

variable (wow : Option Wowlan) (env : WowDev.WowEnv)

/-- The driver's copy is right, and every request was judged by a right copy. -/
structure Mirrors (d : WowDev) : Prop where
  enabled : ∀ f, d.fwFilters = some f → ∀ i, d.rxFilterEnabled i = (f i).isSome
  requests : ∀ r ∈ d.requests, ∀ has, r.fwHas = some has → (r.sent = true ↔ has ≠ r.enable)

section
variable {d : WowDev}

/-- What the rest of the driver does to its own state does not matter. -/
theorem Mirrors.onWl1271 (h : Mirrors d) (f : Wl1271 → Wl1271) : Mirrors (d.onWl1271 f) :=
  ⟨h.enabled, h.requests⟩

theorem keeps_command (ret : CmdRet) : Keeps Mirrors (WowDev.command ret) := by
  cases ret with
  | ok => exact .pure ()
  | noMem => exact .throw _
  | failed e => exact .bind (.modify fun d h => h.onWl1271 _) fun _ => .throw _

theorem keeps_elpWakeup (ok : Bool) : Keeps Mirrors (WowDev.elpWakeup ok) := keeps_command _

/-- A request is sent exactly if the firmware does not have what it asks for. -/
theorem Mirrors.noteRequest (h : Mirrors d) (index : FilterIdx) {enable sent : Bool}
    (hsent : sent = true ↔ d.rxFilterEnabled index ≠ enable) :
    Mirrors (d.noteRequest index enable sent) := by
  refine ⟨h.enabled, ?_⟩
  intro r hr has hhas
  rcases List.mem_cons.mp hr with rfl | hr
  · obtain ⟨f, hf, rfl⟩ := Option.map_eq_some_iff.mp hhas
    rw [← h.enabled f hf]
    exact hsent
  · exact h.requests r hr has hhas

/-- A command that succeeds changes the firmware and the copy alike. -/
theorem Mirrors.set (h : Mirrors d) (index : FilterIdx) (filter : Option RxFilter) :
    Mirrors { d.setFwFilter index filter with
      rxFilterEnabled := update d.rxFilterEnabled index filter.isSome } := by
  refine ⟨?_, h.requests⟩
  intro f hf i
  obtain ⟨g, hg, rfl⟩ := Option.map_eq_some_iff.mp hf
  by_cases hi : i = index
  · subst hi
    simp
  · simp [hi, h.enabled g hg i]

theorem keeps_rxFilterEnable (index : FilterIdx) (filter : Option RxFilter) (ret : CmdRet) :
    Keeps Mirrors (WowDev.wl1271RxFilterEnable index filter ret) := by
  refine .getBind fun d h => ?_
  split
  · rename_i heq
    exact h.noteRequest index (by simp [heq])
  · rename_i hne
    have hnote : Mirrors (d.noteRequest index filter.isSome true) :=
      h.noteRequest index (by simp [hne])
    cases ret with
    | ok => exact hnote.set index filter
    | noMem => exact hnote
    | failed e => exact hnote.onWl1271 _

theorem keeps_clearAll (rets : FilterIdx → CmdRet) :
    Keeps Mirrors (WowDev.wl1271RxFilterClearAll rets) := by
  refine .forM (fun i => .getBind fun d h => ?_) _
  split
  · exact keeps_rxFilterEnable i none _ d h
  · exact h

theorem keeps_clearFilters : Keeps Mirrors (WowDev.clearFilters env) :=
  .bind (keeps_command _) fun _ => keeps_clearAll _

theorem keeps_setPattern (p : WowPattern × ℕ) : Keeps Mirrors (WowDev.setPattern env p) := by
  unfold WowDev.setPattern
  dsimp only
  split
  · exact .throw _
  · exact keeps_rxFilterEnable _ _ _

theorem keeps_configureWowlan : Keeps Mirrors (WowDev.wl1271ConfigureWowlan wow env) := by
  unfold WowDev.wl1271ConfigureWowlan
  split
  · exact keeps_clearFilters env
  split_ifs
  · exact keeps_clearFilters env
  · exact .throw _
  split
  · exact .throw _
  · refine .bind (keeps_clearFilters env) fun _ => ?_
    exact .bind (.forM (keeps_setPattern env) _) fun _ => keeps_command _

/-! ## Suspend and resume -/

theorem keeps_configureSuspend (env : VifId → WowDev.VifSuspendEnv) (v : VifId) :
    Keeps Mirrors (WowDev.wl1271ConfigureSuspend wow env v) := by
  have hsta : Keeps Mirrors (WowDev.wl1271ConfigureSuspendSta v wow (env v)) := by
    refine .getBind fun d h => ?_
    split
    · refine Keeps.bind (keeps_elpWakeup _) (fun _ => ?_) d h
      refine .bind (keeps_configureWowlan wow _) fun _ => ?_
      split
      · exact keeps_command _
      · exact .pure _
    · exact h
  have hap : Keeps Mirrors (WowDev.wl1271ConfigureSuspendAp v (env v)) := by
    refine .getBind fun d h => ?_
    split
    · exact Keeps.bind (keeps_elpWakeup _) (fun _ => keeps_command _) d h
    · exact h
  refine .getBind fun d h => ?_
  split
  · split
    · exact hsta d h
    · exact hap d h
    · exact h
  · exact h

theorem keeps_configureResume (env : VifId → WowDev.VifSuspendEnv) (v : VifId) :
    Keeps Mirrors (WowDev.wl1271ConfigureResume env v) := by
  refine .getBind fun d h => ?_
  split
  · split
    · split
      · refine Keeps.ignore (.bind (keeps_elpWakeup _) fun _ => ?_) d h
        refine .bind (keeps_configureWowlan none _).ignore fun _ => ?_
        split
        · exact keeps_command _
        · exact .pure _
      · exact h
    · exact Keeps.ignore (.bind (keeps_elpWakeup _) fun _ => keeps_command _) d h
    · exact h
  · exact h

theorem Mirrors.suspend (h : Mirrors d) (wow : Option Wowlan) (env : WowDev.WowSuspendEnv) :
    Mirrors (d.wl1271OpSuspend wow env) := by
  unfold WowDev.wl1271OpSuspend
  split
  · exact h
  · have hflush := (h.onWl1271 fun wl => wl1271TxFlush wl env.polls env.flushTimedOut).onWl1271
      fun wl => { wl with wowEnabled := true }
    dsimp only
    generalize (d.onWl1271 fun wl => wl1271TxFlush wl env.polls env.flushTimedOut).onWl1271
      (fun wl => { wl with wowEnabled := true }) = d' at hflush ⊢
    have hvifs := Keeps.forM (keeps_configureSuspend wow env.vif) d'.wlvifList d' hflush
    generalize Fallible.exec _ d' = r at hvifs ⊢
    obtain ⟨_ | _, d''⟩ := r
    · exact hvifs
    · exact Mirrors.onWl1271 hvifs _

theorem Mirrors.resumeConfigure (h : Mirrors d) (pendingRecovery : Bool)
    (env : WowDev.WowResumeEnv) : Mirrors (d.resumeConfigure pendingRecovery env) := by
  refine Mirrors.onWl1271 ?_ _
  split
  · exact h
  · exact Keeps.forM (keeps_configureResume env.vif) d.wlvifList d h

theorem Mirrors.resume (h : Mirrors d) (env : WowDev.WowResumeEnv) :
    Mirrors (d.wl1271OpResume env) := by
  unfold WowDev.wl1271OpResume
  split
  · dsimp only
    split
    · exact (h.onWl1271 _).resumeConfigure _ env
    · exact h.onWl1271 _
  · exact (h.onWl1271 _).resumeConfigure _ env

/-! ## Runs -/

/-- Without a firmware there is nothing to be wrong about, a fresh one is found clean, and a
running one is left alone. -/
theorem Mirrors.driverStep (h : Mirrors d) {op : Wlcore.Op} (hclean : d.BootsClean (.driver op)) :
    Mirrors (d.driverStep op) := by
  refine ⟨?_, h.requests⟩
  intro f hf i
  dsimp only [WowDev.driverStep] at hf ⊢
  split_ifs at hf with hoff hboot
  · obtain rfl := Option.some.inj hf
    exact hclean hboot hoff i
  · exact h.enabled f hf i

theorem step_mirrors (h : Mirrors d) {op : WowDev.Op} (hclean : d.BootsClean op) :
    Mirrors (d.step op) := by
  cases op with
  | driver op => exact h.driverStep hclean
  | configureWowlan wow env => exact keeps_configureWowlan wow env d h
  | rxFilterEnable index filter ret => exact keeps_rxFilterEnable index filter ret d h
  | rxFilterClearAll rets => exact keeps_clearAll rets d h
  | suspend wow env => exact h.suspend wow env
  | resume env => exact h.resume env

theorem mirrors_probe (c : Conf) : Mirrors (WowDev.probe c) := by
  constructor
  · intro f hf
    cases hf
  · intro r hr
    cases hr

end

/-- In every run in which a firmware is booted only when no filter is marked as enabled:
`rx_filter_enabled` says which filters the firmware has, a request is sent exactly if the
firmware does not have what it asks for, so that a disable is sent only for a filter the firmware
has and an enable is dropped only for one it has. -/
theorem rxFilters_mirrored (c : Conf) {ops : List WowDev.Op}
    (hclean : Along WowDev.step WowDev.BootsClean (WowDev.probe c) ops) :
    let d := run WowDev.step (WowDev.probe c) ops
    (∀ f, d.fwFilters = some f → ∀ i, d.rxFilterEnabled i = true ↔ (f i).isSome = true) ∧
      ∀ r ∈ d.requests, ∀ has, r.fwHas = some has →
        (r.enable = false → r.sent = true → has = true) ∧
          (r.enable = true → r.sent = false → has = true) := by
  intro d
  have hstep (d : WowDev) (op : WowDev.Op) (h : Mirrors d) (hop : d.BootsClean op) :
      Mirrors (d.step op) := step_mirrors h hop
  have h : Mirrors d := Along.induction hstep (mirrors_probe c) hclean
  refine ⟨fun f hf i => by rw [h.enabled f hf i], ?_⟩
  intro r hr has hhas
  have hsent := h.requests r hr has hhas
  constructor
  · intro hdisable hs
    simpa [hdisable] using hsent.mp hs
  · intro henable hs
    simpa [henable, hs] using hsent

/-! ## A recovery -/

instance (d : WowDev) (op : WowDev.Op) : Decidable (d.BootsClean op) := by
  cases op <;> dsimp only [WowDev.BootsClean] <;> infer_instance

/-- The first interface is added, and the firmware booted for it. -/
def addSta : WowDev.Op :=
  .driver (.addInterface 0 (some .staBss) false { attempts := [.boots 100] })

/-- A filter for the first byte of the Ethernet header. -/
def oneByteFilter : RxFilter := ⟨[⟨0, 1, true, [0x33]⟩]⟩

/-- The firmware has a filter and is restarted. -/
def recoverWithFilter (before : List WowDev.Op) : List WowDev.Op :=
  [addSta, .rxFilterEnable 0 (some oneByteFilter) .ok] ++ before ++
    [.driver .queueRecovery, .driver (.recoveryWork fun _ => {}), addSta]

/-- The filter is disabled before the recovery. -/
def recoverCleared : List WowDev.Op := recoverWithFilter [.rxFilterClearAll fun _ => .ok]

theorem rxFilters_mirrored_cleared :
    ∃ f, (run WowDev.step (WowDev.probe (chipConf .wl18xx)) recoverCleared).fwFilters = some f ∧
      ∀ i, (run WowDev.step (WowDev.probe (chipConf .wl18xx)) recoverCleared).rxFilterEnabled i =
        true ↔ (f i).isSome = true := by
  have hclean : Along WowDev.step WowDev.BootsClean (WowDev.probe (chipConf .wl18xx))
      recoverCleared := by decide +kernel
  have hruns : (run WowDev.step (WowDev.probe (chipConf .wl18xx))
      recoverCleared).fwFilters.isSome = true := by decide +kernel
  obtain ⟨f, hf⟩ := Option.isSome_iff_exists.mp hruns
  exact ⟨f, hf, (rxFilters_mirrored (chipConf .wl18xx) hclean).1 f hf⟩

/-- After the recovery the copy has a filter that the firmware lacks, and a request to enable it
is dropped. -/
theorem rxFilters_stale_after_recovery :
    let d := run WowDev.step (WowDev.probe (chipConf .wl18xx))
      (recoverWithFilter [] ++ [.rxFilterEnable 0 (some oneByteFilter) .ok])
    d.fwFilters.map (fun f => f 0) = some none ∧ d.rxFilterEnabled 0 = true ∧
      d.requests.head? = some ⟨0, true, false, some false⟩ := by
  decide +kernel

end TiWlan.Power
