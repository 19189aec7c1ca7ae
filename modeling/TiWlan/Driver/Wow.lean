import TiWlan.Driver.Wlcore
import TiWlan.Lib.Fallible

/-!
# Wake on WLAN

`wl1271_validate_wowlan_pattern`, `wl1271_convert_wowlan_pattern_to_rx_filter` and
`wl1271_configure_wowlan` (`wlcore/main.c`, lines 1334–1609), `wl1271_rx_filter_enable` and
`wl1271_rx_filter_clear_all` (`wlcore/rx.c`, lines 301–340), and their callers in suspend and
resume (`wlcore/main.c`, lines 1611–1839).

The driver keeps in `rx_filter_enabled` which filters the firmware has. What the firmware has is
added to the model: a successful command changes it, a command that fails does not, and a firmware
that has just been booted has no filter. The contents of `ACX_SET_RX_DATA_FILTER` are the fields
of the filter; `FILTER_SIGNAL` is their only action and left out.
-/

namespace TiWlan.Driver

open TiWlan.Lib
open Function (update)

/-! ## Patterns and filters -/

/-- `struct cfg80211_wowlan_trig_pkt_pattern`; the mask has a bit for each byte. -/
structure WowPattern where
  mask : Option (ℕ → Bool)
  pattern : List Byte

/-- `struct cfg80211_wowlan`. -/
structure Wowlan where
  any : Bool := false
  patterns : List WowPattern := []

/-- `struct wl12xx_rx_filter_field`. -/
structure RxFilterField where
  offset : ℕ
  len : ℕ
  /-- `WL1271_RX_FILTER_FLAG_ETHERNET_HEADER`, otherwise `WL1271_RX_FILTER_FLAG_IP_HEADER` -/
  ethernetHeader : Bool
  pattern : List Byte
  deriving DecidableEq, Repr

/-- `struct wl12xx_rx_filter`. -/
structure RxFilter where
  fields : List RxFilterField
  deriving DecidableEq, Repr

/-- The errors of these functions. -/
inductive WowErr
  | errno (e : Errno)
  | e2big
  deriving DecidableEq, Repr

/-- `WL1271_RX_FILTER_MAX_FIELDS`. -/
def rxFilterMaxFields : ℕ := 8

/-- `WL1271_RX_FILTER_MAX_FIELDS_SIZE`. -/
def rxFilterMaxFieldsSize : ℕ := 95

/-- `WL1271_RX_FILTER_ETH_HEADER_SIZE`. -/
def rxFilterEthHeaderSize : ℕ := 14

/-- `RX_FILTER_FIELD_OVERHEAD`. -/
def rxFilterFieldOverhead : ℕ := 4

/-- The local variables of `wl1271_validate_wowlan_pattern`. The number of fields and the length
of a field are bounded by `pattern_len`; `fields_size` can be larger and wraps as an `int`. -/
structure ValidateVars where
  numFields : ℕ := 0
  inField : Bool := false
  fieldsSize : ℤ := 0
  patternLen : ℕ := 0

/-- The end of a field. -/
def ValidateVars.endField (x : ValidateVars) : ValidateVars :=
  { x with
    numFields := x.numFields + 1
    fieldsSize := s32 (x.fieldsSize + (x.patternLen + rxFilterFieldOverhead)) }

/-- The body of the loop of `wl1271_validate_wowlan_pattern` (main.c:1354–1380). -/
def validateStep (mask : ℕ → Bool) (x : ValidateVars) (i : ℕ) : ValidateVars :=
  if mask i then
    if !x.inField then { x with inField := true, patternLen := 1 }
    else if i = rxFilterEthHeaderSize then { x.endField with patternLen := 1 }
    else { x with patternLen := x.patternLen + 1 }
  else if x.inField then { x.endField with inField := false }
  else x

/-- `wl1271_validate_wowlan_pattern` (main.c:1334). -/
def wl1271ValidateWowlanPattern (p : WowPattern) : Except WowErr Unit :=
  match p.mask with
  | none => .error (.errno .einval)
  | some mask =>
    let x := (List.range p.pattern.length).foldl (validateStep mask) {}
    let x := if x.inField then x.endField else x
    if rxFilterMaxFields < x.numFields then .error (.errno .einval)
    else if rxFilterMaxFieldsSize < x.fieldsSize then .error .e2big
    else .ok ()

/-- The inner loop of `wl1271_convert_wowlan_pattern_to_rx_filter` (main.c:1506–1513): the end of
the field that starts at `i`. -/
def fieldEnd (mask : ℕ → Bool) (patternLen i j : ℕ) : ℕ :=
  if h : j < patternLen then
    if !mask j then j
    else if i < rxFilterEthHeaderSize ∧ rxFilterEthHeaderSize ≤ j then j
    else fieldEnd mask patternLen i (j + 1)
  else j
termination_by patternLen - j

theorem le_fieldEnd (mask : ℕ → Bool) (patternLen i j : ℕ) :
    j ≤ fieldEnd mask patternLen i j := by
  fun_induction fieldEnd mask patternLen i j with
  | case1 | case2 | case4 => exact le_rfl
  | case3 j _ _ _ ih => omega

theorem lt_fieldEnd {mask : ℕ → Bool} {patternLen i : ℕ} (hi : i < patternLen)
    (hmask : mask i = true) : i < fieldEnd mask patternLen i i := by
  have hle := le_fieldEnd mask patternLen i (i + 1)
  rw [fieldEnd, dif_pos hi, if_neg (by simp [hmask]), if_neg (by omega)]
  omega

/-- The allocations of a conversion. -/
structure ConvertEnv where
  filterOk : Bool := true
  fieldOk : ℕ → Bool := fun _ => true

/-- The field that `wl1271_rx_filter_alloc_field` adds for bytes `i` to `j` (main.c:1515–1528). -/
def rxFilterField (pattern : List Byte) (i j : ℕ) : RxFilterField :=
  let len := u8 (j - i : ℤ)
  { offset := if i < rxFilterEthHeaderSize then i else u16 (i - rxFilterEthHeaderSize : ℤ)
    len := len
    ethernetHeader := decide (i < rxFilterEthHeaderSize)
    pattern := (pattern.drop i).take len }

/-- The loop of `wl1271_convert_wowlan_pattern_to_rx_filter` (main.c:1499–1533). -/
def convertLoop (mask : ℕ → Bool) (pattern : List Byte) (env : ConvertEnv) (i : ℕ)
    (fields : List RxFilterField) : Except WowErr (List RxFilterField) :=
  if hi : i < pattern.length then
    if hmask : mask i = true then
      let j := fieldEnd mask pattern.length i i
      if fields.length = rxFilterMaxFields then .error (.errno .einval)
      else if !env.fieldOk fields.length then .error (.errno .enomem)
      else convertLoop mask pattern env j (fields ++ [rxFilterField pattern i j])
    else convertLoop mask pattern env (i + 1) fields
  else .ok fields
termination_by pattern.length - i
decreasing_by
  · have := lt_fieldEnd hi hmask
    omega
  · omega

/-- `wl1271_convert_wowlan_pattern_to_rx_filter` (main.c:1482), for a pattern with a mask. -/
def wl1271ConvertWowlanPatternToRxFilter (p : WowPattern) (env : ConvertEnv) :
    Except WowErr RxFilter :=
  if !env.filterOk then .error (.errno .enomem)
  else (convertLoop (p.mask.getD fun _ => false) p.pattern env 0 []).map RxFilter.mk

/-- `wl1271_rx_filter_get_fields_size` (main.c:1447). -/
def wl1271RxFilterGetFieldsSize (filter : RxFilter) : ℕ :=
  (filter.fields.map fun f => f.len + rxFilterFieldOverhead).sum

/-- `flags` of a field: `WL1271_RX_FILTER_FLAG_ETHERNET_HEADER` or
`WL1271_RX_FILTER_FLAG_IP_HEADER`. -/
def RxFilterField.flags (f : RxFilterField) : Byte := if f.ethernetHeader then 2 else 0

/-- `wl1271_rx_filter_flatten_fields` (main.c:1459): the bytes it writes to the buffer, for each
field its header and then `len` bytes of its pattern. -/
def wl1271RxFilterFlattenFields (filter : RxFilter) : List Byte :=
  filter.fields.flatMap fun f =>
    [byteOf f.offset 0, byteOf f.offset 1, byteOf f.len 0, f.flags] ++ f.pattern.take f.len

/-! ## The device -/

/-- `WL1271_MAX_RX_FILTERS` slots. -/
abbrev FilterIdx := Fin 5

/-- A call of `wl1271_rx_filter_enable`, against what the firmware has at that time. -/
structure FilterRequest where
  index : FilterIdx
  enable : Bool
  /-- the command was sent -/
  sent : Bool
  /-- the firmware has the filter, if there is one -/
  fwHas : Option Bool
  deriving DecidableEq, Repr

/-- The filters. -/
structure RxFilters where
  rxFilterEnabled : FilterIdx → Bool
  /-- the filters of the firmware, if there is one -/
  fwFilters : Option (FilterIdx → Option RxFilter)
  requests : List FilterRequest

/-- The device with its filters. -/
structure WowDev extends Wlcore, RxFilters

/-- Functions of the driver that return 0 or an error. -/
abbrev WowM := Fallible WowDev WowErr

namespace WowDev

def probe (c : Conf) : WowDev :=
  { toWlcore := Wlcore.probe c
    rxFilterEnabled := fun _ => false, fwFilters := none, requests := [] }

/-- A change of the rest of the driver. -/
def onWl1271 (d : WowDev) (f : Wl1271 → Wl1271) : WowDev :=
  { d with toWlcore := d.toWlcore.onDriver f }

/-- A command that the filters do not depend on. -/
def command : CmdRet → WowM Unit
  | .ok => pure ()
  | .noMem => throw (.errno .enomem)
  | .failed e => do
    modify fun d => d.onWl1271 wl12xxQueueRecoveryWork
    throw (.errno e)

/-- `wl1271_ps_elp_wakeup`. -/
def elpWakeup (ok : Bool) : WowM Unit := command (if ok then .ok else .failed .eio)

/-- The firmware takes over a filter, or drops one. -/
def setFwFilter (d : WowDev) (index : FilterIdx) (filter : Option RxFilter) : WowDev :=
  { d with fwFilters := d.fwFilters.map fun f => update f index filter }

/-- `wl1271_acx_set_rx_filter` (acx.c:1794); a filter is disabled if none is given. -/
def wl1271AcxSetRxFilter (index : FilterIdx) (filter : Option RxFilter) (ret : CmdRet) :
    WowM Unit := do
  command ret
  modify fun d => d.setFwFilter index filter

/-- Note a request. -/
def noteRequest (d : WowDev) (index : FilterIdx) (enable sent : Bool) : WowDev :=
  { d with
    requests := ⟨index, enable, sent, d.fwFilters.map fun f => (f index).isSome⟩ :: d.requests }

/-- `wl1271_rx_filter_enable` (rx.c:301). -/
def wl1271RxFilterEnable (index : FilterIdx) (filter : Option RxFilter) (ret : CmdRet) :
    WowM Unit := do
  let d ← get
  if d.rxFilterEnabled index = filter.isSome then
    modify fun d => d.noteRequest index filter.isSome false
  else
    modify fun d => d.noteRequest index filter.isSome true
    wl1271AcxSetRxFilter index filter ret
    modify fun d => { d with rxFilterEnabled := update d.rxFilterEnabled index filter.isSome }

/-- `wl1271_rx_filter_clear_all` (rx.c:326). -/
def wl1271RxFilterClearAll (rets : FilterIdx → CmdRet) : WowM Unit :=
  (List.finRange 5).forM fun i => do
    let d ← get
    if d.rxFilterEnabled i then wl1271RxFilterEnable i none (rets i)

/-- The outcomes of the commands and allocations behind `wl1271_configure_wowlan`. -/
structure WowEnv where
  /-- `wl1271_acx_default_rx_filter_enable(wl, 0, FILTER_SIGNAL)` -/
  signalAll : CmdRet := .ok
  disable : FilterIdx → CmdRet := fun _ => .ok
  convert : FilterIdx → ConvertEnv := fun _ => {}
  enable : FilterIdx → CmdRet := fun _ => .ok
  /-- `wl1271_acx_default_rx_filter_enable(wl, 1, FILTER_DROP)` -/
  dropOthers : CmdRet := .ok

/-- The common part of `wl1271_configure_wowlan`: no filter is left (main.c:1552–1559,
1576–1582). -/
def clearFilters (env : WowEnv) : WowM Unit := do
  command env.signalAll
  wl1271RxFilterClearAll env.disable

/-- Translate one pattern into a filter (main.c:1586–1603). -/
def setPattern (env : WowEnv) (p : WowPattern × ℕ) : WowM Unit :=
  let i : FilterIdx := Fin.ofNat 5 p.2
  match wl1271ConvertWowlanPatternToRxFilter p.1 (env.convert i) with
  | .error e => throw e
  | .ok filter => wl1271RxFilterEnable i (some filter) (env.enable i)

/-- `wl1271_configure_wowlan` (main.c:1546). -/
def wl1271ConfigureWowlan (wow : Option Wowlan) (env : WowEnv) : WowM Unit :=
  match wow with
  | none => clearFilters env
  | some wow =>
    if wow.any ∨ wow.patterns.length = 0 then clearFilters env
    else if 5 < wow.patterns.length then throw (.errno .einval)
    else
      match wow.patterns.forM wl1271ValidateWowlanPattern with
      | .error e => throw e
      | .ok () => do
        clearFilters env
        wow.patterns.zipIdx.forM (setPattern env)
        command env.dropOthers

/-! ## Suspend and resume -/

/-- The outcomes of the commands for one vif. -/
structure VifSuspendEnv where
  elpOk : Bool := true
  wow : WowEnv := {}
  /-- the wake-up conditions for the suspend are those in use -/
  sameWakeUp : Bool := true
  /-- `wl1271_acx_wake_up_conditions` -/
  wakeUpConditions : CmdRet := .ok
  /-- `wl1271_acx_beacon_filter_opt` -/
  beaconFilter : CmdRet := .ok

/-- `wl1271_configure_suspend_sta` (main.c:1611). -/
def wl1271ConfigureSuspendSta (v : VifId) (wow : Option Wowlan) (env : VifSuspendEnv) :
    WowM Unit := do
  let d ← get
  if (d.vifs v).staAssociated then
    elpWakeup env.elpOk
    wl1271ConfigureWowlan wow env.wow
    if !env.sameWakeUp then command env.wakeUpConditions

/-- `wl1271_configure_suspend_ap` (main.c:1649). -/
def wl1271ConfigureSuspendAp (v : VifId) (env : VifSuspendEnv) : WowM Unit := do
  let d ← get
  if (d.vifs v).apStarted then
    elpWakeup env.elpOk
    command env.beaconFilter

/-- `wl1271_configure_suspend` (main.c:1670), for vifs other than dummies. -/
def wl1271ConfigureSuspend (wow : Option Wowlan) (env : VifId → VifSuspendEnv) (v : VifId) :
    WowM Unit := do
  let d ← get
  if !(d.vifs v).dummyP2p then
    match (d.vifs v).bssType with
    | .staBss => wl1271ConfigureSuspendSta v wow (env v)
    | .apBss => wl1271ConfigureSuspendAp v (env v)
    | _ => pure ()

/-- `wl1271_configure_resume` (main.c:1681), for vifs other than dummies; errors are not
returned. -/
def wl1271ConfigureResume (env : VifId → VifSuspendEnv) (v : VifId) : WowM Unit := do
  let d ← get
  if !(d.vifs v).dummyP2p then
    match (d.vifs v).bssType with
    | .staBss =>
      if (d.vifs v).staAssociated then
        .ignore do
          elpWakeup (env v).elpOk
          .ignore (wl1271ConfigureWowlan none (env v).wow)
          if !(env v).sameWakeUp then command (env v).wakeUpConditions
    | .apBss =>
      .ignore do
        elpWakeup (env v).elpOk
        command (env v).beaconFilter
    | _ => pure ()

/-- What the environment decides during a suspend. -/
structure WowSuspendEnv where
  polls : List (Bool × TxWorkEnv) := []
  flushTimedOut : Bool := false
  vif : VifId → VifSuspendEnv := fun _ => {}
  elpOk : Bool := true
  tx : TxWorkEnv := { iters := [] }

/-- `wl1271_op_suspend` (main.c:1721). -/
def wl1271OpSuspend (d : WowDev) (wow : Option Wowlan) (env : WowSuspendEnv) : WowDev :=
  if d.recoveryInProgress then d
  else
    let d := d.onWl1271 fun wl => wl1271TxFlush wl env.polls env.flushTimedOut
    let d := d.onWl1271 fun wl => { wl with wowEnabled := true }
    match (d.wlvifList.forM (wl1271ConfigureSuspend wow env.vif)).exec d with
    | (.error _, d) => d
    | (.ok (), d) =>
      d.onWl1271 fun wl => runTxWork (suspendEnter wl .ok) env.elpOk env.tx

/-- What the environment decides during a resume. -/
structure WowResumeEnv where
  irq : IrqEnv := { iters := [] }
  vif : VifId → VifSuspendEnv := fun _ => {}

/-- The end of `wl1271_op_resume` (main.c:1822–1838). -/
def resumeConfigure (d : WowDev) (pendingRecovery : Bool) (env : WowResumeEnv) : WowDev :=
  let d :=
    if pendingRecovery then d
    else ((d.wlvifList.forM (wl1271ConfigureResume env.vif)).exec d).2
  d.onWl1271 fun wl => resumeFinish wl pendingRecovery .ok

/-- `wl1271_op_resume` (main.c:1779); the postponed interrupt may be still at work. -/
def wl1271OpResume (d : WowDev) (env : WowResumeEnv) : WowDev :=
  if d.pendingWork then
    let r := resumeIrqWork (resumeWake d.toWl1271) env.irq
    let d' := d.onWl1271 fun _ => r.2
    if r.1 then d'.resumeConfigure d.recoveryInProgress env else d'
  else (d.onWl1271 resumeWake).resumeConfigure d.recoveryInProgress env

/-! ## The machine -/

inductive Op
  /-- an operation of the rest of the driver, recovery, stop and start among them -/
  | driver (op : Wlcore.Op)
  | configureWowlan (wow : Option Wowlan) (env : WowEnv)
  | rxFilterEnable (index : FilterIdx) (filter : Option RxFilter) (ret : CmdRet)
  | rxFilterClearAll (rets : FilterIdx → CmdRet)
  | suspend (wow : Option Wowlan) (env : WowSuspendEnv)
  | resume (env : WowResumeEnv)

/-- The rest of the driver may power the chip off, and boot a firmware without filters. -/
def driverStep (d : WowDev) (op : Wlcore.Op) : WowDev :=
  let W := d.toWlcore.step op
  { d with
    toWlcore := W
    fwFilters :=
      if W.state = .off then none
      else if d.state = .off then some fun _ => none
      else d.fwFilters }

def step (d : WowDev) : Op → WowDev
  | .driver op => d.driverStep op
  | .configureWowlan wow env => ((wl1271ConfigureWowlan wow env).exec d).2
  | .rxFilterEnable index filter ret => ((wl1271RxFilterEnable index filter ret).exec d).2
  | .rxFilterClearAll rets => ((wl1271RxFilterClearAll rets).exec d).2
  | .suspend wow env => d.wl1271OpSuspend wow env
  | .resume env => d.wl1271OpResume env

/-- A firmware is booted only if no filter is marked as enabled. -/
def BootsClean (d : WowDev) : Op → Prop
  | .driver op =>
    d.state = .off → (d.toWlcore.step op).state ≠ .off → ∀ i, d.rxFilterEnabled i = false
  | _ => True

end WowDev

end TiWlan.Driver
