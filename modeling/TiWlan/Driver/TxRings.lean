import TiWlan.Driver.TxStatus

/-!
# The completion rings

The firmware reports completed frames through a ring. On wl18xx it is `released_tx_desc` with
`WL18XX_FW_MAX_TX_STATUS_DESC` entries and the index `fw_release_idx` in the status block
(`wl18xx/tx.c`, lines 95–127). On wl12xx it is `tx_results_queue` with
`TX_HW_RESULT_QUEUE_LEN` entries in the chip's memory, with a counter of the firmware and one of
the host; `wl12xx_tx_delayed_compl` (`wl12xx/main.c`, lines 1335–1342) looks at the low byte of
the firmware's counter and `wlcore_tx_complete` (`wlcore/tx.c`, lines 932–976) reads the ring.

The functions of `Driver/TxStatus.lean` are given here together with the entries that they pass
on to `wl18xx_tx_complete_packet` and `wl1271_tx_complete_packet`, and each ring with the
firmware that writes it.
-/

namespace TiWlan.Driver

open TiWlan.Lib
open Function (update)

/-! ## wl18xx -/

/-- One released entry: the packet is completed and counted (wl18xx/tx.c:120–123). -/
def wl18xxRelease (wl : Wl1271) (txStatByte : ℕ) : Wl1271 :=
  let wl' := wl18xxTxCompletePacket wl txStatByte
  { wl' with txResultsCount := u32 (wl'.txResultsCount + 1) }

/-- The loop of `wl18xx_tx_immediate_complete` as it is written, with the entries that it passes
on; `none` if it runs for more than the given number of tests. -/
def wl18xxReleaseWhile (fwReleaseIdx : ℕ) (released : ℕ → ℕ) :
    ℕ → ℕ → Wl1271 → Option (List ℕ × Wl1271)
  | 0, _, _ => none
  | fuel + 1, i, wl =>
    if i = fwReleaseIdx then some ([], wl)
    else
      (wl18xxReleaseWhile fwReleaseIdx released fuel ((i + 1) % 33)
        (wl18xxRelease wl (released i))).map fun r => (released i :: r.1, r.2)

/-- `wl18xx_tx_immediate_complete` (wl18xx/tx.c:95) with that loop. -/
def wl18xxTxImmediateCalls (fuel : ℕ) (wl : Wl1271) (fwReleaseIdx : ℕ) (released : ℕ → ℕ) :
    Option (List ℕ × Wl1271) :=
  if wl.lastFwRlsIdx = fwReleaseIdx then some ([], wl)
  else if 33 ≤ fwReleaseIdx then some ([], wl)
  else
    (wl18xxReleaseWhile fwReleaseIdx released fuel wl.lastFwRlsIdx wl).map fun r =>
      (r.1, { r.2 with lastFwRlsIdx := fwReleaseIdx })

/-- The driver and the ring of a wl18xx. -/
structure ReleaseRing where
  wl : Wl1271
  fwReleaseIdx : ℕ
  releasedTxDesc : ℕ → ℕ
  /-- ghost: the entries that the firmware has written -/
  written : List ℕ
  /-- ghost: how many of them there were at the last status read -/
  writtenAtRead : ℕ
  /-- ghost: the entries passed to `wl18xx_tx_complete_packet` -/
  processed : List ℕ

namespace ReleaseRing

/-- After a boot the firmware's index is the driver's (`wl18xx_hw_init` sets `last_fw_rls_idx` to
0). -/
def start (wl : Wl1271) (c : ℕ) (ring : ℕ → ℕ) : ReleaseRing :=
  { wl := { wl with lastFwRlsIdx := c % 33 }, fwReleaseIdx := c % 33, releasedTxDesc := ring
    written := [], writtenAtRead := 0, processed := [] }

inductive Act
  /-- the firmware writes an entry and advances its index -/
  | release (txStatByte : ℕ)
  /-- the status is read, and `wl18xx_tx_immediate_complete` is called -/
  | complete
  /-- the rest of the driver may become what it is in `wl`, but for `last_fw_rls_idx` -/
  | other (wl : Wl1271)

def step (s : ReleaseRing) : Act → ReleaseRing
  | .release txStatByte =>
    { s with
      releasedTxDesc := update s.releasedTxDesc s.fwReleaseIdx txStatByte
      fwReleaseIdx := (s.fwReleaseIdx + 1) % 33
      written := s.written ++ [txStatByte] }
  | .complete =>
    -- 33 tests are enough: `immediateCalls_eq`
    match wl18xxTxImmediateCalls 33 s.wl s.fwReleaseIdx s.releasedTxDesc with
    | none => s
    | some r =>
      { s with
        wl := r.2, processed := s.processed ++ r.1, writtenAtRead := s.written.length }
  | .other wl => { s with wl := { wl with lastFwRlsIdx := s.wl.lastFwRlsIdx } }

/-- What the firmware keeps to: at most 32 entries between two status reads. -/
def FwAllowed (s : ReleaseRing) : Act → Prop
  | .release _ => s.written.length < s.writtenAtRead + 32
  | _ => True

end ReleaseRing

/-! ## wl12xx -/

/-- The loop of `wlcore_tx_complete` (tx.c:963–972) for `count` results, with the results that it
passes on. -/
def txCompleteLoop (queue : ℕ → TxResult) : ℕ → Wl1271 → List TxResult × Wl1271
  | 0, wl => ([], wl)
  | count + 1, wl =>
    let result := queue (wl.txResultsCount % 16)
    let r := txCompleteLoop queue count
      { wl1271TxCompletePacket wl result with txResultsCount := u32 (wl.txResultsCount + 1) }
    (result :: r.1, r.2)

/-- `struct wl1271_tx_hw_res_if` in the memory of the chip. -/
structure TxResIf where
  fwCounter : ℕ
  hostCounter : ℕ
  queue : ℕ → TxResult

/-- The bus accesses of `wlcore_tx_complete`. A write that returns an error may have reached the
chip. -/
structure TxCompleteEnv where
  readOk : Bool := true
  writeOk : Bool := true
  acked : Bool := false

/-- What `wl12xx_tx_delayed_compl` does: whether it returned 0, the results it passed on, the
driver and the chip's memory. -/
structure DelayedCompl where
  ok : Bool
  calls : List TxResult
  wl : Wl1271
  res : TxResIf

/-- `wlcore_tx_complete` (tx.c:932). -/
def wlcoreTxCompleteCalls (wl : Wl1271) (res : TxResIf) (env : TxCompleteEnv) : DelayedCompl :=
  if !env.readOk then ⟨false, [], wl, res⟩
  -- the results are acknowledged before they are processed
  else if !env.writeOk then
    ⟨false, [], wl, if env.acked then { res with hostCounter := res.fwCounter } else res⟩
  else
    let r := txCompleteLoop res.queue (u32 ((res.fwCounter : ℤ) - wl.txResultsCount)) wl
    ⟨true, r.1, r.2, { res with hostCounter := res.fwCounter }⟩

/-- `wl12xx_tx_delayed_compl` (wl12xx/main.c:1335); `txResultsCounter` is the `u8` in the status
block. -/
def wl12xxTxDelayedCompl (wl : Wl1271) (txResultsCounter : ℕ) (res : TxResIf)
    (env : TxCompleteEnv) : DelayedCompl :=
  if txResultsCounter = wl.txResultsCount % 256 then ⟨true, [], wl, res⟩
  else wlcoreTxCompleteCalls wl res env

/-- The driver and the ring of a wl12xx. -/
structure ResultRing where
  wl : Wl1271
  res : TxResIf
  /-- `fw_status_1->tx_results_counter` as last read -/
  txResultsCounter : ℕ
  /-- an access failed; the interrupt thread has queued a recovery and does not get here again -/
  failed : Bool
  /-- ghost: the results that the firmware has written -/
  written : List TxResult
  /-- ghost: how many of them there were at the last status read -/
  writtenAtRead : ℕ
  /-- ghost: the results passed to `wl1271_tx_complete_packet` -/
  processed : List TxResult

namespace ResultRing

/-- The three counters start equal (`wlcore_op_stop_locked` sets `tx_results_count` to 0). -/
def start (wl : Wl1271) (c : ℕ) (ring : ℕ → TxResult) : ResultRing :=
  { wl := { wl with txResultsCount := c % 2 ^ 32 }
    res := { fwCounter := c % 2 ^ 32, hostCounter := c % 2 ^ 32, queue := ring }
    txResultsCounter := c % 256, failed := false
    written := [], writtenAtRead := 0, processed := [] }

inductive Act
  /-- the firmware writes a result and advances its counter -/
  | result (r : TxResult)
  /-- the status is read -/
  | status
  /-- `wl12xx_tx_delayed_compl` is called -/
  | delayedCompl (env : TxCompleteEnv)
  /-- the rest of the driver may become what it is in `wl`, but for `tx_results_count` -/
  | other (wl : Wl1271)

def step (s : ResultRing) : Act → ResultRing
  | .result r =>
    { s with
      res := { s.res with
        queue := update s.res.queue (s.res.fwCounter % 16) r
        fwCounter := u32 (s.res.fwCounter + 1) }
      written := s.written ++ [r] }
  | .status =>
    { s with txResultsCounter := s.res.fwCounter % 256, writtenAtRead := s.written.length }
  | .delayedCompl env =>
    if s.failed then s
    else
      let r := wl12xxTxDelayedCompl s.wl s.txResultsCounter s.res env
      { s with wl := r.wl, res := r.res, failed := !r.ok, processed := s.processed ++ r.calls }
  | .other wl => { s with wl := { wl with txResultsCount := s.wl.txResultsCount } }

/-- What the firmware keeps to: at most 16 unacknowledged results. -/
def FwAllowed (s : ResultRing) : Act → Prop
  | .result _ => u32 ((s.res.fwCounter : ℤ) - s.res.hostCounter) < 16
  | _ => True

end ResultRing

end TiWlan.Driver
