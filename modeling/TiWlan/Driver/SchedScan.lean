import TiWlan.Driver.Types

/-!
# The SSIDs of a scheduled scan

Model of `wl12xx_scan_set_ssid_list` (`wlcore/scan.c`, lines 470–571), which hands the SSIDs of a
scheduled scan and of its match sets to the firmware, and of the limits that the driver registers
with mac80211 (`wlcore/main.c`, lines 5767–5769).

The command's `ssids` are the list of the entries that have been written; the command has room for
`SCHED_SCAN_MAX_SSIDS`. Its `role_id` stays zero and is left out.
-/

namespace TiWlan.Driver

/-- `IEEE80211_MAX_SSID_LEN`. -/
def maxSsidLen : ℕ := 32

/-- `struct cfg80211_ssid`. -/
abbrev Ssid := { ssid : List UInt8 // ssid.length ≤ maxSsidLen }

/-- `ssid_len > 0`. -/
def Ssid.Named (s : Ssid) : Prop := 0 < s.1.length

instance (s : Ssid) : Decidable s.Named := by
  unfold Ssid.Named
  infer_instance

/-- `struct cfg80211_match_set`. -/
structure MatchSet where
  ssid : Ssid
  deriving DecidableEq

/-- The SSIDs of `struct cfg80211_sched_scan_request`. -/
structure SchedScanRequest where
  ssids : List Ssid
  matchSets : List MatchSet

/-- `max_sched_scan_ssids` (main.c:5768). -/
def maxSchedScanSsids : ℕ := 16

/-- `max_match_sets` (main.c:5769). -/
def maxMatchSets : ℕ := 16

/-- `SCHED_SCAN_MAX_SSIDS`. -/
def schedScanMaxSsids : ℕ := 16

/-- `SCAN_SSID_FILTER_*`. -/
inductive SsidFilter
  | any | specific | list | disabled
  deriving DecidableEq, Repr

/-- `SCAN_SSID_TYPE_*`. -/
inductive SsidType
  | «public» | hidden
  deriving DecidableEq, Repr

/-- `struct wl1271_ssid`. -/
structure SsidEntry where
  type : SsidType
  ssid : Ssid
  deriving DecidableEq

/-- The inner loop over the entries (scan.c:536): the first one with the SSID is hidden. -/
def markHidden (ssid : Ssid) : List SsidEntry → Option (List SsidEntry)
  | [] => none
  | e :: es =>
    if ssid = e.ssid then some ({ e with type := .hidden } :: es)
    else (markHidden ssid es).map (e :: ·)

/-- The outer loop over the SSIDs of the request (scan.c:532): the entries, and whether all were
found. -/
def markAll : List Ssid → List SsidEntry → List SsidEntry × Bool
  | [], es => (es, true)
  | s :: ss, es =>
    if ¬s.Named then markAll ss es
    else match markHidden s es with
      | none => (es, false)
      | some es => markAll ss es

/-- What the function returns, the entries that it has written, and whether they were sent. -/
structure SsidListResult where
  ret : Except Errno SsidFilter
  ssids : List SsidEntry
  sent : Bool

/-- `req->n_ssids == 1` and a test of `req->ssids[0]`. -/
def singleSsid (test : Ssid → Bool) : List Ssid → Bool
  | [s] => test s
  | _ => false

/-- Sends the command (scan.c:556). -/
def sendSsidList (cmdSend : Option Errno) (type : SsidFilter) (ssids : List SsidEntry) :
    SsidListResult :=
  match cmdSend with
  | some e => ⟨.error e, ssids, true⟩
  | none => ⟨.ok type, ssids, true⟩

/-- `wl12xx_scan_set_ssid_list` (scan.c:471). `kzalloc` says whether there is memory, `cmdSend` is
the error of the command. -/
def wl12xxScanSetSsidList (kzalloc : Bool) (cmdSend : Option Errno) (req : SchedScanRequest) :
    SsidListResult :=
  let nMatchSsids := req.matchSets.countP fun set => set.ssid.Named
  if nMatchSsids = 0 ∧ (req.ssids.length = 0 ∨ singleSsid (fun s => ¬s.Named) req.ssids) then
    ⟨.ok .any, [], false⟩
  else if kzalloc = false then ⟨.error .enomem, [], false⟩
  else if nMatchSsids = 0 then
    -- No filter, with ssids
    sendSsidList cmdSend .disabled
      (req.ssids.map fun s => ⟨if s.Named then .hidden else .public, s⟩)
  else
    -- Add all SSIDs from the filters
    let ssids := (req.matchSets.filter fun set => set.ssid.Named).map fun set =>
      (⟨.public, set.ssid⟩ : SsidEntry)
    if 1 < req.ssids.length ∨ singleSsid (fun s => s.Named) req.ssids then
      match markAll req.ssids ssids with
      | (ssids, false) => ⟨.error .einval, ssids, false⟩
      | (ssids, true) => sendSsidList cmdSend .list ssids
    else sendSsidList cmdSend .list ssids

end TiWlan.Driver
