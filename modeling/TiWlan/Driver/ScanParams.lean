import TiWlan.Lib.MachInt
import TiWlan.Lib.Memory

/-!
# The channel tables of a scan command

Model of `wlcore_scan_get_channels` and `wlcore_set_scan_chan_params` (`wlcore/scan.c`, lines
92–285), which spread the channels of a scan request over the two tables of the firmware's scan
command, and of the channels that the driver registers with mac80211 (`wlcore/main.c`, lines
5242–5339).

A table is a function from the index, so that a write behind its end would be visible. Durations
are computed in `u32` and stored in 16 bits, as the source does.
-/

namespace TiWlan.Driver

open TiWlan.Lib

/-- `enum ieee80211_band`, as far as the driver registers channels. -/
inductive Band
  | ghz2
  | ghz5
  deriving DecidableEq, Repr

/-- `struct ieee80211_channel` with the flags that the driver reads:
`IEEE80211_CHAN_DISABLED`, `IEEE80211_CHAN_PASSIVE_SCAN` and `IEEE80211_CHAN_RADAR`. -/
structure Channel where
  band : Band
  hwValue : ℕ
  maxPower : ℤ
  disabled : Bool
  passiveScan : Bool
  radar : Bool
  deriving DecidableEq, Repr

/-- The `hw_value`s of `wl1271_channels`. -/
def wl1271Channels : List ℕ := [1, 2, 3, 4, 5, 6, 7, 8, 9, 10, 11, 12, 13, 14]

/-- The `hw_value`s of `wl1271_channels_5ghz`. -/
def wl1271Channels5ghz : List ℕ :=
  [7, 8, 9, 11, 12, 16, 34, 36, 38, 40, 42, 44, 46, 48, 52, 56, 60, 64, 100, 104, 108, 112, 116,
    120, 124, 128, 132, 136, 140, 149, 153, 157, 161, 165]

/-- The channels that the driver registers for a band. -/
def Band.registered : Band → List ℕ
  | .ghz2 => wl1271Channels
  | .ghz5 => wl1271Channels5ghz

/-- `enum` of the scan types. -/
inductive ScanType
  | search
  | periodic
  | tracking
  deriving DecidableEq, Repr

/-- `struct conf_scan_settings` and `struct conf_sched_scan_settings`, the dwell times. -/
structure ScanConf where
  minDwellTimeActive : ℕ
  maxDwellTimeActive : ℕ
  dwellTimePassive : ℕ
  dwellTimeDfs : ℕ
  schedBaseDwellTime : ℕ
  schedMaxDwellTimeDelta : ℕ
  schedDwellTimeDeltaPerProbe : ℕ
  schedDwellTimeDeltaPerProbe5 : ℕ
  schedDwellTimePassive : ℕ
  schedDwellTimeDfs : ℕ
  schedNumProbeReqs : ℕ
  deriving DecidableEq, Repr

/-- The defaults of `wl18xx_conf` (`wl18xx/main.c`, lines 393–417). -/
def wl18xxScanConf : ScanConf :=
  { minDwellTimeActive := 7500
    maxDwellTimeActive := 30000
    dwellTimePassive := 100000
    dwellTimeDfs := 150000
    schedBaseDwellTime := 7500
    schedMaxDwellTimeDelta := 22500
    schedDwellTimeDeltaPerProbe := 2000
    schedDwellTimeDeltaPerProbe5 := 350
    schedDwellTimePassive := 100000
    schedDwellTimeDfs := 150000
    schedNumProbeReqs := 2 }

/-- The dwell times that one pass writes, in ms. -/
structure DwellTimes where
  minActive : ℕ
  maxActive : ℕ
  passive : ℕ
  dfs : ℕ
  deriving DecidableEq, Repr

/-- `DIV_ROUND_UP(x, 1000)` of a `u32`. -/
def usToMs (x : ℕ) : ℕ := u32 (x + 1000 - 1) / 1000

/-- The dwell times of `wlcore_scan_get_channels`, lines 104–136. -/
def dwellTimes (conf : ScanConf) (nSsids : ℕ) (band : Band) : ScanType → DwellTimes
  | .search =>
    { minActive := usToMs conf.minDwellTimeActive
      maxActive := usToMs conf.maxDwellTimeActive
      passive := usToMs conf.dwellTimePassive
      dfs := usToMs conf.dwellTimeDfs }
  | .periodic | .tracking =>
    let deltaPerProbe := if band = .ghz5 then conf.schedDwellTimeDeltaPerProbe5
      else conf.schedDwellTimeDeltaPerProbe
    let minActive :=
      u32 (conf.schedBaseDwellTime + nSsids * conf.schedNumProbeReqs * deltaPerProbe)
    { minActive := usToMs minActive
      maxActive := usToMs (u32 (minActive + conf.schedMaxDwellTimeDelta))
      passive := usToMs conf.schedDwellTimePassive
      dfs := usToMs conf.schedDwellTimeDfs }

/-- `struct conn_scan_ch_params`. -/
structure ConnScanChParams where
  minDuration : ℕ
  maxDuration : ℕ
  passiveDuration : ℕ
  channel : ℕ
  txPowerAtt : ℕ
  flags : ℕ
  deriving DecidableEq, Repr

/-- A zeroed entry. -/
def ConnScanChParams.zero : ConnScanChParams := ⟨0, 0, 0, 0, 0, 0⟩

/-- `SCAN_CHANNEL_FLAGS_DFS`. -/
def scanChannelFlagsDfs : ℕ := 1

/-- `MAX_CHANNELS_2GHZ`. -/
def maxChannels2ghz : ℕ := 14

/-- `MAX_CHANNELS_5GHZ`. -/
def maxChannels5ghz : ℕ := 24

/-- One of the five passes: the channels it takes. -/
structure ScanPass where
  band : Band
  radar : Bool
  passive : Bool

/-- The test of lines 143–152, with `force_passive` when there is no SSID. -/
def ScanPass.takes (p : ScanPass) (nSsids : ℕ) (ch : Channel) : Bool :=
  let passiveFlag := ch.passiveScan || nSsids == 0
  ch.band == p.band && !ch.disabled && ch.radar == p.radar &&
    -- if radar is set, the passive flag is ignored
    (p.radar || passiveFlag == p.passive)

/-- The entry written for a channel, lines 167–183. -/
def Channel.fill (d : DwellTimes) (ch : Channel) (e : ConnScanChParams) : ConnScanChParams :=
  { minDuration := u16 d.minActive
    maxDuration := u16 d.maxActive
    passiveDuration := u16 (if ch.radar then d.dfs else d.passive : ℕ)
    channel := u8 ch.hwValue
    txPowerAtt := u8 ch.maxPower
    flags := if ch.radar then e.flags ||| scanChannelFlagsDfs else e.flags }

/-- The loop of `wlcore_scan_get_channels`: the next index `j` and the table. -/
def scanGetChannelsLoop (takes : Channel → Bool)
    (fill : Channel → ConnScanChParams → ConnScanChParams) (maxChannels : ℕ) :
    List Channel → ℕ → (ℕ → ConnScanChParams) → ℕ × (ℕ → ConnScanChParams)
  | [], j, channels => (j, channels)
  | ch :: rest, j, channels =>
    if j < maxChannels then
      if takes ch then
        scanGetChannelsLoop takes fill maxChannels rest (j + 1)
          (storeAt channels j [fill ch (channels j)])
      else scanGetChannelsLoop takes fill maxChannels rest j channels
    else (j, channels)

/-- `wlcore_scan_get_channels`: how many entries it wrote, and the table. -/
def wlcoreScanGetChannels (conf : ScanConf) (type : ScanType) (nSsids : ℕ) (req : List Channel)
    (p : ScanPass) (start maxChannels : ℕ) (channels : ℕ → ConnScanChParams) :
    ℕ × (ℕ → ConnScanChParams) :=
  let r := scanGetChannelsLoop (p.takes nSsids)
    (Channel.fill (dwellTimes conf nSsids p.band type)) maxChannels req start channels
  (r.1 - start, r.2)

/-- `struct wl1271_cmd_scan_params`, the counts and the tables for the channels. -/
structure ScanCmd where
  passive0 : ℕ
  active0 : ℕ
  passive1 : ℕ
  active1 : ℕ
  passive2 : ℕ
  active2 : ℕ
  dfs : ℕ
  passiveActive : ℕ
  channels2 : ℕ → ConnScanChParams
  channels5 : ℕ → ConnScanChParams

/-- The command as `kzalloc` returns it. -/
def ScanCmd.zero : ScanCmd :=
  { passive0 := 0, active0 := 0, passive1 := 0, active1 := 0, passive2 := 0, active2 := 0
    dfs := 0, passiveActive := 0
    channels2 := fun _ => .zero, channels5 := fun _ => .zero }

/-- `wlcore_set_scan_chan_params`: whether there is a channel to scan, and the command. -/
def wlcoreSetScanChanParams (conf : ScanConf) (type : ScanType) (nSsids : ℕ) (req : List Channel)
    (cmd : ScanCmd) : Bool × ScanCmd :=
  let get := wlcoreScanGetChannels conf type nSsids req
  let (passive0, channels2) := get ⟨.ghz2, false, true⟩ 0 maxChannels2ghz cmd.channels2
  let (active0, channels2) := get ⟨.ghz2, false, false⟩ passive0 maxChannels2ghz channels2
  let (passive1, channels5) := get ⟨.ghz5, false, true⟩ 0 maxChannels5ghz cmd.channels5
  let (dfs, channels5) := get ⟨.ghz5, true, true⟩ passive1 maxChannels5ghz channels5
  let (active1, channels5) :=
    get ⟨.ghz5, false, false⟩ (passive1 + dfs) maxChannels5ghz channels5
  (passive0 != 0 || active0 != 0 || passive1 != 0 || active1 != 0 || dfs != 0,
    { passive0 := passive0, active0 := active0, passive1 := passive1, active1 := active1
      passive2 := 0, active2 := 0, dfs := dfs, passiveActive := 0
      channels2 := channels2, channels5 := channels5 })

end TiWlan.Driver
