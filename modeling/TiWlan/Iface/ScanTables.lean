import TiWlan.Driver.ScanParams
import Mathlib.Data.List.GetD
import Mathlib.Data.List.Perm.Subperm

/-!
# The scan command holds the requested channels

`wlcore_set_scan_chan_params` (`wlcore/scan.c`, lines 206–285) fills the tables of a scan command
in five passes over the request: each pass takes the channels of one band and one kind, and starts
behind the entries of the passes before it. Here the tables are compared with what the request
asks for: `ScanCmd.Complete` says that every channel has its entry, in the segment of its kind.

The passes stop at the capacity of a table. That of the 2.4 GHz table is the number of channels
registered for the band. The 5 GHz table has 24 entries for 34 registered channels, and what does
not fit is left out without an error.

Results:
* `scanTables_complete_iff`: for every request of registered channels, the tables are complete
  exactly when at most 24 channels of the request are in the 5 GHz band.
* `scanTables_drop`: a request of all registered 5 GHz channels loses ten of them.
-/

namespace TiWlan.Iface

open TiWlan.Driver TiWlan.Lib

variable {k : ChanKind} {ch : Channel} {l : List Channel} {p : ScanPass}

/-! ## What a request asks for -/

/-- How a channel is to be scanned. -/
inductive ChanKind
  | passive
  | dfs
  | active
  deriving DecidableEq

/-- DFS if the channel has `RADAR`, passive if it has `PASSIVE` or there is no SSID. -/
def chanKind (nSsids : ℕ) (ch : Channel) : ChanKind :=
  if ch.radar then .dfs else if ch.passiveScan || nSsids == 0 then .passive else .active

theorem chanKind_eq_dfs {nSsids : ℕ} : chanKind nSsids ch = .dfs ↔ ch.radar = true := by
  unfold chanKind
  split_ifs with hradar hpassive <;> simp [hradar]

/-- The channels of one band and kind, in the order of the request. -/
def segment (nSsids : ℕ) (b : Band) (k : ChanKind) (req : List Channel) : List Channel :=
  req.filter fun ch => ch.band = b ∧ chanKind nSsids ch = k

/-- The channels of the 2.4 GHz table. -/
def segments2 (nSsids : ℕ) (req : List Channel) : List Channel :=
  segment nSsids .ghz2 .passive req ++ segment nSsids .ghz2 .active req

/-- The channels of the 5 GHz table. -/
def segments5 (nSsids : ℕ) (req : List Channel) : List Channel :=
  segment nSsids .ghz5 .passive req ++ segment nSsids .ghz5 .dfs req ++
    segment nSsids .ghz5 .active req

/-- The entry of a channel: its number, its power, the dwell times of its band in ms and, for a
DFS channel, the DFS flag and the DFS dwell time. -/
def chanEntry (conf : ScanConf) (type : ScanType) (nSsids : ℕ) (ch : Channel) :
    ConnScanChParams :=
  let d := dwellTimes conf nSsids ch.band type
  { minDuration := u16 d.minActive
    maxDuration := u16 d.maxActive
    passiveDuration := if chanKind nSsids ch = .dfs then u16 d.dfs else u16 d.passive
    channel := ch.hwValue
    txPowerAtt := u8 ch.maxPower
    flags := if chanKind nSsids ch = .dfs then scanChannelFlagsDfs else 0 }

/-- The table of a band. -/
def scanTable (cmd : ScanCmd) : Band → ℕ → ConnScanChParams
  | .ghz2 => cmd.channels2
  | .ghz5 => cmd.channels5

/-- A request as cfg80211 passes it on: distinct channels that the driver registered and that are
not disabled, `RADAR` only in the 5 GHz band. -/
structure ScanRequestOk (req : List Channel) : Prop where
  distinct : (req.map fun ch => (ch.band, ch.hwValue)).Nodup
  registered : ∀ ch ∈ req, ch.hwValue ∈ ch.band.registered
  enabled : ∀ ch ∈ req, ch.disabled = false
  radar : ∀ ch ∈ req, ch.radar = true → ch.band = .ghz5

/-- The command holds the request: the counts, the segments of both tables with their entries, no
entry behind the segments or behind the end of a table, and every channel in exactly one place. -/
structure ScanCmdComplete (conf : ScanConf) (type : ScanType) (nSsids : ℕ) (req : List Channel)
    (cmd : ScanCmd) : Prop where
  passive0 : cmd.passive0 = (segment nSsids .ghz2 .passive req).length
  active0 : cmd.active0 = (segment nSsids .ghz2 .active req).length
  passive1 : cmd.passive1 = (segment nSsids .ghz5 .passive req).length
  dfs : cmd.dfs = (segment nSsids .ghz5 .dfs req).length
  active1 : cmd.active1 = (segment nSsids .ghz5 .active req).length
  channels2 : ∀ i, cmd.channels2 i =
    ((segments2 nSsids req).map (chanEntry conf type nSsids)).getD i .zero
  channels5 : ∀ i, cmd.channels5 i =
    ((segments5 nSsids req).map (chanEntry conf type nSsids)).getD i .zero
  once : ∀ ch ∈ req, ∃! i, (scanTable cmd ch.band i).channel = ch.hwValue
  within2 : ∀ i, maxChannels2ghz ≤ i → cmd.channels2 i = .zero
  within5 : ∀ i, maxChannels5ghz ≤ i → cmd.channels5 i = .zero

/-! ## One pass -/

/-- The loop appends the entries of the channels it takes, up to the capacity. -/
theorem scanGetChannelsLoop_eq (takes : Channel → Bool)
    (fill : Channel → ConnScanChParams → ConnScanChParams) (cap : ℕ) (req : List Channel) (j : ℕ)
    (t : ℕ → ConnScanChParams) (hz : ∀ i, j ≤ i → t i = .zero) :
    scanGetChannelsLoop takes fill cap req j t =
      (j + ((req.filter takes).take (cap - j)).length,
        storeAt t j (((req.filter takes).take (cap - j)).map fun ch => fill ch .zero)) := by
  induction req generalizing j t with
  | nil => simp [scanGetChannelsLoop, storeAt_nil]
  | cons ch rest ih =>
    unfold scanGetChannelsLoop
    by_cases hj : j < cap
    · rw [if_pos hj]
      by_cases htakes : takes ch = true
      · rw [if_pos htakes, hz j le_rfl]
        have hnext : ∀ i, j + 1 ≤ i → storeAt t j [fill ch .zero] i = .zero := by
          intro i hi
          rw [storeAt_of_le [fill ch .zero] (by simpa using hi)]
          exact hz i (by omega)
        have htake : cap - j = (cap - (j + 1)) + 1 := by omega
        rw [ih _ _ hnext, List.filter_cons_of_pos htakes, htake, List.take_succ_cons,
          List.map_cons, List.length_cons]
        refine Prod.ext (by simp only []; omega) ?_
        exact storeAt_append t j [fill ch .zero] _
      · rw [if_neg htakes, ih j t hz, List.filter_cons_of_neg htakes]
    · have hfull : cap - j = 0 := by omega
      rw [if_neg hj, hfull]
      simp [storeAt_nil]

/-- The kind of the channels that a pass takes. -/
def passKind (p : ScanPass) : ChanKind :=
  if p.radar then .dfs else if p.passive then .passive else .active

theorem takes_iff (p : ScanPass) (nSsids : ℕ) (hen : ch.disabled = false) :
    p.takes nSsids ch = true ↔ ch.band = p.band ∧ chanKind nSsids ch = passKind p := by
  obtain ⟨b, radar, passive⟩ := p
  unfold ScanPass.takes chanKind passKind
  cases radar <;> cases passive <;> cases ch.radar <;>
    cases ch.passiveScan || nSsids == 0 <;> simp [hen]

theorem registered_lt (b : Band) : ∀ n ∈ b.registered, n < 256 := by
  cases b <;> decide

theorem registered_pos (b : Band) : ∀ n ∈ b.registered, 0 < n := by
  cases b <;> decide

section Passes

variable {conf : ScanConf} {type : ScanType} {nSsids : ℕ} {req : List Channel}

theorem filter_takes (hen : ∀ ch ∈ req, ch.disabled = false) (p : ScanPass) :
    req.filter (p.takes nSsids) = segment nSsids p.band (passKind p) req := by
  apply List.filter_congr
  intro ch hch
  rw [Bool.eq_iff_iff, takes_iff p nSsids (hen ch hch), decide_eq_true_eq]

/-- What a pass writes for a channel of the request is the channel's entry. -/
theorem fill_eq_chanEntry (hreq : ScanRequestOk req) (hch : ch ∈ req) :
    ch.fill (dwellTimes conf nSsids ch.band type) .zero = chanEntry conf type nSsids ch := by
  have hlt := registered_lt ch.band ch.hwValue (hreq.registered ch hch)
  have hchan : u8 ch.hwValue = ch.hwValue := by
    unfold u8
    omega
  unfold Channel.fill chanEntry
  simp only [hchan, chanKind_eq_dfs]
  cases ch.radar <;> simp [ConnScanChParams.zero]

/-- One pass over a request, onto a table that is still zero from `start` on. -/
theorem wlcoreScanGetChannels_eq (hreq : ScanRequestOk req) (p : ScanPass) (start cap : ℕ)
    (t : ℕ → ConnScanChParams) (hz : ∀ i, start ≤ i → t i = .zero) :
    wlcoreScanGetChannels conf type nSsids req p start cap t =
      (((segment nSsids p.band (passKind p) req).take (cap - start)).length,
        storeAt t start (((segment nSsids p.band (passKind p) req).take (cap - start)).map
          (chanEntry conf type nSsids))) := by
  have hentries : ∀ ch ∈ (segment nSsids p.band (passKind p) req).take (cap - start),
      ch.fill (dwellTimes conf nSsids p.band type) .zero = chanEntry conf type nSsids ch := by
    intro ch hch
    have hmem := List.mem_filter.mp (List.mem_of_mem_take hch)
    have hband : ch.band = p.band := (of_decide_eq_true hmem.2).1
    rw [← hband]
    exact fill_eq_chanEntry hreq hmem.1
  unfold wlcoreScanGetChannels
  rw [scanGetChannelsLoop_eq _ _ _ _ _ _ hz, filter_takes hreq.enabled]
  refine Prod.ext (by simp) ?_
  simp only []
  rw [List.map_congr_left hentries]

end Passes

/-! ## The five passes -/

section Tables

variable {conf : ScanConf} {type : ScanType} {nSsids : ℕ} {req : List Channel}

/-- A zeroed table that was filled with the first entries of `l`, up to its capacity. -/
def filled (conf : ScanConf) (type : ScanType) (nSsids cap : ℕ) (l : List Channel) :
    ℕ → ConnScanChParams :=
  storeAt (fun _ => .zero) 0 ((l.take cap).map (chanEntry conf type nSsids))

theorem filled_apply (cap : ℕ) (l : List Channel) (i : ℕ) :
    filled conf type nSsids cap l i =
      ((l.take cap).map (chanEntry conf type nSsids)).getD i .zero := by
  simp [filled, storeAt]

theorem filled_of_le {cap : ℕ} {i : ℕ} (hi : (l.take cap).length ≤ i) :
    filled conf type nSsids cap l i = .zero :=
  storeAt_of_le _ (by simpa using hi)

theorem length_take_append {α : Type} (l₁ l₂ : List α) (cap : ℕ) :
    (l₁.take cap).length + (l₂.take (cap - (l₁.take cap).length)).length =
      ((l₁ ++ l₂).take cap).length := by
  simp
  omega

/-- A pass that starts behind the entries of `l` continues with the channels it takes. -/
theorem wlcoreScanGetChannels_filled (hreq : ScanRequestOk req) (hk : passKind p = k) (cap : ℕ)
    (l : List Channel) :
    wlcoreScanGetChannels conf type nSsids req p (l.take cap).length cap
        (filled conf type nSsids cap l) =
      (((segment nSsids p.band k req).take (cap - (l.take cap).length)).length,
        filled conf type nSsids cap (l ++ segment nSsids p.band k req)) := by
  subst hk
  rw [wlcoreScanGetChannels_eq hreq p _ cap _ fun i hi => filled_of_le hi]
  refine Prod.ext rfl ?_
  -- `take` splits over the append at the number of entries that are there already
  have hstart : cap - l.length = cap - (l.take cap).length := by
    simp
    omega
  have happend := storeAt_append (fun _ => ConnScanChParams.zero) 0
    ((l.take cap).map (chanEntry conf type nSsids))
    (((segment nSsids p.band (passKind p) req).take (cap - (l.take cap).length)).map
      (chanEntry conf type nSsids))
  rw [List.length_map, Nat.zero_add, ← List.map_append, ← hstart, ← List.take_append] at happend
  rw [← hstart]
  exact happend

/-- The first pass onto a table. -/
theorem wlcoreScanGetChannels_first (hreq : ScanRequestOk req) (hk : passKind p = k) (cap : ℕ) :
    wlcoreScanGetChannels conf type nSsids req p 0 cap (fun _ => .zero) =
      (((segment nSsids p.band k req).take cap).length,
        filled conf type nSsids cap (segment nSsids p.band k req)) := by
  have hnil : filled conf type nSsids cap [] = fun _ => .zero := by
    funext i
    exact filled_of_le (by simp)
  rw [← hnil]
  simpa using wlcoreScanGetChannels_filled hreq hk cap []

/-- The command after the five passes over a request of registered channels. -/
theorem wlcoreSetScanChanParams_eq (hreq : ScanRequestOk req) :
    let P₂ := segment nSsids .ghz2 .passive req
    let A₂ := segment nSsids .ghz2 .active req
    let P := segment nSsids .ghz5 .passive req
    let D := segment nSsids .ghz5 .dfs req
    let A := segment nSsids .ghz5 .active req
    (wlcoreSetScanChanParams conf type nSsids req .zero).2 =
      { passive0 := (P₂.take 14).length
        active0 := (A₂.take (14 - (P₂.take 14).length)).length
        passive1 := (P.take 24).length
        dfs := (D.take (24 - (P.take 24).length)).length
        active1 := (A.take (24 - ((P ++ D).take 24).length)).length
        passive2 := 0, active2 := 0, passiveActive := 0
        channels2 := filled conf type nSsids 14 (segments2 nSsids req)
        channels5 := filled conf type nSsids 24 (segments5 nSsids req) } := by
  intro P₂ A₂ P D A
  have hp₂ : passKind ⟨.ghz2, false, true⟩ = .passive := rfl
  have ha₂ : passKind ⟨.ghz2, false, false⟩ = .active := rfl
  have hp : passKind ⟨.ghz5, false, true⟩ = .passive := rfl
  have hd : passKind ⟨.ghz5, true, true⟩ = .dfs := rfl
  have ha : passKind ⟨.ghz5, false, false⟩ = .active := rfl
  simp only [wlcoreSetScanChanParams, ScanCmd.zero, maxChannels2ghz, maxChannels5ghz,
    wlcoreScanGetChannels_first hreq hp₂, wlcoreScanGetChannels_filled hreq ha₂,
    wlcoreScanGetChannels_first hreq hp, wlcoreScanGetChannels_filled hreq hd,
    length_take_append, wlcoreScanGetChannels_filled hreq ha]
  rfl

/-! ## Nothing is lost but what does not fit -/

/-- Every channel has one of the three kinds. -/
theorem kinds_perm (nSsids : ℕ) (l : List Channel) :
    (l.filter (chanKind nSsids · = .passive) ++ l.filter (chanKind nSsids · = .dfs) ++
      l.filter (chanKind nSsids · = .active)).Perm l := by
  induction l with
  | nil => simp
  | cons ch rest ih =>
    cases hkind : chanKind nSsids ch with
    | passive => simpa [hkind] using ih
    | dfs =>
      have h : (rest.filter (chanKind nSsids · = .passive) ++
          ch :: (rest.filter (chanKind nSsids · = .dfs) ++
            rest.filter (chanKind nSsids · = .active))).Perm (ch :: rest) :=
        List.perm_middle.trans (by simpa using ih)
      simpa [hkind] using h
    | active =>
      have h : ((rest.filter (chanKind nSsids · = .passive) ++
          rest.filter (chanKind nSsids · = .dfs)) ++
            ch :: rest.filter (chanKind nSsids · = .active)).Perm (ch :: rest) :=
        List.perm_middle.trans (ih.cons ch)
      simpa [hkind] using h

theorem segment_eq (b : Band) (k : ChanKind) :
    segment nSsids b k req = (req.filter (·.band = b)).filter (chanKind nSsids · = k) := by
  rw [List.filter_filter]
  apply List.filter_congr
  intro ch _
  rw [Bool.decide_and, Bool.and_comm]

theorem segments5_perm : (segments5 nSsids req).Perm (req.filter (·.band = .ghz5)) := by
  unfold segments5
  rw [segment_eq, segment_eq, segment_eq]
  exact kinds_perm nSsids _

theorem segments2_perm (hreq : ScanRequestOk req) :
    (segments2 nSsids req).Perm (req.filter (·.band = .ghz2)) := by
  have hdfs : segment nSsids .ghz2 .dfs req = [] := by
    apply List.filter_eq_nil_iff.mpr
    intro ch hch hboth
    obtain ⟨hband, hkind⟩ := of_decide_eq_true hboth
    have h5 := hreq.radar ch hch (chanKind_eq_dfs.mp hkind)
    rw [hband] at h5
    exact absurd h5 (by decide)
  have h := kinds_perm nSsids (req.filter (·.band = .ghz2))
  rw [← segment_eq, ← segment_eq, ← segment_eq, hdfs, List.append_nil] at h
  exact h

/-- The channel numbers of one band are distinct and registered. -/
theorem band_numbers (hreq : ScanRequestOk req) (b : Band) :
    ((req.filter (·.band = b)).map Channel.hwValue).Nodup ∧
      ∀ n ∈ (req.filter (·.band = b)).map Channel.hwValue, n ∈ b.registered := by
  constructor
  · have hpairs : ((req.filter (·.band = b)).map fun ch => (ch.band, ch.hwValue)).Nodup :=
      hreq.distinct.sublist ((List.filter_sublist).map _)
    refine List.Nodup.of_map (fun n => (b, n)) ?_
    rw [List.map_map]
    refine (List.map_congr_left ?_) ▸ hpairs
    intro ch hch
    simp at hch
    simp [hch.2]
  · intro n hn
    obtain ⟨ch, hch, rfl⟩ := List.mem_map.mp hn
    obtain ⟨hmem, hband⟩ := List.mem_filter.mp hch
    rw [← of_decide_eq_true hband]
    exact hreq.registered ch hmem

variable (nSsids) in
theorem segments2_length (hreq : ScanRequestOk req) : (segments2 nSsids req).length ≤ 14 := by
  obtain ⟨hnodup, hsub⟩ := band_numbers hreq .ghz2
  calc (segments2 nSsids req).length
      = ((req.filter (·.band = .ghz2)).map Channel.hwValue).length := by
        rw [List.length_map, (segments2_perm hreq).length_eq]
    _ ≤ wl1271Channels.length := (List.subperm_of_subset hnodup hsub).length_le

/-- A channel of a table that holds distinct channel numbers has one place in it. -/
theorem entry_unique (hnodup : (l.map Channel.hwValue).Nodup)
    (hpos : ∀ n ∈ l.map Channel.hwValue, 0 < n) (hch : ch ∈ l) :
    ∃! i, ((l.map (chanEntry conf type nSsids)).getD i .zero).channel = ch.hwValue := by
  have hentry : ∀ i (hi : i < l.length),
      ((l.map (chanEntry conf type nSsids)).getD i .zero).channel = l[i].hwValue := by
    intro i hi
    rw [List.getD_eq_getElem _ _ (by simpa using hi), List.getElem_map]
    rfl
  obtain ⟨i, hi, rfl⟩ := List.getElem_of_mem hch
  refine ⟨i, hentry i hi, ?_⟩
  intro j hj
  by_cases hjl : j < l.length
  · simp only [hentry j hjl] at hj
    have hsame := List.inj_on_of_nodup_map hnodup (List.getElem_mem hjl) hch hj
    exact (hnodup.of_map.getElem_inj_iff).mp hsame
  · have hout : (l.map (chanEntry conf type nSsids)).length ≤ j := by simpa using hjl
    simp only [List.getD_eq_default _ _ hout] at hj
    have hpos := hpos l[i].hwValue (List.mem_map_of_mem hch)
    rw [← hj] at hpos
    exact absurd hpos (by decide)

/-- A channel of the request has one place in a table that holds the channels of its band. -/
theorem band_entry_unique (hreq : ScanRequestOk req) {b : Band}
    (hperm : l.Perm (req.filter (·.band = b))) (hch : ch ∈ req) (hband : ch.band = b) :
    ∃! i, ((l.map (chanEntry conf type nSsids)).getD i .zero).channel = ch.hwValue := by
  obtain ⟨hnodup, hreg⟩ := band_numbers hreq b
  have hnumbers := hperm.map Channel.hwValue
  apply entry_unique (hnumbers.nodup_iff.mpr hnodup)
  · intro n hn
    exact registered_pos b n (hreg n (hnumbers.mem_iff.mp hn))
  · exact hperm.mem_iff.mpr (List.mem_filter.mpr ⟨hch, by simpa using hband⟩)

/-- What the tables hold when the 5 GHz channels fit. -/
theorem scanCmdComplete_of_fits (hreq : ScanRequestOk req)
    (hfits : (req.filter (·.band = .ghz5)).length ≤ maxChannels5ghz) :
    ScanCmdComplete conf type nSsids req
      (wlcoreSetScanChanParams conf type nSsids req .zero).2 := by
  have h2 := segments2_length nSsids hreq
  have h5 : (segments5 nSsids req).length ≤ 24 := segments5_perm.length_eq ▸ hfits
  have ht2 : ∀ i, filled conf type nSsids 14 (segments2 nSsids req) i =
      ((segments2 nSsids req).map (chanEntry conf type nSsids)).getD i .zero := by
    intro i
    rw [filled_apply, List.take_of_length_le h2]
  have ht5 : ∀ i, filled conf type nSsids 24 (segments5 nSsids req) i =
      ((segments5 nSsids req).map (chanEntry conf type nSsids)).getD i .zero := by
    intro i
    rw [filled_apply, List.take_of_length_le h5]
  have hlen2 := h2
  have hlen5 := h5
  simp only [segments2, segments5, List.length_append] at hlen2 hlen5
  rw [wlcoreSetScanChanParams_eq hreq]
  exact
    { passive0 := by simp; omega
      active0 := by simp; omega
      passive1 := by simp; omega
      dfs := by simp; omega
      active1 := by simp; omega
      channels2 := ht2
      channels5 := ht5
      once := by
        intro ch hch
        cases hband : ch.band with
        | ghz2 =>
          simp only [scanTable, ht2]
          exact band_entry_unique hreq (segments2_perm hreq) hch hband
        | ghz5 =>
          simp only [scanTable, ht5]
          exact band_entry_unique hreq segments5_perm hch hband
      within2 := fun i hi => filled_of_le (by simp; exact Or.inl hi)
      within5 := fun i hi => filled_of_le (by simp; exact Or.inl hi) }

/-- For every request of registered channels, and with any number of SSIDs, the tables hold the
whole request exactly when its 5 GHz channels fit. -/
theorem scanTables_complete_iff (conf : ScanConf) (type : ScanType) (nSsids : ℕ)
    (req : List Channel) (hreq : ScanRequestOk req) :
    ScanCmdComplete conf type nSsids req
        (wlcoreSetScanChanParams conf type nSsids req .zero).2 ↔
      (req.filter (·.band = .ghz5)).length ≤ maxChannels5ghz := by
  constructor
  · intro h
    have h1 := h.passive1
    have h2 := h.dfs
    have h3 := h.active1
    rw [wlcoreSetScanChanParams_eq hreq] at h1 h2 h3
    have hperm : (segments5 nSsids req).Perm (req.filter (·.band = .ghz5)) := segments5_perm
    rw [← hperm.length_eq]
    simp only [segments5, maxChannels5ghz, List.length_append, List.length_take] at h1 h2 h3 ⊢
    omega
  · exact scanCmdComplete_of_fits hreq

end Tables

/-- A channel as the driver registers it, without a regulatory restriction. -/
def plainChannel (b : Band) (n : ℕ) : Channel :=
  { band := b, hwValue := n, maxPower := 25, disabled := false, passiveScan := false
    radar := false }

/-- A request for channel 1, channel 36 and the DFS channel 100. -/
def threeChannels : List Channel :=
  [{ plainChannel .ghz5 100 with radar := true }, plainChannel .ghz2 1, plainChannel .ghz5 36]

theorem threeChannels_ok : ScanRequestOk threeChannels :=
  { distinct := by decide
    registered := by decide
    enabled := by decide
    radar := by decide }

theorem scanTables_complete_three :
    ScanRequestOk threeChannels ∧
      ScanCmdComplete wl18xxScanConf .search 1 threeChannels
        (wlcoreSetScanChanParams wl18xxScanConf .search 1 threeChannels .zero).2 :=
  ⟨threeChannels_ok,
    (scanTables_complete_iff wl18xxScanConf .search 1 threeChannels threeChannels_ok).mpr
      (by decide)⟩

/-- A request for all registered 5 GHz channels. -/
def allChannels5ghz : List Channel := wl1271Channels5ghz.map (plainChannel .ghz5)

/-- The last ten channels of that request are not in the command, and no error is reported. -/
theorem scanTables_drop :
    ScanRequestOk allChannels5ghz ∧
    ¬ ScanCmdComplete wl18xxScanConf .search 1 allChannels5ghz
        (wlcoreSetScanChanParams wl18xxScanConf .search 1 allChannels5ghz .zero).2 ∧
    (wlcoreSetScanChanParams wl18xxScanConf .search 1 allChannels5ghz .zero).1 = true ∧
    (loadAt (wlcoreSetScanChanParams wl18xxScanConf .search 1 allChannels5ghz .zero).2.channels5
      0 25).map ConnScanChParams.channel = wl1271Channels5ghz.take 24 ++ [0] := by
  refine ⟨⟨?_, ?_, ?_, ?_⟩, ?_, ?_, ?_⟩
  · decide
  · decide
  · decide
  · decide
  · intro h
    exact absurd h.active1 (by decide)
  · decide
  · decide

end TiWlan.Iface
