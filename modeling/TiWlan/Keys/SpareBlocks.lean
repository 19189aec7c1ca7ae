import TiWlan.Lib.Run
import TiWlan.Driver.Keys

/-!
# Spare blocks and installed keys on wl18xx

`wl18xx_set_key` (`wl18xx/main.c`, lines 1240–1285) raises the number of spare memory
blocks when the first TKIP or GEM key is set and lowers it when the last one is
removed. The state it keeps for that is `priv->extra_spare_vif_count`, which it only
moves between 0 and 1: the second key of that kind is not counted.

A run performs successful `wl18xx_set_key` calls after `wl18xx_hw_init`; the ghost
`installed` lists the keys that are set. Main results:

* `spareAgrees_iff_lastDisabled`: the spare blocks agree with the installed keys in
  every state of a run exactly if no TKIP or GEM key is disabled while another one is
  installed;
* `spare_lost_with_two_keys`: a run in which they do not.
-/

namespace TiWlan.Keys

open TiWlan.Lib TiWlan.Driver

variable {op : KeyOp} {s : KeySys} {wl : Wl1271}

/-- The arguments that identify a key: vif, station (none for a group key), key. -/
structure KeyReq where
  vif : VifId
  sta : Option KeySta
  conf : KeyConf
  deriving DecidableEq

/-- The driver with the keys that mac80211 has installed. -/
structure KeySys where
  wl : Wl1271
  installed : List KeyReq

/-- One call of `wl18xx_set_key`. -/
structure KeyOp where
  cmd : SetKeyCmd
  req : KeyReq
  env : SetKeyEnv := {}

/-- The call itself. -/
def KeyOp.call (s : KeySys) (op : KeyOp) : Except Errno Unit × Wl1271 :=
  wl18xxSetKey s.wl op.cmd op.req.vif op.req.sta op.req.conf op.env

/-- The state after a call. -/
def keyStep (s : KeySys) (op : KeyOp) : KeySys :=
  { wl := (op.call s).2
    installed :=
      match op.cmd with
      | .setKey => op.req :: s.installed
      | .disableKey => s.installed.erase op.req }

/-- The call succeeds, sets only new keys and disables only installed ones. -/
def KeyOp.Legit (s : KeySys) (op : KeyOp) : Prop :=
  (op.call s).1 = .ok () ∧
    match op.cmd with
    | .setKey => op.req ∉ s.installed
    | .disableKey => op.req ∈ s.installed

/-- The installed keys that need an extra spare block. -/
def extraKeys (l : List KeyReq) : ℕ := l.countP fun r => needsExtraSpare r.conf.cipher

/-- What the driver reserves and what the firmware was told agree with the keys. -/
def SpareAgrees (s : KeySys) : Prop :=
  let spare := if 0 < extraKeys s.installed then wl18xxTxHwExtraBlockSpare
    else wl18xxTxHwBlockSpare
  (∀ isGem, wlcoreHwGetSpareBlocks s.wl isGem = spare) ∧ s.wl.fwSpareBlocks = spare

/-- A TKIP or GEM key is disabled only when it is the last one. -/
def KeyOp.LastDisabled (s : KeySys) (op : KeyOp) : Prop :=
  op.cmd = .disableKey → needsExtraSpare op.req.conf.cipher → extraKeys s.installed = 1

/-! ## One call -/

/-- The counter is 0 or 1 and the firmware was told the value that belongs to it. -/
structure SpareInv (s : KeySys) : Prop where
  chip : s.wl.chip = .wl18xx
  count : (s.wl.extraSpareVifCount = 0 ∧ s.wl.fwSpareBlocks = wl18xxTxHwBlockSpare) ∨
    (s.wl.extraSpareVifCount = 1 ∧ s.wl.fwSpareBlocks = wl18xxTxHwExtraBlockSpare)

theorem spareAgrees_iff (h : SpareInv s) :
    SpareAgrees s ↔ (s.wl.extraSpareVifCount = 1 ↔ 0 < extraKeys s.installed) := by
  have hspare : ∀ isGem, wlcoreHwGetSpareBlocks s.wl isGem = s.wl.fwSpareBlocks := by
    intro isGem
    simp only [wlcoreHwGetSpareBlocks, h.chip]
    rcases h.count with ⟨hc, hf⟩ | ⟨hc, hf⟩ <;> simp [hc, hf] <;> rfl
  simp only [SpareAgrees, hspare, forall_const, and_self]
  rcases h.count with ⟨hc, hf⟩ | ⟨hc, hf⟩ <;> rw [hc, hf] <;>
    simp [wl18xxTxHwExtraBlockSpare, wl18xxTxHwBlockSpare]

/-- The private data after a call that changes the spare blocks. -/
def spareAfter (p : ChipPriv) : SetKeyCmd → ChipPriv
  | .setKey => { p with
      extraSpareVifCount := p.extraSpareVifCount + 1
      fwSpareBlocks := wl18xxTxHwExtraBlockSpare }
  | .disableKey => { p with
      extraSpareVifCount := p.extraSpareVifCount - 1
      fwSpareBlocks := wl18xxTxHwBlockSpare }

/-- The configuration and the private data after a successful call. -/
theorem wl18xxSetKey_ok {wl' : Wl1271} {cmd : SetKeyCmd} {v : VifId} {sta : Option KeySta}
    {k : KeyConf} {env : SetKeyEnv} (h : wl18xxSetKey wl cmd v sta k env = (.ok (), wl')) :
    wl'.toConf = wl.toConf ∧
      wl'.toChipPriv = if changeSpare wl cmd k then spareAfter wl.toChipPriv cmd
        else wl.toChipPriv := by
  obtain ⟨hconf, hpriv⟩ := wlcoreSetKey_conf_priv wl v cmd sta k env
  unfold wl18xxSetKey at h
  by_cases hc : changeSpare wl cmd k
  · rw [if_neg (by simp [hc])] at h
    rw [if_pos hc]
    generalize wlcoreSetKey wl cmd v sta k env = r at h hconf hpriv
    obtain ⟨ret, wl₁⟩ := r
    rw [← hconf, ← hpriv]
    -- only a successful key command and host configuration return `ok`
    cases ret <;> cases cmd <;> cases hcfg : env.hostCfg <;>
      simp only [wl18xxSetHostCfgBitmap, runCmd, hcfg, Prod.mk.injEq, reduceCtorEq,
        false_and] at h <;>
      obtain ⟨-, rfl⟩ := h <;> exact ⟨rfl, rfl⟩
  · rw [if_pos (by simp [hc])] at h
    rw [if_neg hc]
    rw [h] at hconf hpriv
    exact ⟨hconf, hpriv⟩

theorem KeyOp.Legit.call_eq (hl : op.Legit s) :
    wl18xxSetKey s.wl op.cmd op.req.vif op.req.sta op.req.conf op.env =
      (.ok (), (keyStep s op).wl) :=
  Prod.ext hl.1 rfl

theorem keyStep_spareInv (h : SpareInv s) (hl : op.Legit s) : SpareInv (keyStep s op) := by
  obtain ⟨hconf, hpriv⟩ := wl18xxSetKey_ok hl.call_eq
  have hcount := congrArg ChipPriv.extraSpareVifCount hpriv
  have hfw := congrArg ChipPriv.fwSpareBlocks hpriv
  refine ⟨(congrArg Conf.chip hconf).trans h.chip, ?_⟩
  rw [hcount, hfw]
  have hinv := h.count
  cases hcmd : op.cmd <;> split_ifs with hc <;>
    simp only [changeSpare, spareAfter, Bool.and_eq_true, Bool.or_eq_true, decide_eq_true_eq,
      reduceCtorEq, and_true, and_false, or_false, false_or] at hc ⊢ <;>
    omega

theorem extraKeys_cons (r : KeyReq) (l : List KeyReq) :
    extraKeys (r :: l) = extraKeys l + if needsExtraSpare r.conf.cipher then 1 else 0 := by
  simp [extraKeys, List.countP_cons]

theorem extraKeys_erase {r : KeyReq} {l : List KeyReq} (h : r ∈ l) :
    extraKeys (l.erase r) + (if needsExtraSpare r.conf.cipher then 1 else 0) = extraKeys l := by
  rw [← extraKeys_cons]
  exact ((List.perm_cons_erase h).countP_eq _).symm

/-- From a state that agrees, a call leads to a state that agrees exactly if it does not
disable one of several TKIP or GEM keys. -/
theorem keyStep_spareAgrees (h : SpareInv s) (hl : op.Legit s) (ha : SpareAgrees s) :
    SpareAgrees (keyStep s op) ↔ op.LastDisabled s := by
  have hcount := congrArg ChipPriv.extraSpareVifCount (wl18xxSetKey_ok hl.call_eq).2
  rw [spareAgrees_iff h] at ha
  rw [spareAgrees_iff (keyStep_spareInv h hl), hcount]
  obtain ⟨-, hmem⟩ := hl
  have hinv := h.count
  obtain ⟨cmd, req, env⟩ := op
  cases cmd with
  | setKey =>
    simp only [keyStep, KeyOp.LastDisabled, reduceCtorEq, false_implies, iff_true,
      extraKeys_cons]
    by_cases he : needsExtraSpare req.conf.cipher <;>
      by_cases hz : s.wl.extraSpareVifCount = 0 <;>
      simp [changeSpare, spareAfter, he, hz] <;> omega
  | disableKey =>
    have herase := extraKeys_erase hmem
    simp only [keyStep, KeyOp.LastDisabled, forall_const]
    by_cases he : needsExtraSpare req.conf.cipher <;>
      by_cases hz : s.wl.extraSpareVifCount = 1 <;>
      simp [changeSpare, spareAfter, he, hz] at herase ⊢ <;> omega

/-! ## Runs -/

/-- The state after `wl18xx_hw_init`, with no key installed. -/
def keyInit (wl : Wl1271) : KeySys := { wl := hwInitPriv wl, installed := [] }

theorem keyInit_spareInv (h : wl.chip = .wl18xx) : SpareInv (keyInit wl) := by
  have hwl : (keyInit wl).wl =
      { wl with lastFwRlsIdx := 0, extraSpareVifCount := 0, fwSpareBlocks := 1 } := by
    simp [keyInit, hwInitPriv, h]
  exact ⟨by rw [hwl]; exact h, Or.inl ⟨by rw [hwl], by rw [hwl]; rfl⟩⟩

theorem keyInit_spareAgrees (h : wl.chip = .wl18xx) : SpareAgrees (keyInit wl) := by
  rw [spareAgrees_iff (keyInit_spareInv h)]
  simp [keyInit, hwInitPriv, h, extraKeys]

/-- The spare blocks agree with the installed keys in every state of a run of successful
calls exactly if no TKIP or GEM key is disabled while another one is installed. -/
theorem spareAgrees_iff_lastDisabled (wl : Wl1271) (hchip : wl.chip = .wl18xx)
    (ops : List KeyOp) (hops : Along keyStep (fun s op => op.Legit s) (keyInit wl) ops) :
    (∀ n, SpareAgrees (run keyStep (keyInit wl) (ops.take n))) ↔
      Along keyStep (fun s op => op.LastDisabled s) (keyInit wl) ops :=
  forall_take_iff_along (fun _ _ => keyStep_spareInv) (fun _ _ => keyStep_spareAgrees)
    (keyInit_spareInv hchip) (keyInit_spareAgrees hchip) hops

/-- A wl18xx driver with one started AP vif. -/
def apDriver : Wl1271 :=
  (wlcoreProbe (chipConf .wl18xx)).setVif 0 fun w =>
    { w with bssType := .apBss, apStarted := true, apBcastHlid := some 2 }

/-- The TKIP key of the station on a link. -/
def stationKey (h : Hlid) : KeyReq :=
  ⟨0, some ⟨h, false⟩, { id := h.val, cipher := .tkip, keyidx := 0 }⟩

/-- Setting the TKIP keys of two stations of the AP and disabling the first. -/
def twoStationsOps : List KeyOp :=
  [⟨.setKey, stationKey 3, {}⟩, ⟨.setKey, stationKey 4, {}⟩, ⟨.disableKey, stationKey 3, {}⟩]

/-- The last call leaves the second station's TKIP key installed with a single spare block
in the driver and in the firmware. -/
theorem spare_lost_with_two_keys :
    Along keyStep (fun s op => op.Legit s) (keyInit apDriver) twoStationsOps ∧
      extraKeys (run keyStep (keyInit apDriver) twoStationsOps).installed = 1 ∧
      wlcoreHwGetSpareBlocks (run keyStep (keyInit apDriver) twoStationsOps).wl false =
        wl18xxTxHwBlockSpare ∧
      (run keyStep (keyInit apDriver) twoStationsOps).wl.fwSpareBlocks =
        wl18xxTxHwBlockSpare := by
  refine ⟨⟨⟨rfl, ?_⟩, ⟨rfl, ?_⟩, ⟨rfl, ?_⟩, trivial⟩, ?_, rfl, rfl⟩ <;> decide

/-- One station's key alone comes and goes with its spare block. -/
theorem spareAgrees_single_station :
    Along keyStep (fun s op => op.Legit s) (keyInit apDriver)
        [⟨.setKey, stationKey 3, {}⟩, ⟨.disableKey, stationKey 3, {}⟩] ∧
      ∀ n, SpareAgrees (run keyStep (keyInit apDriver)
        (List.take n [⟨.setKey, stationKey 3, {}⟩, ⟨.disableKey, stationKey 3, {}⟩])) := by
  have hlegit : Along keyStep (fun s op => op.Legit s) (keyInit apDriver)
      [⟨.setKey, stationKey 3, {}⟩, ⟨.disableKey, stationKey 3, {}⟩] := by
    refine ⟨⟨rfl, ?_⟩, ⟨rfl, ?_⟩, trivial⟩ <;> decide
  refine ⟨hlegit, (spareAgrees_iff_lastDisabled apDriver rfl _ hlegit).mpr ?_⟩
  exact ⟨by rintro ⟨⟩, fun _ _ => rfl, trivial⟩

end TiWlan.Keys
