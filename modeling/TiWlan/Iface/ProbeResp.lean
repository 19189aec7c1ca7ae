import TiWlan.Driver.Templates

/-!
# The probe response of an AP

What `wlcore_set_beacon_template` (`wlcore/main.c`, lines 3736–3821) sends as the probe response of
an AP, for beacons with any sequence of elements. `wl12xx_remove_ie` and `wl12xx_remove_vendor_ie`
each remove one element, the first that is found, so a second TIM or P2P element stays; and
`wl1271_cmd_template_set` cuts a template off at 512 bytes.

Results:

* `probeRespFrame_encode`: the frame has the elements without the first TIM and the first P2P one.
* `sent_apProbeResponse`: the data of the command.
* `apProbeResponse_elements_iff`: the beacons for which the probe response has the elements that it
  should have.
-/

namespace TiWlan.Iface

open TiWlan.Driver TiWlan.Lib TiWlan.Lib.Tlv

/-! ## The elements -/

def isSsid (e : Tlv) : Bool := hasEid eidSsid e.id e.data

def isTim (e : Tlv) : Bool := hasEid eidTim e.id e.data

def isP2p (e : Tlv) : Bool := hasVendor ouiWfa ouiTypeWfaP2p e.id e.data

/-- Elements that a probe response takes over from the beacon. -/
def stays (e : Tlv) : Bool := !isTim e && !isP2p e

/-- The SSID element of `bss_conf`'s SSID. -/
def ssidElement (ssid : Ssid) : Tlv :=
  ⟨eidSsid, ssid.1, le_trans ssid.2 (by decide)⟩

/-- An SSID element is replaced by the one of `bss_conf`. -/
def swapSsid (ssid : Ssid) (e : Tlv) : Option Tlv :=
  if isSsid e then some (ssidElement ssid) else none

/-- The elements that the probe response to a beacon should have: those of the beacon without TIM
and P2P elements, and with `bss_conf`'s SSID if the beacon's SSID `s` is empty. -/
def probeRespElements (bssSsid : Ssid) (s : Tlv) (es : List Tlv) : List Tlv :=
  if s.data = [] then (es.filter stays).replaceF (swapSsid bssSsid) else es.filter stays

/-- What is left of the elements when the first TIM and the first P2P one are removed. -/
def removeFirst (es : List Tlv) : List Tlv := (es.eraseP isTim).eraseP isP2p

/-- No element is sent that should not be, and none is cut off. With an SSID of its own a beacon
may be too long: then what is cut off have to be TIM and P2P elements alone. -/
def Derivable (s : Tlv) (es : List Tlv) : Prop :=
  if s.data = [] then ∀ e ∈ removeFirst es, stays e
  else ∃ pre post, removeFirst es = pre ++ post ∧ (∀ e ∈ pre, stays e) ∧
    (∀ e ∈ post, stays e = false) ∧
    (post = [] ∧ ieOffset + (encode pre).length ≤ cmdTemplMaxSize ∨
      ieOffset + (encode pre).length = cmdTemplMaxSize)

theorem filter_eraseP {p q : Tlv → Bool} (h : ∀ e, p e = true → q e = false) (es : List Tlv) :
    (es.eraseP p).filter q = es.filter q := by
  induction es with
  | nil => rfl
  | cons e es ih =>
    by_cases he : p e
    · rw [List.eraseP_cons_of_pos he, List.filter_cons_of_neg (by rw [h e he]; decide)]
    · rw [List.eraseP_cons_of_neg he, List.filter_cons, List.filter_cons, ih]

/-- The elements that are removed should be. -/
theorem filter_removeFirst (es : List Tlv) : (removeFirst es).filter stays = es.filter stays := by
  rw [removeFirst, filter_eraseP (fun e he => by simp [stays, he]),
    filter_eraseP (fun e he => by simp [stays, he])]

theorem filter_stays_of_append {pre post : List Tlv} (hpre : ∀ e ∈ pre, stays e)
    (hpost : ∀ e ∈ post, stays e = false) : (pre ++ post).filter stays = pre := by
  rw [List.filter_append, List.filter_eq_self.mpr hpre,
    List.filter_eq_nil_iff.mpr (fun e he => by rw [hpost e he]; decide), List.append_nil]

/-- An SSID element is neither a TIM nor a P2P one. -/
theorem stays_of_isSsid {e : Tlv} (h : isSsid e = true) : isTim e = false ∧ isP2p e = false := by
  have hid : e.id = eidSsid := by simpa [isSsid, hasEid] using h
  constructor
  · simp [isTim, hasEid, hid, eidSsid, eidTim]
  · simp [isP2p, hasVendor, hid, eidSsid, eidVendorSpecific]

theorem find?_eraseP {p q : Tlv → Bool} (h : ∀ e, q e = true → p e = false) (es : List Tlv) :
    (es.eraseP p).find? q = es.find? q := by
  induction es with
  | nil => rfl
  | cons e es ih =>
    by_cases he : p e
    · have hq : ¬q e = true := fun hqe => by rw [h e hqe] at he; cases he
      rw [List.eraseP_cons_of_pos he, List.find?_cons_of_neg hq]
    · rw [List.eraseP_cons_of_neg he, List.find?_cons, List.find?_cons, ih]

/-- The SSID is the same in what is left. -/
theorem find?_removeFirst (es : List Tlv) : (removeFirst es).find? isSsid = es.find? isSsid := by
  rw [removeFirst, find?_eraseP (fun e he => (stays_of_isSsid he).2),
    find?_eraseP (fun e he => (stays_of_isSsid he).1)]

/-! ## The frame -/

section
variable {header : List UInt8} {es : List Tlv}

/-- Removing what is found is removing the first element with the property. -/
theorem removeFound_encode (p : Tlv → Bool) (hheader : header.length = ieOffset) :
    removeFound (header ++ encode es) ieOffset (offsetOf p es) =
      header ++ encode (es.eraseP p) := by
  rw [← hheader]
  cases hfind : es.find? p with
  | none =>
    have hnone : ∀ e ∈ es, ¬p e = true := List.find?_eq_none.mp hfind
    rw [offsetOf_of_forall_not fun e he => Bool.eq_false_of_not_eq_true (hnone e he), removeFound,
      List.eraseP_of_forall_not hnone]
  | some e =>
    obtain ⟨pre, post, rfl, hpre, he⟩ := exists_append_of_find? hfind
    have hpre' : ∀ x ∈ pre, ¬p x = true := fun x hx => by rw [hpre x hx]; decide
    rw [offsetOf_append hpre he]
    simp only [removeFound]
    rw [getD_at, take_at, drop_behind, List.eraseP_append_right _ hpre',
      List.eraseP_cons_of_pos he, encode_append, List.append_assoc]

theorem drop_header (hheader : header.length = ieOffset) (l : List UInt8) :
    (header ++ l).drop ieOffset = l := by
  rw [← hheader, List.drop_left]

theorem wl12xxRemoveIe_encode (find : FindIe) (hheader : header.length = ieOffset) :
    wl12xxRemoveIe find (header ++ encode es) eidTim ieOffset =
      header ++ encode (es.eraseP isTim) := by
  rw [wl12xxRemoveIe, drop_header hheader, find.findIe_encode]
  exact removeFound_encode isTim hheader

theorem wl12xxRemoveVendorIe_encode (find : FindIe) (hheader : header.length = ieOffset) :
    wl12xxRemoveVendorIe find (header ++ encode es) ouiWfa ouiTypeWfaP2p ieOffset =
      header ++ encode (es.eraseP isP2p) := by
  rw [wl12xxRemoveVendorIe, drop_header hheader, find.findVendorIe_encode]
  exact removeFound_encode isP2p hheader

theorem length_setProbeResp (hheader : header.length = ieOffset) :
    (setProbeResp header).length = ieOffset := by
  rw [setProbeResp, List.length_append, List.length_drop, hheader]
  rfl

theorem probeRespFrame_encode (find : FindIe) (hheader : header.length = ieOffset) :
    probeRespFrame find (header ++ encode es) = setProbeResp header ++ encode (removeFirst es) := by
  simp only [probeRespFrame]
  rw [wl12xxRemoveIe_encode find hheader, wl12xxRemoveVendorIe_encode find hheader, setProbeResp,
    List.drop_append_of_le_length (by rw [hheader]; decide), ← List.append_assoc]
  rfl

theorem replaceF_append {ssid : Ssid} {pre : List Tlv} (hpre : ∀ x ∈ pre, isSsid x = false)
    {e : Tlv} (he : isSsid e = true) (post : List Tlv) :
    (pre ++ e :: post).replaceF (swapSsid ssid) = pre ++ ssidElement ssid :: post := by
  induction pre with
  | nil => exact List.replaceF_cons_of_some _ (by rw [swapSsid, if_pos he])
  | cons x pre ih =>
    rw [List.forall_mem_cons] at hpre
    rw [List.cons_append, List.replaceF_cons_of_none _ (by rw [swapSsid, hpre.1]; rfl), ih hpre.2]
    rfl

section
variable {s : Tlv} (hs : es.find? isSsid = some s)
include hs

/-- Where the SSID is found, the element of the other SSID is put in its place. -/
theorem insertSsid_encode (find : FindIe) (hheader : header.length = ieOffset) (ssid : Ssid) :
    ∃ off, find.findIe eidSsid (encode es) = some off ∧
      insertSsid (header ++ encode es) (ieOffset + off) ssid =
        header ++ encode (es.replaceF (swapSsid ssid)) := by
  obtain ⟨pre, post, rfl, hpre, he⟩ := exists_append_of_find? hs
  refine ⟨_, (find.findIe_encode _ _).trans (offsetOf_append hpre he post), ?_⟩
  rw [replaceF_append hpre he, ← hheader]
  simp only [insertSsid]
  rw [getD_at, take_at, drop_behind, encode_append, encode_cons]
  simp [bytes, ssidElement]

/-- An empty SSID element grows by the length of the SSID that replaces it. -/
theorem length_encode_replaceF (ssid : Ssid) (hempty : s.data = []) :
    (encode (es.replaceF (swapSsid ssid))).length = (encode es).length + ssid.1.length := by
  obtain ⟨pre, post, rfl, hpre, he⟩ := exists_append_of_find? hs
  rw [replaceF_append hpre he]
  simp [ssidElement, hempty]
  omega

theorem wl1271SsidSet_encode (find : FindIe) (hheader : header.length = ieOffset)
    (t : Templates) :
    wl1271SsidSet find (header ++ encode es) ieOffset t =
      if maxSsidLen < s.data.length then (-IoErrno.einval.code, t)
      else (0, { t with ssid := s.data }) := by
  obtain ⟨pre, post, rfl, hpre, he⟩ := exists_append_of_find? hs
  have hfind := (find.findIe_encode eidSsid _).trans (offsetOf_append hpre he post)
  rw [wl1271SsidSet, drop_header hheader, hfind, ← hheader]
  simp only
  rw [getD_at, data_at]

end

end

/-! ## The commands -/

theorem mem_sent_templateSet {env : TemplateEnv} {roleId index rates : ℕ} {id : TemplateId}
    {buf : List UInt8} {t : Templates} {cmd : TemplateCmd}
    (h : cmd ∈ (wl1271CmdTemplateSet env roleId id buf index rates t).2.sent) :
    cmd ∈ t.sent ∨ cmd.templateType = id ∧ cmd.templateData = buf.take cmdTemplMaxSize := by
  rw [wl1271CmdTemplateSet] at h
  split at h
  · exact Or.inl h
  · rcases List.mem_append.mp h with h | h
    · exact Or.inl h
    · rw [List.mem_singleton] at h
      subst h
      exact Or.inr ⟨rfl, rfl⟩

theorem ssid_templateSet (env : TemplateEnv) (roleId : ℕ) (id : TemplateId) (buf : List UInt8)
    (index rates : ℕ) (t : Templates) :
    (wl1271CmdTemplateSet env roleId id buf index rates t).2.ssid = t.ssid := by
  rw [wl1271CmdTemplateSet]
  split <;> rfl

/-- The template that is made of a frame: the frame itself, or if the SSID is empty and there is
room for it, the frame with `bss_conf`'s SSID. -/
theorem mem_sent_legacy {find : FindIe} {env : TemplateEnv} {vif : BeaconVif} {rates : ℕ}
    {t : Templates} {cmd : TemplateCmd} {header : List UInt8} (hheader : header.length = ieOffset)
    {es : List Tlv} {s : Tlv} (hs : es.find? isSsid = some s) (ht : t.ssid = s.data)
    (h : cmd ∈ (wl1271ApSetProbeRespTmplLegacy find env vif (header ++ encode es) rates t).2.sent) :
    cmd ∈ t.sent ∨
      (s.data ≠ [] ∧ cmd.templateData = (header ++ encode es).take cmdTemplMaxSize) ∨
      (s.data = [] ∧
        cmd.templateData = header ++ encode (es.replaceF (swapSsid vif.bssSsid)) ∧
        cmd.templateData.length ≤ cmdTemplMaxSize) := by
  rw [wl1271ApSetProbeRespTmplLegacy, ht] at h
  by_cases hempty : s.data = []
  · obtain ⟨off, hoff, hinsert⟩ := insertSsid_encode hs find hheader vif.bssSsid
    have hlen := length_encode_replaceF hs vif.bssSsid hempty
    rw [if_neg (by simp [hempty]), drop_header hheader, hoff] at h
    split at h
    · exact Or.inl h
    · rename_i hroom
      rw [List.length_append] at hroom
      simp only [hinsert] at h
      have hfits : (header ++ encode (es.replaceF (swapSsid vif.bssSsid))).length ≤
          cmdTemplMaxSize := by
        rw [List.length_append]
        omega
      rcases mem_sent_templateSet h with h | ⟨-, hdata⟩
      · exact Or.inl h
      · rw [List.take_of_length_le hfits] at hdata
        exact Or.inr (Or.inr ⟨hempty, hdata, hdata ▸ hfits⟩)
  · rw [if_pos (List.length_pos_iff.mpr hempty)] at h
    rcases mem_sent_templateSet h with h | ⟨-, hdata⟩
    · exact Or.inl h
    · exact Or.inr (Or.inl ⟨hempty, hdata⟩)

/-- The data of the probe response, for every beacon and every outcome of the commands. -/
theorem sent_apProbeResponse {find : FindIe} {env : TemplateEnv} {vif : BeaconVif}
    (hset : vif.apProbeRespSet = false) {header : List UInt8} (hheader : header.length = ieOffset)
    {es : List Tlv} {s : Tlv} (hs : es.find? isSsid = some s) {ssid : List UInt8} {wmm : Bool}
    {cmd : TemplateCmd}
    (hcmd : cmd ∈ (wlcoreSetBeaconTemplate find env vif true (some (header ++ encode es))
      ⟨ssid, wmm, []⟩).2.sent) (htype : cmd.templateType = .apProbeResponse) :
    (s.data ≠ [] ∧ cmd.templateData =
        (setProbeResp header ++ encode (removeFirst es)).take cmdTemplMaxSize) ∨
      (s.data = [] ∧ cmd.templateData = setProbeResp header ++
          encode ((removeFirst es).replaceF (swapSsid vif.bssSsid)) ∧
        cmd.templateData.length ≤ cmdTemplMaxSize) := by
  rw [wlcoreSetBeaconTemplate, wl1271SsidSet_encode hs find hheader] at hcmd
  split at hcmd
  · cases hcmd
  rw [proceed_of_nonneg (le_refl 0)] at hcmd
  simp only [if_true] at hcmd
  -- the command before the probe response is the one of the beacon
  set r := wl1271CmdTemplateSet env vif.roleId .apBeacon (header ++ encode es) 0 vif.minRate
    ⟨s.data, wmm, []⟩
  have hbeacon : cmd ∉ r.2.sent := fun h => by
    rcases mem_sent_templateSet h with h | ⟨h, -⟩
    · cases h
    · rw [htype] at h
      cases h
  have hssid : r.2.ssid = s.data := ssid_templateSet ..
  rw [proceed] at hcmd
  split at hcmd
  · exact absurd hcmd hbeacon
  simp only [setProbeRespTemplate, hset, if_true, Bool.false_eq_true, if_false] at hcmd
  rw [probeRespFrame_encode find hheader] at hcmd
  have hlegacy := mem_sent_legacy (length_setProbeResp hheader) ((find?_removeFirst es).trans hs)
    (by exact hssid) hcmd
  exact hlegacy.resolve_left hbeacon

/-! ## The elements that are sent -/

/-- Elements that are cut off at `room` bytes are those that stay, exactly if the others are behind
the cut. -/
theorem take_encode_iff (es : List Tlv) (room : ℕ) :
    (encode es).take room = encode (es.filter stays) ↔
      ∃ pre post, es = pre ++ post ∧ (∀ e ∈ pre, stays e) ∧ (∀ e ∈ post, stays e = false) ∧
        (post = [] ∧ (encode pre).length ≤ room ∨ (encode pre).length = room) := by
  constructor
  · intro h
    obtain ⟨post, hpost⟩ := prefix_of_encode (h ▸ List.take_prefix room (encode es))
    have hnone : post.filter stays = [] := by
      have hfilter := congrArg (List.filter stays) hpost
      rw [List.filter_append, List.filter_filter] at hfilter
      simpa using hfilter
    refine ⟨es.filter stays, post, hpost.symm, fun e he => (List.mem_filter.mp he).2,
      fun e he => Bool.eq_false_of_not_eq_true (List.filter_eq_nil_iff.mp hnone e he), ?_⟩
    by_cases hroom : (encode es).length ≤ room
    · -- nothing is cut off
      rw [List.take_of_length_le hroom] at h
      have hes := encode_injective h
      rw [← hes] at hpost ⊢
      exact Or.inl ⟨by simpa using hpost, hroom⟩
    · right
      rw [← h, List.length_take]
      omega
  · rintro ⟨pre, post, rfl, hpre, hpost, hroom⟩
    rw [filter_stays_of_append hpre hpost]
    rcases hroom with ⟨rfl, hroom⟩ | hroom
    · rw [List.append_nil, List.take_of_length_le hroom]
    · rw [encode_append, ← hroom, List.take_left]

/-- Replacing the SSID does not hide an element that should have been removed. -/
theorem replaceF_filter_iff (ssid : Ssid) (es : List Tlv) :
    es.replaceF (swapSsid ssid) = (es.filter stays).replaceF (swapSsid ssid) ↔
      ∀ e ∈ es, stays e := by
  constructor
  · intro h
    have hlen := congrArg List.length h
    rw [List.length_replaceF, List.length_replaceF] at hlen
    exact List.length_filter_eq_length_iff.mp hlen.symm
  · intro h
    rw [List.filter_eq_self.mpr h]

/-- The probe response of an AP has the elements of the beacon in their order, without TIM and P2P
elements and with `bss_conf`'s SSID for an empty one, exactly if the beacon is `Derivable`. It is
never longer than a template. -/
theorem apProbeResponse_elements_iff (find : FindIe) (env : TemplateEnv) (vif : BeaconVif)
    (hset : vif.apProbeRespSet = false) (header : List UInt8) (hheader : header.length = ieOffset)
    (es : List Tlv) (s : Tlv) (hs : es.find? isSsid = some s) (ssid : List UInt8) (wmm : Bool)
    (cmd : TemplateCmd)
    (hcmd : cmd ∈ (wlcoreSetBeaconTemplate find env vif true (some (header ++ encode es))
      ⟨ssid, wmm, []⟩).2.sent) (htype : cmd.templateType = .apProbeResponse) :
    (cmd.templateData.drop ieOffset = encode (probeRespElements vif.bssSsid s es) ∧
      cmd.templateData.length ≤ cmdTemplMaxSize) ↔ Derivable s es := by
  have hheader' := length_setProbeResp hheader
  rw [probeRespElements, Derivable, ← filter_removeFirst]
  rcases sent_apProbeResponse hset hheader hs hcmd htype with ⟨hne, hdata⟩ | ⟨hempty, hdata, hlen⟩
  · rw [if_neg hne, if_neg hne, and_iff_left (by rw [hdata]; exact List.length_take_le ..), hdata,
      List.drop_take, drop_header hheader', take_encode_iff]
    have hroom : ∀ n, (n ≤ cmdTemplMaxSize - ieOffset ↔ ieOffset + n ≤ cmdTemplMaxSize) ∧
        (n = cmdTemplMaxSize - ieOffset ↔ ieOffset + n = cmdTemplMaxSize) := by
      intro n
      simp only [cmdTemplMaxSize, ieOffset]
      omega
    simp only [hroom]
  · rw [if_pos hempty, if_pos hempty, and_iff_left hlen, hdata, drop_header hheader',
      encode_injective.eq_iff, replaceF_filter_iff]

/-- Commands that succeed. -/
def templatesOk : TemplateEnv :=
  { tmplShortRetryLimit := 10, tmplLongRetryLimit := 10, kzalloc := fun _ => true,
    cmdSend := fun _ => 0 }

/-- An AP with the SSID `x`. -/
def apVif : BeaconVif :=
  { roleId := 1, bssSsid := ⟨[120], by decide⟩, apProbeRespSet := false, minRate := 1 }

def p2pElement : Tlv := ⟨eidVendorSpecific, vendorHead ouiWfa ouiTypeWfaP2p, by decide⟩

/-- Elements with an empty SSID, a TIM and a P2P element. -/
def hiddenElements : List Tlv :=
  [⟨eidSsid, [], by decide⟩, ⟨eidTim, [0, 1], by decide⟩, p2pElement, ⟨1, [2], by decide⟩]

theorem apProbeResponse_elements_hidden :
    let cmd : TemplateCmd := ⟨1, .apProbeResponse, 1, 10, 10, 0,
      0x50 :: List.replicate 35 0 ++ [0, 1, 120, 1, 1, 2]⟩
    cmd.templateData.drop ieOffset =
      encode (probeRespElements apVif.bssSsid ⟨eidSsid, [], by decide⟩ hiddenElements) ∧
      cmd.templateData.length ≤ cmdTemplMaxSize := by
  intro cmd
  have hcmd : cmd ∈ (wlcoreSetBeaconTemplate scanIe templatesOk apVif true
      (some (List.replicate 36 0 ++ encode hiddenElements)) ⟨[], false, []⟩).2.sent := by
    decide +kernel
  have hderivable : Derivable ⟨eidSsid, [], by decide⟩ hiddenElements := by
    rw [Derivable, if_pos rfl]
    decide
  exact (apProbeResponse_elements_iff scanIe templatesOk apVif rfl (List.replicate 36 0) rfl
    hiddenElements ⟨eidSsid, [], by decide⟩ rfl [] false cmd hcmd rfl).mpr hderivable

/-- Elements with an SSID and two P2P elements. -/
def twiceP2p : List Tlv := [⟨eidSsid, [120], by decide⟩, p2pElement, p2pElement]

/-- The second P2P element is sent. -/
theorem apProbeResponse_second_p2p :
    let cmd : TemplateCmd := ⟨1, .apProbeResponse, 1, 10, 10, 0,
      0x50 :: List.replicate 35 0 ++ [0, 1, 120, 221, 4, 0x50, 0x6f, 0x9a, 9]⟩
    cmd ∈ (wlcoreSetBeaconTemplate scanIe templatesOk apVif true
      (some (List.replicate 36 0 ++ encode twiceP2p)) ⟨[], false, []⟩).2.sent ∧
    cmd.templateData.drop ieOffset ≠
      encode (probeRespElements apVif.bssSsid ⟨eidSsid, [120], by decide⟩ twiceP2p) := by
  decide +kernel

end TiWlan.Iface
