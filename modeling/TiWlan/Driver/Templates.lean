import TiWlan.Driver.Io
import TiWlan.Driver.SchedScan
import TiWlan.Lib.Status
import TiWlan.Lib.Tlv

/-!
# Beacon and probe response templates

Model of `wlcore_set_beacon_template` and of the functions that derive a probe response from the
beacon (`wlcore/main.c`, lines 3532–3821), and of `wl1271_cmd_template_set` (`wlcore/cmd.c`, lines
976–1021).

A frame is the list of its bytes: removing an element moves what is behind it to the front and
trims the frame. `cfg80211_find_ie` and `cfg80211_find_vendor_ie` are part of the kernel; `FindIe`
says what the driver expects of them, and `scanIe` are functions that do it. The messages of the
driver and `WARN_ON` are left out.
-/

namespace TiWlan.Driver

open TiWlan.Lib

/-! ## Information elements -/

/-- `WLAN_EID_SSID`. -/
def eidSsid : UInt8 := 0

/-- `WLAN_EID_TIM`. -/
def eidTim : UInt8 := 5

/-- `WLAN_EID_VENDOR_SPECIFIC`. -/
def eidVendorSpecific : UInt8 := 221

/-- `WLAN_OUI_WFA`. -/
def ouiWfa : ℕ := 0x506f9a

/-- `WLAN_OUI_TYPE_WFA_P2P`. -/
def ouiTypeWfaP2p : UInt8 := 9

/-- `WLAN_OUI_MICROSOFT`. -/
def ouiMicrosoft : ℕ := 0x0050f2

/-- `WLAN_OUI_TYPE_MICROSOFT_WMM`. -/
def ouiTypeMicrosoftWmm : UInt8 := 2

/-- The first bytes of a vendor specific element: the OUI, its high byte first, and the type. -/
def vendorHead (oui : ℕ) (ouiType : UInt8) : List UInt8 :=
  [UInt8.ofNat (oui / 65536), UInt8.ofNat (oui / 256), UInt8.ofNat oui, ouiType]

def hasEid (eid id : UInt8) (_ : List UInt8) : Bool := id == eid

def hasVendor (oui : ℕ) (ouiType id : UInt8) (data : List UInt8) : Bool :=
  id == eidVendorSpecific && data.take 4 == vendorHead oui ouiType

/-- `cfg80211_find_ie` and `cfg80211_find_vendor_ie`, as offsets into the elements: of the first
element with the id, and of the first one of the vendor. -/
structure FindIe where
  findIe : UInt8 → List UInt8 → Option ℕ
  findVendorIe : ℕ → UInt8 → List UInt8 → Option ℕ
  findIe_encode : ∀ eid es,
    findIe eid (Tlv.encode es) = Tlv.offsetOf (fun e => hasEid eid e.id e.data) es
  findVendorIe_encode : ∀ oui ouiType es, findVendorIe oui ouiType (Tlv.encode es) =
    Tlv.offsetOf (fun e => hasVendor oui ouiType e.id e.data) es

/-- The two functions that walk over the elements. -/
def scanIe : FindIe where
  findIe eid data := Tlv.scan (hasEid eid) data.length data
  findVendorIe oui ouiType data := Tlv.scan (hasVendor oui ouiType) data.length data
  findIe_encode _ es := Tlv.scan_encode _ (Tlv.length_le_encode es)
  findVendorIe_encode _ _ es := Tlv.scan_encode _ (Tlv.length_le_encode es)

/-! ## The template command -/

/-- `WL1271_CMD_TEMPL_MAX_SIZE`. -/
def cmdTemplMaxSize : ℕ := 512

/-- The `CMD_TEMPL_*` of beacons and probe responses. -/
inductive TemplateId
  | beacon | probeResponse | apBeacon | apProbeResponse
  deriving DecidableEq, Repr

/-- `struct wl1271_cmd_template_set`; its `len` is the length of `templateData`. -/
structure TemplateCmd where
  roleId : ℕ
  templateType : TemplateId
  enabledRates : ℕ
  shortRetryLimit : ℕ
  longRetryLimit : ℕ
  index : ℕ
  templateData : List UInt8
  deriving DecidableEq

/-- What the template command depends on: `conf.tx`, whether memory is left, and what
`wl1271_cmd_send` returns after the commands so far. -/
structure TemplateEnv where
  tmplShortRetryLimit : ℕ
  tmplLongRetryLimit : ℕ
  kzalloc : List TemplateCmd → Bool
  cmdSend : List TemplateCmd → ℤ

/-- The fields of `struct wl12xx_vif` that are written, and the commands that were sent. -/
structure Templates where
  ssid : List UInt8
  wmmEnabled : Bool
  sent : List TemplateCmd

/-- `wl1271_cmd_template_set` (cmd.c:976). -/
def wl1271CmdTemplateSet (env : TemplateEnv) (roleId : ℕ) (templateId : TemplateId)
    (buf : List UInt8) (index rates : ℕ) (t : Templates) : ℤ × Templates :=
  if !env.kzalloc t.sent then (-IoErrno.enomem.code, t)
  else
    let cmd : TemplateCmd :=
      { roleId := roleId
        templateType := templateId
        enabledRates := rates
        shortRetryLimit := env.tmplShortRetryLimit
        longRetryLimit := env.tmplLongRetryLimit
        index := index
        -- `buf_len = min_t(size_t, buf_len, WL1271_CMD_TEMPL_MAX_SIZE)`
        templateData := buf.take cmdTemplMaxSize }
    (env.cmdSend t.sent, { t with sent := t.sent ++ [cmd] })

/-! ## From the beacon to the probe response -/

/-- What is read of an interface: its role, `bss_conf.ssid`, `WLVIF_FLAG_AP_PROBE_RESP_SET` and
`wl1271_tx_min_rate_get` of its basic rates. -/
structure BeaconVif where
  roleId : ℕ
  bssSsid : Ssid
  apProbeRespSet : Bool
  minRate : ℕ

/-- `offsetof(struct ieee80211_mgmt, u.beacon.variable)`, the same for `u.probe_resp`. -/
def ieOffset : ℕ := 36

/-- `wl1271_ssid_set` (main.c:3532). -/
def wl1271SsidSet (find : FindIe) (data : List UInt8) (offset : ℕ) (t : Templates) :
    ℤ × Templates :=
  match find.findIe eidSsid (data.drop offset) with
  | none => (-IoErrno.enoent.code, t)
  | some off =>
    let ptr := offset + off
    let ssidLen := (data.getD (ptr + 1) 0).toNat
    if maxSsidLen < ssidLen then (-IoErrno.einval.code, t)
    else (0, { t with ssid := (data.drop (ptr + 2)).take ssidLen })

/-- The common part of `wl12xx_remove_ie` and `wl12xx_remove_vendor_ie`: what is behind the element
at `ieoffset + off` is moved over it. -/
def removeFound (data : List UInt8) (ieoffset : ℕ) : Option ℕ → List UInt8
  | none => data
  | some off =>
    let ie := ieoffset + off
    let len := (data.getD (ie + 1) 0).toNat + 2
    data.take ie ++ data.drop (ie + len)

/-- `wl12xx_remove_ie` (main.c:3576). -/
def wl12xxRemoveIe (find : FindIe) (data : List UInt8) (eid : UInt8) (ieoffset : ℕ) :
    List UInt8 :=
  removeFound data ieoffset (find.findIe eid (data.drop ieoffset))

/-- `wl12xx_remove_vendor_ie` (main.c:3590). -/
def wl12xxRemoveVendorIe (find : FindIe) (data : List UInt8) (oui : ℕ) (ouiType : UInt8)
    (ieoffset : ℕ) : List UInt8 :=
  removeFound data ieoffset (find.findVendorIe oui ouiType (data.drop ieoffset))

/-- The frame with `bss_conf`'s SSID for the element at `ssidIeOffset` (main.c:3675). -/
def insertSsid (data : List UInt8) (ssidIeOffset : ℕ) (ssid : Ssid) : List UInt8 :=
  let ptr := ssidIeOffset + ((data.getD (ssidIeOffset + 1) 0).toNat + 2)
  data.take ssidIeOffset ++ [eidSsid, UInt8.ofNat ssid.1.length] ++ ssid.1 ++ data.drop ptr

/-- `wl1271_ap_set_probe_resp_tmpl_legacy` (main.c:3635). -/
def wl1271ApSetProbeRespTmplLegacy (find : FindIe) (env : TemplateEnv) (vif : BeaconVif)
    (probeRsp : List UInt8) (rates : ℕ) (t : Templates) : ℤ × Templates :=
  if 0 < t.ssid.length then
    wl1271CmdTemplateSet env vif.roleId .apProbeResponse probeRsp 0 rates t
  else if cmdTemplMaxSize < probeRsp.length + vif.bssSsid.1.length then
    (-IoErrno.einval.code, t)
  else
    match find.findIe eidSsid (probeRsp.drop ieOffset) with
    | none => (-IoErrno.einval.code, t)
    | some off =>
      wl1271CmdTemplateSet env vif.roleId .apProbeResponse
        (insertSsid probeRsp (ieOffset + off) vif.bssSsid) 0 rates t

/-- `hdr->frame_control` of a probe response, little-endian. -/
def setProbeResp (data : List UInt8) : List UInt8 := [0x50, 0x00] ++ data.drop 2

/-- The frame that the probe response is made of (main.c:3786–3802): the beacon without its TIM and
P2P element. -/
def probeRespFrame (find : FindIe) (beacon : List UInt8) : List UInt8 :=
  let beacon := wl12xxRemoveIe find beacon eidTim ieOffset
  let beacon := wl12xxRemoveVendorIe find beacon ouiWfa ouiTypeWfaP2p ieOffset
  setProbeResp beacon

/-- The part of `wlcore_set_beacon_template` behind the beacon's template (main.c:3773). -/
def setProbeRespTemplate (find : FindIe) (env : TemplateEnv) (vif : BeaconVif) (isAp : Bool)
    (beacon : List UInt8) (ret : ℤ) (t : Templates) : ℤ × Templates :=
  let wmm := (find.findVendorIe ouiMicrosoft ouiTypeMicrosoftWmm (beacon.drop ieOffset)).isSome
  let t := { t with wmmEnabled := wmm }
  -- a probe response that user mode has set stays
  if vif.apProbeRespSet then (ret, t)
  else
    let frame := probeRespFrame find beacon
    if isAp then wl1271ApSetProbeRespTmplLegacy find env vif frame vif.minRate t
    else wl1271CmdTemplateSet env vif.roleId .probeResponse frame 0 vif.minRate t

/-- `wlcore_set_beacon_template` (main.c:3736); `beacon` is what `ieee80211_beacon_get` returns. -/
def wlcoreSetBeaconTemplate (find : FindIe) (env : TemplateEnv) (vif : BeaconVif) (isAp : Bool)
    (beacon : Option (List UInt8)) (t : Templates) : ℤ × Templates :=
  match beacon with
  | none => (-IoErrno.einval.code, t)
  | some beacon =>
    proceed (wl1271SsidSet find beacon ieOffset t) fun t =>
      let tmplId := if isAp then .apBeacon else .beacon
      let r := wl1271CmdTemplateSet env vif.roleId tmplId beacon 0 vif.minRate t
      proceed r (setProbeRespTemplate find env vif isAp beacon r.1)

end TiWlan.Driver
