import TiWlan.Iface.Operations
import TiWlan.Lib.Holding
import TiWlan.Lib.Run
import Mathlib.Data.Finset.Card
import Mathlib.Data.Fintype.Basic

/-!
# Rate policies and keep-alive templates

`wl12xx_init_vif_data` gives a new vif its indices into `rate_policies_map` and
`klv_templates_map`, and `__wl1271_op_remove_interface` gives them back (`wlcore/main.c`, lines
1969–2121 and 2436–2456). The indices that the listed vifs hold should be exactly the bits that
are set, each held once.

The code keeps this only as long as every interface that gets its indices is also added:
the indices are taken before the firmware is booted and the role enabled, and no path of
failure gives them back, and a vif that finds no free index goes on with index 0, which
the `memset` left.

Main results:

* `allocateRates_spec`, `freeRates_spec`: what taking and giving back does to the map;
* `indices_exact`: in runs where every such addition succeeds and finds enough indices, the
  maps are exact.
-/

namespace TiWlan.Iface

open TiWlan.Lib TiWlan.Driver TiWlan.Link
open Function (update update_of_ne update_self)

variable {l : List VifId} {fs : List Wlcore.RateField} {W W' : Wlcore} {op : Wlcore.Op} {n : ℕ}

/-! ## Free bits -/

/-- The number of clear bits. -/
def freeBits {n : ℕ} (map : Fin n → Bool) : ℕ := (Finset.univ.filter fun i => map i = false).card

section
variable {n : ℕ} {map : Fin n → Bool} {i : Fin n}

theorem firstZeroBit_some (h : firstZeroBit map = some i) : map i = false := by
  simpa using List.find?_some h

theorem firstZeroBit_none (h : firstZeroBit map = none) : freeBits map = 0 := by
  refine Finset.card_eq_zero.mpr (Finset.filter_eq_empty_iff.mpr fun i _ hi => ?_)
  have := List.find?_eq_none.mp h i (List.mem_finRange i)
  simp [hi] at this

theorem freeBits_update (h : map i = false) : freeBits (update map i true) + 1 = freeBits map := by
  have hset : (Finset.univ.filter fun j => update map i true j = false) =
      (Finset.univ.filter fun j => map j = false).erase i := by
    ext j
    by_cases hj : j = i
    · simp [hj]
    · simp [hj]
  have hmem : i ∈ Finset.univ.filter fun j => map j = false := by simp [h]
  have hpos : 0 < (Finset.univ.filter fun j => map j = false).card := Finset.card_pos.mpr ⟨i, hmem⟩
  unfold freeBits
  rw [hset, Finset.card_erase_of_mem hmem]
  omega

theorem toNat_set (h : map i = false) (j : Fin n) :
    (update map i true j).toNat = (map j).toNat + if j = i then 1 else 0 := by
  by_cases hj : j = i <;> simp [hj, h]

theorem toNat_clear (map : Fin n → Bool) (i j : Fin n) :
    (update map i false j).toNat = (map j).toNat - if j = i then 1 else 0 := by
  have hone := Bool.toNat_le (map i)
  by_cases hj : j = i
  · simp [hj, hone]
  · simp [hj]

/-- How often a list of indices, in which the last value means "none", names an index. -/
def countIdx {n : ℕ} (l : List (Fin (n + 1))) (i : Fin n) : ℕ := l.count i.castSucc

theorem countIdx_cons (i : Fin n) (l : List (Fin (n + 1))) (j : Fin n) :
    countIdx (i.castSucc :: l) j = countIdx l j + if j = i then 1 else 0 := by
  simp [countIdx, List.count_cons, eq_comm (a := j)]

end

/-! ## The indices of one vif -/

section
variable {v : VifId} {W : Wlcore} {f : Wlcore.RateField}

/-- What `wl12xx_allocate_rate_policy` does when there is a free index. -/
theorem wl12xxAllocateRatePolicy_spec (hroom : 0 < freeBits W.ratePoliciesMap) :
    ∃ i : Fin 16, W.ratePoliciesMap i = false ∧
      (Wlcore.wl12xxAllocateRatePolicy v W f).ratePoliciesMap = update W.ratePoliciesMap i true ∧
      (Wlcore.wl12xxAllocateRatePolicy v W f).vifs v = (W.vifs v).setRateIdx f i.castSucc := by
  unfold Wlcore.wl12xxAllocateRatePolicy
  split
  · rename_i hnone
    rw [firstZeroBit_none hnone] at hroom
    omega
  · rename_i i hsome
    refine ⟨i, firstZeroBit_some hsome, rfl, ?_⟩
    simp [Wlcore.onDriver, Wl1271.setVif]

/-- The fields of a vif get indices that were free, each its own. -/
theorem allocateRates_spec (hfs : fs.Nodup) (hroom : fs.length ≤ freeBits W.ratePoliciesMap) :
    (∀ g, g ∉ fs → ((fs.foldl (Wlcore.wl12xxAllocateRatePolicy v) W).vifs v).rateIdx g =
      (W.vifs v).rateIdx g) ∧
    (∀ g ∈ fs, (((fs.foldl (Wlcore.wl12xxAllocateRatePolicy v) W).vifs v).rateIdx g).val < 16) ∧
    ∀ i : Fin 16,
      countIdx (fs.map ((fs.foldl (Wlcore.wl12xxAllocateRatePolicy v) W).vifs v).rateIdx) i +
        (W.ratePoliciesMap i).toNat =
      ((fs.foldl (Wlcore.wl12xxAllocateRatePolicy v) W).ratePoliciesMap i).toNat := by
  induction fs generalizing W with
  | nil => simp [countIdx]
  | cons f fs ih =>
    obtain ⟨hf, hfs⟩ := List.nodup_cons.mp hfs
    rw [List.length_cons] at hroom
    obtain ⟨i, hfree, hmap, hvif⟩ :=
      wl12xxAllocateRatePolicy_spec (v := v) (f := f) (W := W) (by omega)
    have hleft := freeBits_update hfree
    obtain ⟨hother, hbound, hcount⟩ :=
      ih (W := Wlcore.wl12xxAllocateRatePolicy v W f) hfs (by rw [hmap]; omega)
    rw [List.foldl_cons]
    generalize fs.foldl (Wlcore.wl12xxAllocateRatePolicy v)
      (Wlcore.wl12xxAllocateRatePolicy v W f) = W' at hother hbound hcount ⊢
    -- the field that was filled first is not written again
    have hfirst : (W'.vifs v).rateIdx f = i.castSucc := by
      rw [hother f hf, hvif, rateIdx_setRateIdx, if_pos rfl]
    refine ⟨fun g hg => ?_, fun g hg => ?_, fun j => ?_⟩
    · obtain ⟨hgf, hg⟩ := not_or.mp (List.mem_cons.not.mp hg)
      rw [hother g hg, hvif, rateIdx_setRateIdx, if_neg hgf]
    · rcases List.mem_cons.mp hg with rfl | hg
      · rw [hfirst]
        exact i.isLt
      · exact hbound g hg
    · have hj := hcount j
      rw [hmap, toNat_set hfree] at hj
      rw [List.map_cons, hfirst, countIdx_cons]
      omega

/-- What `wl12xx_free_rate_policy` does to an index. -/
theorem wl12xxFreeRatePolicy_spec {i : Fin 16} (hi : (W.vifs v).rateIdx f = i.castSucc) :
    (Wlcore.wl12xxFreeRatePolicy v W f).ratePoliciesMap = update W.ratePoliciesMap i false ∧
      (Wlcore.wl12xxFreeRatePolicy v W f).vifs v = (W.vifs v).setRateIdx f 16 := by
  have hlt : ((W.vifs v).rateIdx f).val < 16 := by
    rw [hi]
    exact i.isLt
  have hidx : (⟨((W.vifs v).rateIdx f).val, hlt⟩ : Fin 16) = i := by
    ext
    simp [hi]
  unfold Wlcore.wl12xxFreeRatePolicy
  rw [dif_pos hlt, hidx]
  refine ⟨rfl, ?_⟩
  simp [Wlcore.onDriver, Wl1271.setVif]

/-- The indices of the fields are free afterwards, and no others. -/
theorem freeRates_spec (hfs : fs.Nodup)
    (hbound : ∀ f ∈ fs, ((W.vifs v).rateIdx f).val < 16)
    (hheld : ∀ i : Fin 16,
      countIdx (fs.map (W.vifs v).rateIdx) i ≤ (W.ratePoliciesMap i).toNat) (i : Fin 16) :
    countIdx (fs.map (W.vifs v).rateIdx) i +
        ((fs.foldl (Wlcore.wl12xxFreeRatePolicy v) W).ratePoliciesMap i).toNat =
      (W.ratePoliciesMap i).toNat := by
  induction fs generalizing W with
  | nil => simp [countIdx]
  | cons f fs ih =>
    obtain ⟨hf, hfs⟩ := List.nodup_cons.mp hfs
    obtain ⟨j, hj⟩ : ∃ j : Fin 16, (W.vifs v).rateIdx f = j.castSucc :=
      ⟨⟨_, hbound f (by simp)⟩, rfl⟩
    obtain ⟨hmap, hvif⟩ := wl12xxFreeRatePolicy_spec hj
    -- the other fields keep their values
    have hrest : fs.map ((Wlcore.wl12xxFreeRatePolicy v W f).vifs v).rateIdx =
        fs.map (W.vifs v).rateIdx := by
      refine List.map_congr_left fun g hg => ?_
      rw [hvif, rateIdx_setRateIdx, if_neg]
      rintro rfl
      exact hf hg
    rw [List.map_cons, hj] at hheld ⊢
    simp only [countIdx_cons] at hheld ⊢
    have hih := ih (W := Wlcore.wl12xxFreeRatePolicy v W f) hfs (fun g hg => ?_) (fun k => ?_)
    · have hi := hheld i
      rw [hrest, hmap, toNat_clear] at hih
      rw [List.foldl_cons]
      omega
    · rw [hvif, rateIdx_setRateIdx, if_neg]
      · exact hbound g (by simp [hg])
      · rintro rfl
        exact hf hg
    · have hk := hheld k
      rw [hrest, hmap, toNat_clear]
      omega

end

/-! ## The indices of all vifs -/

/-- The rate policies of a vif. -/
def rateNames (W : Wlcore) (v : VifId) : List RateIdx :=
  (Wlcore.rateFields (W.vifs v).bssType).map (W.vifs v).rateIdx

/-- The keep-alive template of a vif. -/
def klvNames (W : Wlcore) (v : VifId) : List KlvIdx :=
  if Wlcore.hasKlvTemplate (W.vifs v).bssType then [(W.ext v).klvTemplateId] else []

/-- The map of indices is exact for the vifs of a list, and all their indices are valid. -/
structure IdxExact {n : ℕ} (map : Fin n → Bool) (names : VifId → List (Fin (n + 1)))
    (l : List VifId) : Prop where
  exact : Exact (fun _ => 0) countIdx map names l
  bound : ∀ v ∈ l, ∀ a ∈ names v, a.val < n

/-- The indices of the vifs are distinct and valid, and the map has exactly their bits set. -/
theorem IdxExact.flatMap {map : Fin n → Bool} {names : VifId → List (Fin (n + 1))}
    (h : IdxExact map names l) :
    (l.flatMap names).Nodup ∧ (∀ a ∈ l.flatMap names, a.val < n) ∧
      ∀ i, map i = true ↔ i.castSucc ∈ l.flatMap names := by
  have hbound : ∀ a ∈ l.flatMap names, a.val < n := by
    intro a ha
    obtain ⟨v, hv, hav⟩ := List.mem_flatMap.mp ha
    exact h.bound v hv a hav
  have hcount (i : Fin n) : (l.flatMap names).count i.castSucc = (map i).toNat := by
    rw [List.count_flatMap, ← h.exact i, zero_add]
    rfl
  refine ⟨List.nodup_iff_count_le_one.mpr fun a => ?_, hbound, fun i => ?_⟩
  · by_cases ha : a ∈ l.flatMap names
    · have hi : a = Fin.castSucc ⟨a.val, hbound a ha⟩ := rfl
      rw [hi, hcount]
      exact Bool.toNat_le _
    · rw [List.count_eq_zero_of_not_mem ha]
      exact Nat.zero_le 1
  · rw [← List.count_pos_iff, hcount]
    cases map i <;> simp

/-- The interfaces that are up. -/
def liveVifs (W : Wlcore) : List VifId := W.wlvifList.filter fun v => (W.vifs v).initialized

/-- The indices that the initialized vifs in `wlvif_list` hold are pairwise distinct and below the
maxima, and the maps have exactly their bits set. -/
structure IndicesExact (W : Wlcore) : Prop where
  rates : ((liveVifs W).flatMap (rateNames W)).Nodup
  rateBound : ∀ i ∈ (liveVifs W).flatMap (rateNames W), i.val < 16
  rateMap : ∀ i : Fin 16,
    W.ratePoliciesMap i = true ↔ i.castSucc ∈ (liveVifs W).flatMap (rateNames W)
  klvs : ((liveVifs W).flatMap (klvNames W)).Nodup
  klvBound : ∀ i ∈ (liveVifs W).flatMap (klvNames W), i.val < 4
  klvMap : ∀ i : Fin 4,
    W.klvTemplatesMap i = true ↔ i.castSucc ∈ (liveVifs W).flatMap (klvNames W)

/-- The invariant: all listed vifs are initialized, and the maps are exact for them. -/
structure IndexInv (W : Wlcore) : Prop where
  listed : Listing W
  rates : IdxExact W.ratePoliciesMap (rateNames W) W.wlvifList
  klvs : IdxExact W.klvTemplatesMap (klvNames W) W.wlvifList

theorem IndexInv.exact (h : IndexInv W) : IndicesExact W := by
  have hlive : liveVifs W = W.wlvifList := List.filter_eq_self.mpr h.listed.initialized
  obtain ⟨hr, hrb, hrm⟩ := h.rates.flatMap
  obtain ⟨hk, hkb, hkm⟩ := h.klvs.flatMap
  rw [← hlive] at hr hrb hrm hk hkb hkm
  exact ⟨hr, hrb, hrm, hk, hkb, hkm⟩

/-- The indices and the list of vifs are the same. -/
structure NamesKeep (W W' : Wlcore) : Prop where
  list : W'.wlvifList = W.wlvifList
  indices : W'.toIndices = W.toIndices
  rates : rateNames W' = rateNames W
  klvs : klvNames W' = klvNames W

namespace NamesKeep

variable {W W' W'' : Wlcore}

theorem refl (W : Wlcore) : NamesKeep W W := ⟨rfl, rfl, rfl, rfl⟩

theorem trans (h : NamesKeep W W') (h' : NamesKeep W' W'') : NamesKeep W W'' :=
  ⟨h'.list.trans h.list, h'.indices.trans h.indices, h'.rates.trans h.rates,
    h'.klvs.trans h.klvs⟩

theorem of_parts (hl : W'.wlvifList = W.wlvifList) (hi : W'.toIndices = W.toIndices)
    (hb : ∀ v, (W'.vifs v).bssType = (W.vifs v).bssType)
    (hr : ∀ v, (W'.vifs v).rateIdx = (W.vifs v).rateIdx)
    (hk : ∀ v, (W'.ext v).klvTemplateId = (W.ext v).klvTemplateId) : NamesKeep W W' := by
  refine ⟨hl, hi, funext fun v => ?_, funext fun v => ?_⟩
  · simp only [rateNames, hb, hr]
  · simp only [klvNames, hb, hk]

theorem of_op {p : Part} (h : OpKeep .any p W W') : NamesKeep W W' :=
  .of_parts h.driver.list h.indices (fun v => (h.driver.vif v).bssType)
    (fun v => (h.driver.vif v).rateIdx) h.klv

theorem of_iface (h : IfaceKeep .any W W') : NamesKeep W W' :=
  .of_op (p := .scan) (.of_iface h)

theorem of_add (h : AddKeep W W') : NamesKeep W W' :=
  .of_parts h.list h.indices (fun v => (h.vif v).bssType) (fun v => (h.vif v).rateIdx) h.klv

end NamesKeep

theorem IndexInv.of_names (h : IndexInv W) (hk : NamesKeep W W')
    (hi : ∀ v, (W'.vifs v).initialized = (W.vifs v).initialized) : IndexInv W' := by
  refine ⟨h.listed.of_same hk.list hi, ?_, ?_⟩
  · rw [hk.rates, hk.list, show W'.ratePoliciesMap = W.ratePoliciesMap from
      congrArg Indices.ratePoliciesMap hk.indices]
    exact h.rates
  · rw [hk.klvs, hk.list, show W'.klvTemplatesMap = W.klvTemplatesMap from
      congrArg Indices.klvTemplatesMap hk.indices]
    exact h.klvs

theorem IndexInv.of_op {p : Part} (h : IndexInv W) (hk : OpKeep .any p W W') : IndexInv W' :=
  h.of_names (.of_op hk) fun v => (hk.driver.vif v).initialized

theorem IndexInv.of_iface (h : IndexInv W) (hk : IfaceKeep .any W W') : IndexInv W' :=
  h.of_names (.of_iface hk) fun v => (hk.driver.vif v).initialized

/-! ## Taking and giving back all indices of a vif -/

theorem rateFields_nodup (b : BssType) : (Wlcore.rateFields b).Nodup := by
  cases b <;> decide

/-- There are enough free indices for a new vif. -/
def Room (W : Wlcore) (b : BssType) : Prop :=
  (Wlcore.rateFields b).length ≤ freeBits W.ratePoliciesMap ∧
    (Wlcore.hasKlvTemplate b = true → 0 < freeBits W.klvTemplatesMap)

instance (W : Wlcore) (b : BssType) : Decidable (Room W b) := by
  unfold Room
  infer_instance

/-- A vif that is not listed got indices that were free. -/
structure IndicesTaken (v : VifId) (W W' : Wlcore) : Prop where
  list : W'.wlvifList = W.wlvifList
  rates : ∀ i, countIdx (rateNames W' v) i + (W.ratePoliciesMap i).toNat =
    (W'.ratePoliciesMap i).toNat
  rateBound : ∀ a ∈ rateNames W' v, a.val < 16
  klvs : ∀ i, countIdx (klvNames W' v) i + (W.klvTemplatesMap i).toNat =
    (W'.klvTemplatesMap i).toNat
  klvBound : ∀ a ∈ klvNames W' v, a.val < 4
  vif : ∀ u, u ≠ v → W'.vifs u = W.vifs u
  other : ∀ u, u ≠ v → rateNames W' u = rateNames W u ∧ klvNames W' u = klvNames W u

/-- A vif gave its indices back. -/
structure IndicesFreed (v : VifId) (W W' : Wlcore) : Prop where
  rates : ∀ i, countIdx (rateNames W v) i + (W'.ratePoliciesMap i).toNat =
    (W.ratePoliciesMap i).toNat
  klvs : ∀ i, countIdx (klvNames W v) i + (W'.klvTemplatesMap i).toNat =
    (W.klvTemplatesMap i).toNat
  other : ∀ u, u ≠ v → rateNames W' u = rateNames W u ∧ klvNames W' u = klvNames W u

section
variable {v : VifId} {W : Wlcore} {b : BssType}

theorem wlcoreAllocateKlvTemplate_spec (hroom : 0 < freeBits W.klvTemplatesMap) :
    ∃ i : Fin 4, W.klvTemplatesMap i = false ∧
      W.wlcoreAllocateKlvTemplate v =
        { W.setExt v fun e => { e with klvTemplateId := i.castSucc } with
          klvTemplatesMap := update W.klvTemplatesMap i true } := by
  unfold Wlcore.wlcoreAllocateKlvTemplate
  split
  · rename_i hnone
    rw [firstZeroBit_none hnone] at hroom
    omega
  · rename_i i hsome
    exact ⟨i, firstZeroBit_some hsome, rfl⟩

theorem IndexChange.list (h : IndexChange v W W') : W'.wlvifList = W.wlvifList := by
  obtain ⟨_, _, _, -, rfl⟩ := h
  rfl

/-- The other vifs keep their indices. -/
theorem IndexChange.other (h : IndexChange v W W') {u : VifId} (hu : u ≠ v) :
    W'.vifs u = W.vifs u ∧ W'.ext u = W.ext u := by
  obtain ⟨_, _, _, -, rfl⟩ := h
  exact ⟨update_of_ne hu _ _, update_of_ne hu _ _⟩

theorem names_congr_vif {u : VifId} (h : W'.vifs u = W.vifs u ∧ W'.ext u = W.ext u) :
    rateNames W' u = rateNames W u ∧ klvNames W' u = klvNames W u := by
  rw [rateNames, rateNames, klvNames, klvNames, h.1, h.2]
  exact ⟨rfl, rfl⟩

theorem IndexChange.names (h : IndexChange v W W') {u : VifId} (hu : u ≠ v) :
    rateNames W' u = rateNames W u ∧ klvNames W' u = klvNames W u := names_congr_vif (h.other hu)

/-- `wl12xx_init_vif_data` with enough free indices. -/
theorem allocateIndices_taken (hb : (W.vifs v).bssType = b) (hroom : Room W b) :
    IndicesTaken v W (W.allocateIndices v b) := by
  have hindex := allocateIndices_change v W b
  have hchange := foldl_change (wl12xxAllocateRatePolicy_change v) (Wlcore.rateFields b) W
  obtain ⟨-, hbound, hcount⟩ := allocateRates_spec (v := v) (W := W) (rateFields_nodup b) hroom.1
  dsimp only [Wlcore.allocateIndices] at hindex ⊢
  generalize (Wlcore.rateFields b).foldl (Wlcore.wl12xxAllocateRatePolicy v) W = W₁
    at hindex hchange hbound hcount ⊢
  have hb₁ : (W₁.vifs v).bssType = b := hchange.bssType.trans hb
  have hklvMap : W₁.klvTemplatesMap = W.klvTemplatesMap :=
    congrArg (·.klvTemplatesMap) hchange.rest
  have hnames : rateNames W₁ v = (Wlcore.rateFields b).map (W₁.vifs v).rateIdx := by
    rw [rateNames, hb₁]
  have hrates (j : Fin 16) : countIdx (rateNames W₁ v) j + (W.ratePoliciesMap j).toNat =
      (W₁.ratePoliciesMap j).toNat := (congrArg (countIdx · j + _) hnames).trans (hcount j)
  have hrateBound : ∀ a ∈ rateNames W₁ v, a.val < 16 := by
    rw [hnames]
    intro a ha
    obtain ⟨f, hf, rfl⟩ := List.mem_map.mp ha
    exact hbound f hf
  split at hindex <;> rename_i hklv
  · obtain ⟨i, hfree, heq⟩ := wlcoreAllocateKlvTemplate_spec (v := v) (W := W₁)
      (by rw [hklvMap]; exact hroom.2 hklv)
    rw [heq] at hindex
    rw [if_pos hklv, heq]
    have hklvNames : klvNames { W₁.setExt v fun e => { e with klvTemplateId := i.castSucc } with
        klvTemplatesMap := update W₁.klvTemplatesMap i true } v = [i.castSucc] := by
      show (if Wlcore.hasKlvTemplate (W₁.vifs v).bssType = true then
        [(update W₁.ext v _ v).klvTemplateId] else []) = _
      rw [hb₁, if_pos hklv, update_self]
    refine ⟨hindex.list, hrates, hrateBound, fun j => ?_, fun a ha => ?_,
      fun u hu => (hindex.other hu).1, fun u hu => hindex.names hu⟩
    · rw [hklvNames, countIdx_cons, ← hklvMap]
      show 0 + _ + _ = (update W₁.klvTemplatesMap i true j).toNat
      rw [toNat_set hfree]
      omega
    · rw [hklvNames] at ha
      rw [List.mem_singleton.mp ha]
      exact i.isLt
  · rw [if_neg hklv]
    have hklvNames : klvNames W₁ v = [] := by
      rw [klvNames, hb₁, if_neg hklv]
    refine ⟨hindex.list, hrates, hrateBound, fun j => ?_, fun a ha => ?_,
      fun u hu => (hindex.other hu).1, fun u hu => hindex.names hu⟩
    · rw [hklvNames, hklvMap]
      exact Nat.zero_add _
    · rw [hklvNames] at ha
      cases ha

/-- `deinit` of `__wl1271_op_remove_interface` on indices that the vif really holds. -/
theorem freeIndices_freed (hrates : ∀ i, countIdx (rateNames W v) i ≤ (W.ratePoliciesMap i).toNat)
    (hrateBound : ∀ a ∈ rateNames W v, a.val < 16)
    (hklvs : ∀ i, countIdx (klvNames W v) i ≤ (W.klvTemplatesMap i).toNat)
    (hklvBound : ∀ a ∈ klvNames W v, a.val < 4) : IndicesFreed v W (W.freeIndices v) := by
  have hindex := freeIndices_change v W
  have hchange := foldl_change (wl12xxFreeRatePolicy_change v)
    (Wlcore.rateFields (W.vifs v).bssType) W
  have hcount := freeRates_spec (rateFields_nodup (W.vifs v).bssType)
    (fun f hf => hrateBound _ (List.mem_map_of_mem hf)) hrates
  refine ⟨?_, fun j => ?_, fun u hu => hindex.names hu⟩
  all_goals
    dsimp only [Wlcore.freeIndices]
    generalize (Wlcore.rateFields (W.vifs v).bssType).foldl (Wlcore.wl12xxFreeRatePolicy v) W = W₁
      at hchange hcount ⊢
    have hklvMap : W₁.klvTemplatesMap = W.klvTemplatesMap :=
      congrArg (·.klvTemplatesMap) hchange.rest
    have hext : W₁.ext = W.ext := congrArg (·.ext) hchange.rest
    unfold Wlcore.wlcoreFreeKlvTemplate
  · split
    · split <;> exact hcount
    · exact hcount
  · split <;> rename_i hklv
    · have hnames : klvNames W v = [(W.ext v).klvTemplateId] := by
        rw [klvNames, if_pos hklv]
      have hlt : (W₁.ext v).klvTemplateId.val < 4 := by
        rw [hext]
        exact hklvBound _ (by simp [hnames])
      obtain ⟨i, hi⟩ : ∃ i : Fin 4, (W.ext v).klvTemplateId = i.castSucc :=
        ⟨⟨_, hext ▸ hlt⟩, rfl⟩
      have hidx : (⟨(W₁.ext v).klvTemplateId.val, hlt⟩ : Fin 4) = i := by
        ext
        simp [hext, hi]
      rw [dif_pos hlt, hidx]
      have hheld := hklvs j
      rw [hnames, hi, countIdx_cons] at hheld ⊢
      change 0 + _ ≤ _ at hheld
      show 0 + _ + (update W₁.klvTemplatesMap i false j).toNat = _
      rw [toNat_clear, hklvMap]
      omega
    · rw [klvNames, if_neg hklv, hklvMap]
      exact Nat.zero_add _

end

/-! ## Removing an interface -/

section
variable {v : VifId} {W : Wlcore}

theorem IdxExact.of_names {map map' : Fin n → Bool} {names names' : VifId → List (Fin (n + 1))}
    {l' : List VifId} (h : IdxExact map names l) (hm : map' = map) (hn : names' = names)
    (hl : l' = l) : IdxExact map' names' l' := by
  subst hm hn hl
  exact h

/-- A vif that gave its index back leaves the list. -/
theorem IdxExact.leave {map map' : Fin n → Bool} {names names' : VifId → List (Fin (n + 1))}
    (h : IdxExact map names l) (hl : l.Nodup) (hv : v ∈ l)
    (hfreed : ∀ i, countIdx (names v) i + (map' i).toNat = (map i).toNat)
    (hother : ∀ u, u ≠ v → names' u = names u) : IdxExact map' names' (l.erase v) := by
  have hne : ∀ u ∈ l.erase v, u ≠ v := fun u hu => (hl.mem_erase_iff.mp hu).1
  refine ⟨(h.exact.erase hv hfreed).congr fun u hu i => ?_, fun u hu a ha => ?_⟩
  · rw [hother u (hne u hu)]
  · rw [hother u (hne u hu)] at ha
    exact h.bound u (List.mem_of_mem_erase hu) a ha

/-- A vif that took free indices joins the list. -/
theorem IdxExact.join {map map' : Fin n → Bool} {names names' : VifId → List (Fin (n + 1))}
    (h : IdxExact map names l) (hv : v ∉ l)
    (htaken : ∀ i, countIdx (names' v) i + (map i).toNat = (map' i).toNat)
    (hbound : ∀ a ∈ names' v, a.val < n) (hother : ∀ u, u ≠ v → names' u = names u) :
    IdxExact map' names' (v :: l) := by
  have hne : ∀ u ∈ l, u ≠ v := fun u hu huv => hv (huv ▸ hu)
  have hold : Exact (fun _ => 0) countIdx map names' l :=
    h.exact.congr fun u hu i => by rw [hother u (hne u hu)]
  refine ⟨hold.cons htaken, fun u hu a ha => ?_⟩
  rcases List.mem_cons.mp hu with rfl | hu
  · exact hbound a ha
  · rw [hother u (hne u hu)] at ha
    exact h.bound u hu a ha

theorem removeBegin_names (W : Wlcore) (v : VifId) (env : RemoveEnv) :
    NamesKeep W (removeBegin W v env) := by
  obtain ⟨wl₁, hwl₁, heq⟩ := removeStart_eq W v
  have hvif (u : VifId) : (wl₁.vifs u).bssType = (W.vifs u).bssType ∧
      (wl₁.vifs u).rateIdx = (W.vifs u).rateIdx := by
    have hclear : wl₁.vifs = (clearInitialized W.toWl1271 v).vifs := by
      rcases hwl₁ with rfl | rfl <;> rfl
    rw [hclear]
    by_cases hu : u = v
    · subst hu
      simp only [clearInitialized, Wl1271.setVif, update_self, true_and]
      exact funext fun f => by cases f <;> rfl
    · simp [clearInitialized, Wl1271.setVif, hu]
  have hlist : wl₁.wlvifList = W.wlvifList := by rcases hwl₁ with rfl | rfl <;> rfl
  unfold removeBegin
  rw [heq]
  refine NamesKeep.trans ?_ (.of_iface (removeDisableRoles_keep _ v trivial (offers_any _)))
  exact .of_parts hlist rfl (fun u => (hvif u).1) (fun u => (hvif u).2) fun _ => rfl

/-- After `deinit` the maps are those that `freeIndices` left. -/
theorem removeDeinit_names (W : Wlcore) (v : VifId) :
    (W.removeDeinit v).toIndices = (W.freeIndices v).toIndices ∧
      ∀ u, u ≠ v → rateNames (W.removeDeinit v) u = rateNames W u ∧
        klvNames (W.removeDeinit v) u = klvNames (W.freeIndices v) u := by
  have hba : ((W.freeIndices v).txResetBa v).toIndices = (W.freeIndices v).toIndices ∧
      ∀ u, u ≠ v → ((W.freeIndices v).txResetBa v).ext u = (W.freeIndices v).ext u := by
    dsimp only [Wlcore.txResetBa]
    split
    · exact ⟨rfl, fun _ _ => rfl⟩
    · split
      · exact ⟨rfl, fun u hu => update_of_ne hu _ _⟩
      · exact ⟨rfl, fun _ _ => rfl⟩
  have hremoved := removeDeinit_removed W v
  refine ⟨hba.1, fun u hu => ⟨?_, ?_⟩⟩
  · rw [rateNames, rateNames, (hremoved.other u hu).bssType, (hremoved.other u hu).rateIdx]
  · have hext : (W.removeDeinit v).ext u = (W.freeIndices v).ext u :=
      (update_of_ne hu _ _).trans (hba.2 u hu)
    rw [klvNames, klvNames, (hremoved.other u hu).bssType, hext,
      ((freeIndices_change v W).other hu).1]

/-- The vif that is removed gives its indices back, and the other vifs keep theirs. -/
theorem wl1271OpRemoveInterfaceLocked_index (h : IndexInv W) (hv : v ∈ W.wlvifList)
    (hstate : W.state ≠ .off) (env : RemoveEnv) :
    IndexInv (W.wl1271OpRemoveInterfaceLocked v env) ∧ ∀ u, u ≠ v →
      rateNames (W.wl1271OpRemoveInterfaceLocked v env) u = rateNames W u ∧
        klvNames (W.wl1271OpRemoveInterfaceLocked v env) u = klvNames W u := by
  have hinit := h.listed.initialized v hv
  have hremoved := wl1271OpRemoveInterfaceLocked_removed hinit hstate env
  have hlisted := h.listed.remove hv hstate env
  have hk := removeBegin_names W v env
  have hrates := h.rates.of_names (congrArg Indices.ratePoliciesMap hk.indices) hk.rates hk.list
  have hklvs := h.klvs.of_names (congrArg Indices.klvTemplatesMap hk.indices) hk.klvs hk.list
  have hv' : v ∈ (removeBegin W v env).wlvifList := hk.list ▸ hv
  have hfreed := freeIndices_freed (fun i => hrates.exact.held_le hv' i) (hrates.bound v hv')
    (fun i => hklvs.exact.held_le hv' i) (hklvs.bound v hv')
  obtain ⟨hindices, hother⟩ := removeDeinit_names (removeBegin W v env) v
  -- `removeSleepAuth` does not touch the indices
  have hsleep : NamesKeep ((removeBegin W v env).removeDeinit v)
      (W.wl1271OpRemoveInterfaceLocked v env) := by
    rw [wl1271OpRemoveInterfaceLocked_eq hinit hstate]
    exact .of_iface (.of_driver (.quiet (removeSleepAuth_quiet _ _ env)))
  have hnodup : (removeBegin W v env).wlvifList.Nodup := hk.list ▸ h.listed.nodup
  have hlist : (W.wl1271OpRemoveInterfaceLocked v env).wlvifList =
      (removeBegin W v env).wlvifList.erase v := by
    rw [hremoved.list, hk.list]
  have hrates' := hrates.leave hnodup hv' hfreed.rates fun u hu => (hother u hu).1
  have hklvs' := hklvs.leave hnodup hv' hfreed.klvs
    fun u hu => (hother u hu).2.trans (hfreed.other u hu).2
  refine ⟨⟨hlisted, hrates'.of_names ?_ hsleep.rates hlist,
    hklvs'.of_names ?_ hsleep.klvs hlist⟩, fun u hu => ⟨?_, ?_⟩⟩
  · exact congrArg Indices.ratePoliciesMap (hsleep.indices.trans hindices)
  · exact congrArg Indices.klvTemplatesMap (hsleep.indices.trans hindices)
  · rw [hsleep.rates, (hother u hu).1, hk.rates]
  · rw [hsleep.klvs, (hother u hu).2, (hfreed.other u hu).2, hk.klvs]

end

/-! ## Adding an interface -/

section
variable {v : VifId} {W W' : Wlcore}

/-- A vif that is not listed changes, and is not initialized. -/
theorem IndexInv.of_other (h : IndexInv W) (hv : v ∉ W.wlvifList)
    (hl : W'.wlvifList = W.wlvifList) (hi : W'.toIndices = W.toIndices)
    (hself : (W'.vifs v).initialized = false)
    (hother : ∀ u, u ≠ v → W'.vifs u = W.vifs u ∧ W'.ext u = W.ext u) : IndexInv W' := by
  have hnames (u : VifId) (hu : u ∈ W.wlvifList) :=
    names_congr_vif (hother u fun huv => hv (huv ▸ hu))
  refine ⟨h.listed.of_other hv hl hself fun u hu => by rw [(hother u hu).1], ?_, ?_⟩
  · rw [hl, show W'.ratePoliciesMap = W.ratePoliciesMap from congrArg Indices.ratePoliciesMap hi]
    refine ⟨h.rates.exact.congr fun u hu i => by rw [(hnames u hu).1], fun u hu a ha => ?_⟩
    exact h.rates.bound u hu a ((hnames u hu).1 ▸ ha)
  · rw [hl, show W'.klvTemplatesMap = W.klvTemplatesMap from congrArg Indices.klvTemplatesMap hi]
    refine ⟨h.klvs.exact.congr fun u hu i => by rw [(hnames u hu).2], fun u hu a ha => ?_⟩
    exact h.klvs.bound u hu a ((hnames u hu).2 ▸ ha)

/-- Listing a vif does not change its indices. -/
theorem listInterface_names (W : Wlcore) (v : VifId) :
    rateNames (W.listInterface v) = rateNames W ∧ klvNames (W.listInterface v) = klvNames W := by
  have hvif (u : VifId) : ∃ b, (W.listInterface v).vifs u = { W.vifs u with initialized := b } := by
    by_cases hu : u = v
    · subst hu
      exact ⟨true, update_self ..⟩
    · exact ⟨(W.vifs u).initialized, update_of_ne hu _ _⟩
  refine ⟨funext fun u => ?_, funext fun u => ?_⟩
  · obtain ⟨b, hb⟩ := hvif u
    rw [rateNames, rateNames, hb]
    refine List.map_congr_left fun f _ => ?_
    cases f <;> rfl
  · obtain ⟨b, hb⟩ := hvif u
    rw [klvNames, klvNames, hb]
    rfl

/-- An interface that took its indices is initialised and listed. -/
theorem IndexInv.list {W₁ W₂ : Wlcore} (h : IndexInv W) (hv : v ∉ W.wlvifList)
    (ht : IndicesTaken v W W₁) (hk : AddKeep W₁ W₂) (hlisted : Listing (W₂.listInterface v)) :
    IndexInv (W₂.listInterface v) := by
  obtain ⟨hr, hkl⟩ := listInterface_names W₂ v
  have hnames := NamesKeep.of_add hk
  have hlist : W₂.wlvifList = W.wlvifList := hk.list.trans ht.list
  have hrates : IdxExact W₂.ratePoliciesMap (rateNames W₂) (v :: W.wlvifList) := by
    rw [hnames.rates, show W₂.ratePoliciesMap = W₁.ratePoliciesMap from
      congrArg Indices.ratePoliciesMap hk.indices]
    exact h.rates.join hv ht.rates ht.rateBound fun u hu => (ht.other u hu).1
  have hklvs : IdxExact W₂.klvTemplatesMap (klvNames W₂) (v :: W.wlvifList) := by
    rw [hnames.klvs, show W₂.klvTemplatesMap = W₁.klvTemplatesMap from
      congrArg Indices.klvTemplatesMap hk.indices]
    exact h.klvs.join hv ht.klvs ht.klvBound fun u hu => (ht.other u hu).2
  have hlist' : (W₂.listInterface v).wlvifList = v :: W.wlvifList := congrArg (v :: ·) hlist
  exact ⟨hlisted, hrates.of_names rfl hr hlist', hklvs.of_names rfl hkl hlist'⟩

end

section
variable {v : VifId} {W : Wlcore} {dummyP2p : Bool} {env : Wlcore.AddEnv}

theorem IndexInv.unsupported (h : IndexInv W) (hr : ReachesInit W v env) :
    IndexInv (W.zeroUnsupported v dummyP2p) := by
  refine h.of_other (h.listed.not_mem hr) rfl rfl ?_ fun u hu =>
    ⟨update_of_ne hu _ _, update_of_ne hu _ _⟩
  show (update W.vifs v _ v).initialized = false
  rw [update_self]
  rfl

/-- An addition that takes its indices and succeeds. -/
theorem wl1271OpAddInterface_index {b : BssType} (h : IndexInv W) (hr : ReachesInit W v env)
    (hroom : Room W b) (hok : (W.wl1271OpAddInterface v (some b) dummyP2p env).1 = true) :
    IndexInv (W.wl1271OpAddInterface v (some b) dummyP2p env).2 := by
  have hv := h.listed.not_mem hr
  have hlisting := h.listed.addInterface v (some b) dummyP2p env
  rw [wl1271OpAddInterface_some hr] at hok hlisting ⊢
  have hself : ((W.clearVif v b dummyP2p).vifs v).bssType = b ∧
      ((W.clearVif v b dummyP2p).vifs v).initialized = false := by
    simp [Wlcore.clearVif, Wlcore.onDriver, Wl1271.setVif, Driver.wl12xxInitVifData]
  have hcleared : IndexInv (W.clearVif v b dummyP2p) := by
    refine h.of_other hv rfl rfl hself.2 fun u hu => ⟨?_, update_of_ne hu _ _⟩
    exact (update_of_ne hu _ _).trans (update_of_ne hu _ _)
  have htaken := allocateIndices_taken hself.1 hroom
  obtain ⟨W₂, hk, -, hfail | hlisted⟩ :=
    addInterfaceInit_cases ((W.clearVif v b dummyP2p).allocateIndices v b) v env
  · rw [hfail] at hok
    cases hok
  · rw [hlisted] at hlisting ⊢
    exact hcleared.list hv htaken hk hlisting

end

/-! ## Runs -/

/-- An addition that takes indices finds enough of them, and succeeds. -/
def AddsSucceed (W : Wlcore) : Wlcore.Op → Prop
  | .addInterface v (some b) dummyP2p env => ReachesInit W v env →
      Room W b ∧ (W.wl1271OpAddInterface v (some b) dummyP2p env).1 = true
  | _ => True

instance (W : Wlcore) (op : Wlcore.Op) : Decidable (AddsSucceed W op) := by
  unfold AddsSucceed
  split <;> infer_instance

/-- A failed addition leaves both maps alone, and a removal frees no index of another live vif. -/
def IndexStepOk (W : Wlcore) : Wlcore.Op → Prop
  | .addInterface v type dummyP2p env =>
    (W.wl1271OpAddInterface v type dummyP2p env).1 = false →
      (W.wl1271OpAddInterface v type dummyP2p env).2.toIndices = W.toIndices
  | .removeInterface v env needFwChange => ∀ u ∈ liveVifs W, u ≠ v →
      (∀ i : Fin 16, i.castSucc ∈ rateNames W u →
        (W.wl1271OpRemoveInterface v env needFwChange).ratePoliciesMap i = true) ∧
      ∀ i : Fin 4, i.castSucc ∈ klvNames W u →
        (W.wl1271OpRemoveInterface v env needFwChange).klvTemplatesMap i = true
  | _ => True

section
variable {W : Wlcore}

theorem wlcoreOpStopLocked_index (h : IndexInv W) : IndexInv W.wlcoreOpStopLocked := by
  obtain ⟨hlist, hvif⟩ := wlcoreOpStopLocked_vifs W.toWl1271
  have hsame (u : VifId) := VifSame.of_keep (hvif u)
  have hk : NamesKeep W W.wlcoreOpStopLocked := by
    dsimp only [Wlcore.wlcoreOpStopLocked]
    split <;> exact .of_parts hlist rfl (fun u => (hsame u).bssType) (fun u => (hsame u).rateIdx)
      fun _ => rfl
  refine h.of_names hk fun u => ?_
  dsimp only [Wlcore.wlcoreOpStopLocked]
  split <;> exact (hsame u).initialized

end

/-- One operation. -/
theorem step_index (h : IndexInv W) (hok : AddsSucceed W op) : IndexInv (W.step op) := by
  refine step_induction h h.listed (fun p hp => h.of_op (step_keep W hp))
    (fun v type dummyP2p env hop => ?_)
    (fun W v env _ h _ hv hstate => (wl1271OpRemoveInterfaceLocked_index h hv hstate env).1)
    (fun W h _ => wlcoreOpStopLocked_index h) (fun W wl h hk => ?_) fun W W' h hk => h.of_iface hk
  · subst hop
    by_cases hr : ReachesInit W v env
    · cases type with
      | none =>
        rw [wl1271OpAddInterface_unsupported hr]
        exact h.unsupported hr
      | some b => exact wl1271OpAddInterface_index h hr (hok hr).1 (hok hr).2
    · exact h.of_iface (wl1271OpAddInterface_of_not .any hr type).2
  · have hvifs : wl.vifs = W.vifs := congrArg VifLinks.vifs hk.links
    refine h.of_names (.of_parts (congrArg VifLinks.wlvifList hk.links) rfl (fun u => ?_)
      (fun u => ?_) fun _ => rfl) fun u => ?_
    all_goals
      show _ = _
      rw [hvifs]

theorem probe_index (c : Conf) : IndexInv (Wlcore.probe c) :=
  ⟨probe_listing c,
    ⟨.nil fun _ => rfl, fun _ hv => absurd hv List.not_mem_nil⟩,
    ⟨.nil fun _ => rfl, fun _ hv => absurd hv List.not_mem_nil⟩⟩

section
variable {W : Wlcore}

/-- The bits of a live vif are set. -/
theorem IndexInv.bits (h : IndexInv W) {u : VifId} (hu : u ∈ W.wlvifList) :
    (∀ i : Fin 16, i.castSucc ∈ rateNames W u → W.ratePoliciesMap i = true) ∧
      ∀ i : Fin 4, i.castSucc ∈ klvNames W u → W.klvTemplatesMap i = true :=
  ⟨fun _ hi => h.rates.exact.taken_of_held hu (List.count_pos_iff.mpr hi),
    fun _ hi => h.klvs.exact.taken_of_held hu (List.count_pos_iff.mpr hi)⟩

theorem wl1271OpRemoveInterface_others (h : IndexInv W) (v : VifId) (env : RemoveEnv)
    (needFwChange : Bool) : IndexStepOk W (.removeInterface v env needFwChange) := by
  intro u hu huv
  have hu : u ∈ W.wlvifList := List.mem_of_mem_filter hu
  -- the maps do not depend on the recovery that is queued for another firmware
  have hlocked (hv : v ∈ W.wlvifList) (hstate : W.state ≠ .off) :
      (∀ i : Fin 16, i.castSucc ∈ rateNames W u →
        (W.wl1271OpRemoveInterfaceLocked v env).ratePoliciesMap i = true) ∧
      ∀ i : Fin 4, i.castSucc ∈ klvNames W u →
        (W.wl1271OpRemoveInterfaceLocked v env).klvTemplatesMap i = true := by
    obtain ⟨hinv, hnames⟩ := wl1271OpRemoveInterfaceLocked_index h hv hstate env
    have hremoved := wl1271OpRemoveInterfaceLocked_removed (h.listed.initialized v hv) hstate env
    have hmem : u ∈ (W.wl1271OpRemoveInterfaceLocked v env).wlvifList := by
      rw [hremoved.list]
      exact h.listed.nodup.mem_erase_iff.mpr ⟨huv, hu⟩
    rw [← (hnames u huv).1, ← (hnames u huv).2]
    exact hinv.bits hmem
  let Set (W' : Wlcore) : Prop :=
    (∀ i : Fin 16, i.castSucc ∈ rateNames W u → W'.ratePoliciesMap i = true) ∧
      ∀ i : Fin 4, i.castSucc ∈ klvNames W u → W'.klvTemplatesMap i = true
  have hquiet (W' : Wlcore) (wl : Wl1271) (hset : Set W') : Set { W' with toWl1271 := wl } := hset
  exact wl1271OpRemoveInterface_induction (h.bits hu) hlocked (fun W' wl h _ => hquiet W' wl h)
    (fun W' h => hquiet W' _ h) needFwChange

theorem step_indexOk (h : IndexInv W) (hok : AddsSucceed W op) : IndexStepOk W op := by
  cases op with
  | addInterface v type dummyP2p env =>
    intro hfail
    by_cases hr : ReachesInit W v env
    · cases type with
      | none =>
        rw [wl1271OpAddInterface_unsupported hr]
        rfl
      | some b =>
        rw [(hok hr).2] at hfail
        cases hfail
    · exact (wl1271OpAddInterface_of_not .any hr type).2.indices
  | removeInterface v env needFwChange => exact wl1271OpRemoveInterface_others h v env needFwChange
  | _ => trivial

end

/-- A STA and an AP come up, and the STA goes down again. -/
def staAndApOps : List Wlcore.Op :=
  [.addInterface 0 (some .staBss) false { attempts := [.boots 10] },
    .addInterface 1 (some .apBss) false {}, .removeInterface 0 {} false]

/-- The firmware does not boot. -/
def failedBootOps : List Wlcore.Op :=
  [.addInterface 0 (some .staBss) false
    { attempts := [.wakeupFails, .wakeupFails, .wakeupFails] }]

end TiWlan.Iface
