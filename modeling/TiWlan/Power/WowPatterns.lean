import TiWlan.Driver.Wow
import Mathlib.Data.List.SplitBy

/-!
# Wake-up patterns and the firmware's filters

A wake-up pattern is a list of bytes with a mask. The firmware compares fields, runs of bytes at
an offset of the Ethernet header or of the data behind it. `wl1271_validate_wowlan_pattern`
(`wlcore/main.c`, line 1339) counts the fields of a pattern in one pass, and
`wl1271_convert_wowlan_pattern_to_rx_filter` (line 1482) finds them with a nested loop.

Here both are compared with `segments`, the maximal runs of masked positions with a cut at the end
of the Ethernet header.

Results:
* `wowPattern_exact`: the validator accepts exactly the patterns whose segments respect the limits
  of the firmware, and the conversion of an accepted pattern has one field for each segment and
  matches the same frames as the pattern.
* `wowPattern_wraps`: without the bounds on the sum of the sizes and on the offsets, which cfg80211
  ensures with `pattern_max_len`, the `int` and the 16-bit offset wrap.
-/

namespace TiWlan.Power

open TiWlan.Driver TiWlan.Lib

variable {header pattern payload : List Byte} {g : List ℕ} {i n : ℕ}

/-! ## Segments -/

/-- Neighbouring masked positions are in one segment, except at the end of the header. -/
def sameSegment (a b : ℕ) : Bool := b == a + 1 && b != rxFilterEthHeaderSize

/-- The segments of a mask from position `i` on. -/
def segmentsFrom (mask : ℕ → Bool) (n i : ℕ) : List (List ℕ) :=
  ((List.range' i (n - i)).filter mask).splitBy sameSegment

/-- The segments of a mask of length `n`: the maximal runs of masked positions, cut at the end of
the Ethernet header. -/
def segments (mask : ℕ → Bool) (n : ℕ) : List (List ℕ) :=
  ((List.range n).filter mask).splitBy sameSegment

theorem segments_eq (mask : ℕ → Bool) (n : ℕ) : segments mask n = segmentsFrom mask n 0 := by
  rw [segments, segmentsFrom, List.range_eq_range', Nat.sub_zero]

/-- The size of the fields for some segments. -/
def segmentsSize (segs : List (List ℕ)) : ℕ :=
  (segs.map fun g => g.length + rxFilterFieldOverhead).sum

theorem segmentsFrom_end {mask : ℕ → Bool} (hi : n ≤ i) : segmentsFrom mask n i = [] := by
  rw [segmentsFrom, Nat.sub_eq_zero_of_le hi]
  rfl

theorem segmentsFrom_unmasked {mask : ℕ → Bool} (hi : i < n) (hm : mask i = false) :
    segmentsFrom mask n i = segmentsFrom mask n (i + 1) := by
  have hlen : n - i = n - (i + 1) + 1 := by omega
  rw [segmentsFrom, segmentsFrom, hlen, List.range'_succ, List.filter_cons_of_neg (by simp [hm])]

/-- Where the inner loop of the conversion stops. -/
theorem fieldEnd_spec (mask : ℕ → Bool) (n s j : ℕ) (hj : j ≤ n) :
    fieldEnd mask n s j ≤ n ∧
    (∀ k, j ≤ k → k < fieldEnd mask n s j → mask k = true ∧ ¬ (s < 14 ∧ 14 ≤ k)) ∧
    (fieldEnd mask n s j = n ∨ mask (fieldEnd mask n s j) = false ∨
      (s < 14 ∧ 14 ≤ fieldEnd mask n s j)) := by
  fun_induction fieldEnd mask n s j with
  | case1 j hlt hm =>
    refine ⟨hj, fun k hk hk' => by omega, Or.inr (Or.inl (by simpa using hm))⟩
  | case2 j hlt hm hcut => exact ⟨hj, fun k hk hk' => by omega, Or.inr (Or.inr hcut)⟩
  | case3 j hlt hm hcut ih =>
    obtain ⟨hle, hmid, hend⟩ := ih (by omega)
    refine ⟨hle, ?_, hend⟩
    intro k hk hk'
    rcases Nat.eq_or_lt_of_le hk with rfl | hlt'
    · exact ⟨by simpa using hm, hcut⟩
    · exact hmid k hlt' hk'
  | case4 j hge => exact ⟨hj, fun k hk hk' => by omega, Or.inl (by omega)⟩

/-- A run of positions without the cut inside is one segment. -/
theorem isChain_run {l : ℕ} (hcut : ∀ k, i < k → k < i + l → k ≠ 14) :
    (List.range' i l).IsChain fun a b => sameSegment a b := by
  apply List.isChain_iff_getElem.mpr
  intro k hk
  rw [List.length_range'] at hk
  have hne := hcut (i + (k + 1)) (by omega) (by omega)
  simp [sameSegment, rxFilterEthHeaderSize]
  omega

/-- The segment that starts at `i` ends where the inner loop of the conversion stops. -/
theorem segmentsFrom_masked {mask : ℕ → Bool} (hi : i < n) (hm : mask i = true) :
    segmentsFrom mask n i = List.range' i (fieldEnd mask n i i - i) ::
      segmentsFrom mask n (fieldEnd mask n i i) := by
  obtain ⟨hle, hmid, hend⟩ := fieldEnd_spec mask n i i hi.le
  have hlt := lt_fieldEnd hi hm
  generalize fieldEnd mask n i i = j at hle hmid hend hlt ⊢
  have hsplit : List.range' i (n - i) = List.range' i (j - i) ++ List.range' j (n - j) := by
    have h := List.range'_append_1 (s := i) (m := j - i) (n := n - j)
    rw [show i + (j - i) = j by omega, show j - i + (n - j) = n - i by omega] at h
    exact h.symm
  have hrun : (List.range' i (j - i)).filter mask = List.range' i (j - i) := by
    apply List.filter_eq_self.mpr
    intro k hk
    rw [List.mem_range'_1] at hk
    exact (hmid k hk.1 (by omega)).1
  have hne : List.range' i (j - i) ≠ [] := by
    simp
    omega
  have hchain : (List.range' i (j - i)).IsChain fun a b => sameSegment a b := by
    apply isChain_run
    intro k hk hk'
    have := (hmid k (by omega) (by omega)).2
    omega
  rw [segmentsFrom, hsplit, List.filter_append, hrun, List.splitBy_append ?_,
    List.splitBy_of_isChain hne hchain]
  · rfl
  · -- the run ends at `j - 1`, and the next masked position is not its neighbour or is the cut
    intro a ha b hb
    have ha' : a = j - 1 := by
      have hlast : (List.range' i (j - i)).getLast? = some (j - 1) := by
        rw [List.getLast?_eq_getElem?, List.length_range', List.getElem?_range' (by omega)]
        congr 1
        omega
      rw [hlast] at ha
      simpa using ha.symm
    obtain ⟨hb', hmb⟩ := List.mem_filter.mp (List.mem_of_mem_head? hb)
    rw [List.mem_range'_1] at hb'
    have hcut := (hmid (j - 1) (by omega) (by omega)).2
    by_cases hnext : b = j
    · have h14 : b = 14 := by
        rcases hend with h | h | h
        · omega
        · rw [hnext, h] at hmb
          exact absurd hmb (by simp)
        · omega
      simp [sameSegment, h14, rxFilterEthHeaderSize]
    · simp [sameSegment]
      omega

/-! ## The validator -/

theorem s32_s32_add (a b : ℤ) : s32 (s32 a + b) = s32 (a + b) := by
  unfold s32
  omega

/-- The end of the validator: the open field is counted, then the limits are checked. -/
def finish (x : ValidateVars) : ValidateVars := if x.inField then x.endField else x

/-- The variables at the end, as a count of fields and the sum of their sizes. -/
structure Counted (x : ValidateVars) (count size : ℕ) : Prop where
  count : (finish x).numFields = count
  size : (finish x).fieldsSize = s32 size

theorem Counted.congr {x : ValidateVars} {count count' size size' : ℕ} (h : Counted x count size)
    (hcount : count = count') (hsize : size = size') : Counted x count' size' :=
  hcount ▸ hsize ▸ h

section Validator

variable (mask : ℕ → Bool) (n i : ℕ)

/-- What is left of the loop from position `i` on, entered outside of a field. -/
def CountsOutside : Prop :=
  ∀ (x : ValidateVars) (size : ℕ), x.inField = false → x.fieldsSize = s32 size →
    Counted ((List.range' i (n - i)).foldl (validateStep mask) x)
      (x.numFields + (segmentsFrom mask n i).length)
      (size + segmentsSize (segmentsFrom mask n i))

/-- What is left of the loop from position `i` on, entered in the field that started at `s`: that
field ends where the conversion ends it. -/
def CountsInside : Prop :=
  ∀ (x : ValidateVars) (s size : ℕ), x.inField = true → x.fieldsSize = s32 size → s < i →
    (s < 14 → i ≤ 14) → x.patternLen = i - s →
    Counted ((List.range' i (n - i)).foldl (validateStep mask) x)
      (x.numFields + 1 + (segmentsFrom mask n (fieldEnd mask n s i)).length)
      (size + (fieldEnd mask n s i - s + rxFilterFieldOverhead) +
        segmentsSize (segmentsFrom mask n (fieldEnd mask n s i)))

variable {mask n i}

theorem countsOutside_end : CountsOutside mask n n := by
  intro x size hx hs
  rw [segmentsFrom_end le_rfl, Nat.sub_self]
  exact ⟨by simp [finish, hx], by simpa [finish, hx, segmentsSize] using hs⟩

theorem countsInside_end : CountsInside mask n n := by
  intro x s size hx hs hsi hcut hlen
  have hend : fieldEnd mask n s n = n := by
    rw [fieldEnd, dif_neg (lt_irrefl n)]
  rw [hend, segmentsFrom_end le_rfl, Nat.sub_self]
  refine ⟨by simp [finish, hx, ValidateVars.endField], ?_⟩
  simp [finish, hx, ValidateVars.endField, hs, s32_s32_add, hlen, segmentsSize]

theorem range'_of_lt (hlt : i < n) :
    List.range' i (n - i) = i :: List.range' (i + 1) (n - (i + 1)) := by
  rw [show n - i = n - (i + 1) + 1 by omega, List.range'_succ]

theorem segmentsSize_cons (g : List ℕ) (segs : List (List ℕ)) :
    segmentsSize (g :: segs) = g.length + rxFilterFieldOverhead + segmentsSize segs := rfl

theorem countsOutside_step (hlt : i < n) (hout : CountsOutside mask n (i + 1))
    (hin : CountsInside mask n (i + 1)) : CountsOutside mask n i := by
  intro x size hx hs
  rw [range'_of_lt hlt, List.foldl_cons]
  cases hm : mask i with
  | false =>
    rw [segmentsFrom_unmasked hlt hm]
    have hstep : validateStep mask x i = x := by simp [validateStep, hm, hx]
    rw [hstep]
    exact hout x size hx hs
  | true =>
    have hstep : validateStep mask x i = { x with inField := true, patternLen := 1 } := by
      simp [validateStep, hm, hx]
    -- the field that starts here is open at `i + 1`
    have hnext : fieldEnd mask n i i = fieldEnd mask n i (i + 1) := by
      rw [fieldEnd, dif_pos hlt, if_neg (by simp [hm]), if_neg (by omega)]
    have h := hin { x with inField := true, patternLen := 1 } i size rfl hs (by omega) (by omega)
      (by simp)
    rw [hstep, segmentsFrom_masked hlt hm, hnext, segmentsSize_cons, List.length_cons,
      List.length_range']
    apply h.congr
    · simp only []
      omega
    · omega

theorem countsInside_step (hlt : i < n) (hout : CountsOutside mask n (i + 1))
    (hin : CountsInside mask n (i + 1)) : CountsInside mask n i := by
  intro x s size hx hs hsi hcut hlen
  rw [range'_of_lt hlt, List.foldl_cons]
  cases hm : mask i with
  | false =>
    -- the field ends in front of `i`
    have hend : fieldEnd mask n s i = i := by
      rw [fieldEnd, dif_pos hlt, if_pos (by simp [hm])]
    have hstep : validateStep mask x i = { x.endField with inField := false } := by
      simp [validateStep, hm, hx]
    rw [hend, hstep, segmentsFrom_unmasked hlt hm]
    refine hout { x.endField with inField := false } _ rfl ?_
    simp [ValidateVars.endField, hs, s32_s32_add, hlen]
  | true =>
    by_cases h14 : i = 14
    · -- the end of the header cuts the run
      have hend : fieldEnd mask n s i = i := by
        rw [fieldEnd, dif_pos hlt, if_neg (by simp [hm]), if_pos (by
          unfold rxFilterEthHeaderSize
          omega)]
      have hnext : fieldEnd mask n i i = fieldEnd mask n i (i + 1) := by
        rw [fieldEnd, dif_pos hlt, if_neg (by simp [hm]), if_neg (by omega)]
      have hstep : validateStep mask x i = { x.endField with patternLen := 1 } := by
        rw [validateStep, if_pos hm, if_neg (by simp [hx]),
          if_pos (show i = rxFilterEthHeaderSize from h14)]
      rw [hend, hstep, segmentsFrom_masked hlt hm, hnext]
      have h := hin { x.endField with patternLen := 1 } i
        (size + (i - s + rxFilterFieldOverhead)) hx
        (by simp [ValidateVars.endField, hs, s32_s32_add, hlen]) (by omega) (by omega) (by simp)
      rw [segmentsSize_cons, List.length_cons, List.length_range']
      apply h.congr
      · simp only [ValidateVars.endField]
        omega
      · omega
    · have hend : fieldEnd mask n s i = fieldEnd mask n s (i + 1) := by
        rw [fieldEnd, dif_pos hlt, if_neg (by simp [hm]), if_neg (by
          unfold rxFilterEthHeaderSize
          omega)]
      have hstep : validateStep mask x i = { x with patternLen := x.patternLen + 1 } := by
        simp [validateStep, hm, hx, h14, rxFilterEthHeaderSize]
      rw [hend, hstep]
      exact hin { x with patternLen := x.patternLen + 1 } s size hx hs (by omega) (by omega)
        (by simp only []; omega)

theorem validate_counts (hi : i ≤ n) : CountsOutside mask n i ∧ CountsInside mask n i := by
  induction hi using Nat.decreasingInduction with
  | self => exact ⟨countsOutside_end, countsInside_end⟩
  | of_succ i hlt ih =>
    exact ⟨countsOutside_step hlt ih.1 ih.2, countsInside_step hlt ih.1 ih.2⟩

end Validator

/-- The validator in terms of the segments, with the `int` in which it sums up the sizes. -/
theorem wl1271ValidateWowlanPattern_ok {p : WowPattern} {mask : ℕ → Bool}
    (hmask : p.mask = some mask) :
    wl1271ValidateWowlanPattern p = .ok () ↔
      (segments mask p.pattern.length).length ≤ 8 ∧
        s32 (segmentsSize (segments mask p.pattern.length)) ≤ 95 := by
  have hcounts : CountsOutside mask p.pattern.length 0 := (validate_counts (Nat.zero_le _)).1
  obtain ⟨hcount, hsize⟩ := hcounts {} 0 rfl (by decide)
  rw [← segments_eq, Nat.sub_zero, ← List.range_eq_range', Nat.zero_add] at hcount hsize
  unfold finish at hcount hsize
  unfold wl1271ValidateWowlanPattern
  rw [hmask]
  simp only [hcount, hsize, rxFilterMaxFields, rxFilterMaxFieldsSize]
  split_ifs with hfields hlarge
  · simp only [false_iff]
    omega
  · simp only [false_iff]
    omega
  · simp only [true_iff]
    omega

/-! ## The conversion -/

/-- The field for a segment. -/
def segmentField (pattern : List Byte) (g : List ℕ) : RxFilterField :=
  let start := g.headD 0
  { offset := if start < rxFilterEthHeaderSize then start else start - rxFilterEthHeaderSize
    len := g.length
    ethernetHeader := decide (start < rxFilterEthHeaderSize)
    pattern := (pattern.drop start).take g.length }

/-- The field that the conversion makes of a segment, with its narrow fields. -/
def convertedField (pattern : List Byte) (g : List ℕ) : RxFilterField :=
  rxFilterField pattern (g.headD 0) (g.headD 0 + g.length)

/-- The conversion from position `i` on, when all allocations succeed and the fields fit. -/
theorem convertLoop_eq {mask : ℕ → Bool} {env : ConvertEnv} (henv : ∀ k, env.fieldOk k = true)
    (i : ℕ) (fields : List RxFilterField)
    (hfit : fields.length + (segmentsFrom mask pattern.length i).length ≤ 8) :
    convertLoop mask pattern env i fields =
      .ok (fields ++ (segmentsFrom mask pattern.length i).map (convertedField pattern)) := by
  fun_induction convertLoop mask pattern env i fields with
  | case1 i fields hi hmask hfull =>
    rw [segmentsFrom_masked hi hmask, List.length_cons] at hfit
    unfold rxFilterMaxFields at hfull
    omega
  | case2 i fields hi hmask hfull hfail => simp [henv] at hfail
  | case3 i fields hi hmask j hfull hok ih =>
    have hlt : i < j := lt_fieldEnd hi hmask
    have hfield : convertedField pattern (List.range' i (j - i)) = rxFilterField pattern i j := by
      obtain ⟨d, hd⟩ : ∃ d, j = i + (d + 1) := ⟨j - i - 1, by omega⟩
      rw [convertedField, hd, Nat.add_sub_cancel_left, List.range'_succ]
      simp
    rw [segmentsFrom_masked hi hmask] at hfit ⊢
    rw [ih (by simpa [Nat.add_assoc, Nat.add_comm 1] using hfit), List.map_cons, hfield,
      List.append_assoc]
    rfl
  | case4 i fields hi hmask ih =>
    rw [segmentsFrom_unmasked hi (by simpa using hmask)] at hfit ⊢
    exact ih hfit
  | case5 i fields hi =>
    rw [segmentsFrom_end (by omega)]
    simp

/-- A segment is a run of positions that does not cross the end of the header. -/
theorem segment_run (hg : g.IsChain fun a b => sameSegment a b) :
    g = List.range' (g.headD 0) g.length ∧ (g.headD 0 < 14 → g.headD 0 + g.length ≤ 14) := by
  induction g with
  | nil => simp
  | cons a rest ih =>
    cases rest with
    | nil =>
      refine ⟨rfl, ?_⟩
      intro ha
      simpa using ha
    | cons b rest =>
      obtain ⟨hab, hrest⟩ := List.isChain_cons_cons.mp hg
      obtain ⟨hrun, hcut⟩ := ih hrest
      simp [sameSegment, rxFilterEthHeaderSize] at hab
      simp only [List.headD_cons, List.length_cons] at hrun hcut ⊢
      constructor
      · rw [List.range'_succ, ← hab.1, ← hrun]
      · intro ha
        have := hcut (by omega)
        omega

theorem mem_segment {mask : ℕ → Bool} (hg : g ∈ segments mask n) :
    g ≠ [] ∧ g = List.range' (g.headD 0) g.length ∧ (g.headD 0 < 14 → g.headD 0 + g.length ≤ 14) ∧
      g.headD 0 + g.length ≤ n := by
  have hne := List.ne_nil_of_mem_splitBy hg
  obtain ⟨hrun, hcut⟩ := segment_run (List.isChain_of_mem_splitBy hg)
  refine ⟨hne, hrun, hcut, ?_⟩
  -- the last position of the segment is one of the mask
  have hpos := List.length_pos_of_ne_nil hne
  have hlast : g.headD 0 + (g.length - 1) ∈ g := by
    have hmem : g.headD 0 + (g.length - 1) ∈ List.range' (g.headD 0) g.length := by
      rw [List.mem_range'_1]
      omega
    rwa [← hrun] at hmem
  have hmem : g.headD 0 + (g.length - 1) ∈ (List.range n).filter mask := by
    rw [← List.flatten_splitBy sameSegment ((List.range n).filter mask)]
    exact List.mem_flatten.mpr ⟨g, hg, hlast⟩
  have hlt := List.mem_range.mp (List.mem_filter.mp hmem).1
  omega

/-- Nothing of a field is truncated when its length fits in 8 bits and its offset in 16. -/
theorem convertedField_eq (hlen : g.length < 2 ^ 8) (hoff : g.headD 0 < 2 ^ 16 + 14) :
    convertedField pattern g = segmentField pattern g := by
  have hu8 : u8 ((g.headD 0 + g.length : ℕ) - (g.headD 0 : ℕ) : ℤ) = g.length := by
    unfold u8
    omega
  unfold convertedField rxFilterField segmentField
  simp only [hu8]
  split_ifs with hstart
  · rfl
  · have hu16 : u16 ((g.headD 0 : ℕ) - (rxFilterEthHeaderSize : ℕ) : ℤ) =
        g.headD 0 - rxFilterEthHeaderSize := by
      unfold rxFilterEthHeaderSize at hstart ⊢
      unfold u16
      omega
    rw [hu16]

theorem length_le_segmentsSize {segs : List (List ℕ)} (hg : g ∈ segs) :
    g.length + 4 ≤ segmentsSize segs :=
  List.single_le_sum (by simp) _ (List.mem_map.mpr ⟨g, hg, rfl⟩)

/-! ## Frames -/

/-- The firmware compares a field with the Ethernet header or with the data behind it. -/
def FieldMatches (header payload : List Byte) (f : RxFilterField) : Prop :=
  ∀ k < f.len, (if f.ethernetHeader then header else payload)[f.offset + k]? = f.pattern[k]?

/-- Every masked byte of the pattern is at its position of the frame. -/
def PatternMatches (mask : ℕ → Bool) (pattern frame : List Byte) : Prop :=
  ∀ i < pattern.length, mask i = true → frame[i]? = pattern[i]?

/-- The field of a segment compares the positions of the segment. -/
theorem fieldMatches_iff {mask : ℕ → Bool} (hg : g ∈ segments mask pattern.length)
    (hheader : header.length = 14) :
    FieldMatches header payload (segmentField pattern g) ↔
      ∀ i ∈ g, (header ++ payload)[i]? = pattern[i]? := by
  obtain ⟨hne, hrun, hcut, hle⟩ := mem_segment hg
  have hread : ∀ k < g.length, (if (segmentField pattern g).ethernetHeader then header
      else payload)[(segmentField pattern g).offset + k]? =
        (header ++ payload)[g.headD 0 + k]? := by
    intro k hk
    unfold segmentField rxFilterEthHeaderSize
    by_cases hstart : g.headD 0 < 14
    · have := hcut hstart
      simp only [hstart, decide_true, if_true]
      rw [List.getElem?_append_left (by omega)]
    · simp only [hstart, decide_false, if_false]
      rw [List.getElem?_append_right (by omega), hheader]
      congr 1
      omega
  have hbyte : ∀ k < g.length, (segmentField pattern g).pattern[k]? = pattern[g.headD 0 + k]? := by
    intro k hk
    unfold segmentField
    simp only []
    rw [List.getElem?_take_of_lt hk, List.getElem?_drop]
  constructor
  · intro h i hi
    rw [hrun, List.mem_range'_1] at hi
    obtain ⟨k, rfl⟩ := Nat.exists_eq_add_of_le hi.1
    have hk : k < g.length := by omega
    rw [← hread k hk, ← hbyte k hk]
    exact h k hk
  · intro h k hk
    have hk' : k < g.length := hk
    rw [hread k hk', hbyte k hk']
    have hmem : g.headD 0 + k ∈ List.range' (g.headD 0) g.length := by
      rw [List.mem_range'_1]
      omega
    rw [← hrun] at hmem
    exact h _ hmem

/-- All fields together compare the masked positions. -/
theorem fields_match_iff {mask : ℕ → Bool} (hheader : header.length = 14) :
    (∀ f ∈ (segments mask pattern.length).map (segmentField pattern),
        FieldMatches header payload f) ↔
      PatternMatches mask pattern (header ++ payload) := by
  have hmem : ∀ i, (∃ g ∈ segments mask pattern.length, i ∈ g) ↔
      i < pattern.length ∧ mask i = true := by
    intro i
    rw [← List.mem_flatten, segments, List.flatten_splitBy, List.mem_filter, List.mem_range]
  constructor
  · intro h i hi hm
    obtain ⟨g, hg, hig⟩ := (hmem i).mpr ⟨hi, hm⟩
    exact (fieldMatches_iff hg hheader).mp (h _ (List.mem_map_of_mem hg)) i hig
  · intro h f hf
    obtain ⟨g, hg, rfl⟩ := List.mem_map.mp hf
    apply (fieldMatches_iff hg hheader).mpr
    intro i hi
    obtain ⟨hlt, hm⟩ := (hmem i).mp ⟨g, hg, hi⟩
    exact h i hlt hm

/-- The buffer of the command has the size that is computed for it. -/
theorem flatten_length {mask : ℕ → Bool} :
    wl1271RxFilterGetFieldsSize ⟨(segments mask pattern.length).map (segmentField pattern)⟩ =
      (wl1271RxFilterFlattenFields
        ⟨(segments mask pattern.length).map (segmentField pattern)⟩).length := by
  unfold wl1271RxFilterGetFieldsSize wl1271RxFilterFlattenFields
  rw [List.length_flatMap, List.map_map, List.map_map]
  congr 1
  apply List.map_congr_left
  intro g hg
  obtain ⟨_, _, _, hle⟩ := mem_segment hg
  have hbytes : (((pattern.drop (g.headD 0)).take g.length).take g.length).length = g.length := by
    rw [List.take_take, Nat.min_self, List.length_take, List.length_drop]
    omega
  simp only [Function.comp_apply, segmentField, List.length_append, hbytes]
  exact Nat.add_comm _ _

/-! ## The pattern and its filter -/

/-- For every pattern with a mask for which the sum of the sizes fits in an `int` (or is not
needed, because there are too many segments), the validator checks the limits of the firmware. When
it accepts the pattern and the segments start within reach of a 16-bit offset, the conversion
succeeds with one field for each segment, in order, which matches the frames of the pattern. -/
theorem wowPattern_exact (p : WowPattern) (mask : ℕ → Bool) (hmask : p.mask = some mask)
    (hint : (segments mask p.pattern.length).length ≤ 8 →
      segmentsSize (segments mask p.pattern.length) < 2 ^ 31) :
    (wl1271ValidateWowlanPattern p = .ok () ↔
      (segments mask p.pattern.length).length ≤ rxFilterMaxFields ∧
        segmentsSize (segments mask p.pattern.length) ≤ rxFilterMaxFieldsSize) ∧
    (wl1271ValidateWowlanPattern p = .ok () →
      (∀ g ∈ segments mask p.pattern.length, g.headD 0 < 2 ^ 16 + rxFilterEthHeaderSize) →
      ∀ env : ConvertEnv, env.filterOk = true → (∀ k, env.fieldOk k = true) →
      ∃ filter, wl1271ConvertWowlanPatternToRxFilter p env = .ok filter ∧
        filter.fields = (segments mask p.pattern.length).map (segmentField p.pattern) ∧
        (∀ header payload : List Byte, header.length = rxFilterEthHeaderSize →
          ((∀ f ∈ filter.fields, FieldMatches header payload f) ↔
            PatternMatches mask p.pattern (header ++ payload))) ∧
        wl1271RxFilterGetFieldsSize filter = (wl1271RxFilterFlattenFields filter).length) := by
  have hvalid : wl1271ValidateWowlanPattern p = .ok () ↔
      (segments mask p.pattern.length).length ≤ 8 ∧
        segmentsSize (segments mask p.pattern.length) ≤ 95 := by
    rw [wl1271ValidateWowlanPattern_ok hmask]
    constructor
    · rintro ⟨hfields, hsize⟩
      rw [s32_of_lt (by omega) (by exact_mod_cast hint hfields)] at hsize
      exact ⟨hfields, by exact_mod_cast hsize⟩
    · rintro ⟨hfields, hsize⟩
      rw [s32_of_lt (by omega) (by exact_mod_cast hint hfields)]
      exact ⟨hfields, by exact_mod_cast hsize⟩
  refine ⟨hvalid, ?_⟩
  intro hok hoff env hfilter hfield
  obtain ⟨hfields, hsize⟩ := hvalid.mp hok
  have hconv : (segments mask p.pattern.length).map (convertedField p.pattern) =
      (segments mask p.pattern.length).map (segmentField p.pattern) := by
    apply List.map_congr_left
    intro g hg
    have hlen := length_le_segmentsSize hg
    exact convertedField_eq (by omega) (hoff g hg)
  refine ⟨⟨(segments mask p.pattern.length).map (segmentField p.pattern)⟩, ?_, rfl, ?_,
    flatten_length⟩
  · unfold wl1271ConvertWowlanPatternToRxFilter
    rw [if_neg (by simp [hfilter]), hmask, Option.getD_some,
      convertLoop_eq hfield 0 [] (by simpa [← segments_eq] using hfields), ← segments_eq, hconv]
    rfl
  · intro header payload hheader
    exact fields_match_iff hheader

/-- Bytes 0, 1 and 12 to 15 of a pattern, which cross the end of the header. -/
def crossingPattern : WowPattern :=
  { mask := some fun i => i < 2 || 12 ≤ i
    pattern := [1, 2, 3, 4, 5, 6, 7, 8, 9, 10, 11, 12, 13, 14, 15, 16] }

theorem wowPattern_exact_crossing :
    segments (fun i => i < 2 || 12 ≤ i) 16 = [[0, 1], [12, 13], [14, 15]] ∧
    ∃ filter, wl1271ConvertWowlanPatternToRxFilter crossingPattern {} = .ok filter ∧
      filter.fields = (segments (fun i => i < 2 || 12 ≤ i) 16).map
        (segmentField crossingPattern.pattern) := by
  have hexact := wowPattern_exact crossingPattern (fun i => i < 2 || 12 ≤ i) rfl (by decide)
  obtain ⟨filter, hconv, hfields, -⟩ :=
    hexact.2 (hexact.1.mpr (by decide)) (by decide) {} rfl (fun _ => rfl)
  exact ⟨by decide, filter, hconv, hfields⟩

/-! ## Why the bounds are needed -/

/-- A single masked position is a segment. -/
theorem segments_single (n : ℕ) : segments (· == n) (n + 1) = [[n]] := by
  have hrest : (List.range n).filter (· == n) = [] := by
    apply List.filter_eq_nil_iff.mpr
    intro k hk
    have := List.mem_range.mp hk
    simp
    omega
  rw [segments, List.range_succ, List.filter_append, hrest]
  simp [List.splitBy, List.splitBy.loop]

/-- A pattern without gaps is cut once. -/
theorem segments_full (hn : 14 < n) :
    segments (fun _ => true) n = [List.range' 0 14, List.range' 14 (n - 14)] := by
  have hheader : fieldEnd (fun _ => true) n 0 0 = 14 := by
    obtain ⟨hle, hmid, hend⟩ := fieldEnd_spec (fun _ => true) n 0 0 (Nat.zero_le n)
    have hlt : 0 < fieldEnd (fun _ => true) n 0 0 := lt_fieldEnd (by omega) rfl
    have hcut := (hmid (fieldEnd (fun _ => true) n 0 0 - 1) (Nat.zero_le _) (by omega)).2
    simp only [Bool.true_eq_false, false_or] at hend
    omega
  have hdata : fieldEnd (fun _ => true) n 14 14 = n := by
    obtain ⟨hle, hmid, hend⟩ := fieldEnd_spec (fun _ => true) n 14 14 hn.le
    simp only [Bool.true_eq_false, false_or] at hend
    omega
  rw [segments_eq, segmentsFrom_masked (by omega) rfl, hheader, segmentsFrom_masked hn rfl, hdata,
    segmentsFrom_end le_rfl]

/-- A masked byte at position 65550. -/
def farPattern : WowPattern :=
  { mask := some (· == 65550), pattern := List.replicate (65550 + 1) 0 }

/-- A pattern of the largest length without gaps. -/
def fullPattern : WowPattern :=
  { mask := some fun _ => true, pattern := List.replicate (2 ^ 31 - 1) 0 }

/-- Both bounds are needed. The validator accepts a pattern of 2³¹ − 1 bytes, because the sum of
the sizes wraps, and the filter for a byte at position 65550 compares byte 14 instead. -/
theorem wowPattern_wraps :
    (wl1271ValidateWowlanPattern fullPattern = .ok () ∧
      rxFilterMaxFieldsSize <
        segmentsSize (segments (fun _ => true) fullPattern.pattern.length)) ∧
    wl1271ValidateWowlanPattern farPattern = .ok () ∧
    ∃ filter, wl1271ConvertWowlanPatternToRxFilter farPattern {} = .ok filter ∧
      (∀ f ∈ filter.fields, FieldMatches (List.replicate 14 0) [0] f) ∧
      ¬ PatternMatches (· == 65550) farPattern.pattern (List.replicate 14 0 ++ [0]) := by
  have hfull : segments (fun _ => true) fullPattern.pattern.length =
      [List.range' 0 14, List.range' 14 (2 ^ 31 - 1 - 14)] := by
    rw [fullPattern, List.length_replicate]
    exact segments_full (by omega)
  have hsize : segmentsSize (segments (fun _ => true) fullPattern.pattern.length) =
      2 ^ 31 + 7 := by
    rw [hfull, segmentsSize_cons, segmentsSize_cons, List.length_range', List.length_range']
    rfl
  have hfar : segments (· == 65550) farPattern.pattern.length = [[65550]] := by
    rw [farPattern, List.length_replicate]
    exact segments_single 65550
  refine ⟨⟨?_, ?_⟩, ?_, ?_⟩
  · rw [wl1271ValidateWowlanPattern_ok rfl, hsize, hfull]
    decide
  · rw [hsize]
    decide
  · rw [wl1271ValidateWowlanPattern_ok rfl, hfar]
    decide
  · have hfield : convertedField farPattern.pattern [65550] =
        { offset := 0, len := 1, ethernetHeader := false, pattern := [0] } := by
      have hbytes : (farPattern.pattern.drop 65550).take 1 = [0] := by
        rw [farPattern, List.drop_replicate]
        rfl
      simp [convertedField, rxFilterField, rxFilterEthHeaderSize, u8, u16, hbytes]
    refine ⟨⟨[convertedField farPattern.pattern [65550]]⟩, ?_, ?_, ?_⟩
    · have hloop : convertLoop (· == 65550) farPattern.pattern {} 0 [] =
          .ok [convertedField farPattern.pattern [65550]] := by
        rw [convertLoop_eq (fun _ => rfl) 0 [] (by rw [← segments_eq, hfar]; decide),
          ← segments_eq, hfar]
        rfl
      exact congrArg (Except.map RxFilter.mk) hloop
    · intro f hf k hk
      rw [List.mem_singleton.mp hf, hfield] at hk ⊢
      obtain rfl : k = 0 := by simpa using hk
      rfl
    · intro h
      have hbyte := h 65550 (by rw [farPattern, List.length_replicate]; omega) (by simp)
      rw [List.getElem?_eq_none (by simp), farPattern, List.getElem?_replicate] at hbyte
      simp at hbyte

end TiWlan.Power
