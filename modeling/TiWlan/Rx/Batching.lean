import TiWlan.Driver.Rx
import TiWlan.Lib.Ring

/-!
# Receive batches

`wlcore_rx` (`wlcore/rx.c`, lines 208–298) sizes a batch in one loop and splits it in another.
Positions in the descriptor ring are counted without wrap here: the driver's counter stands at
`a`, its descriptor is `a % num_rx_desc`, and `p` descriptors are announced.

* `rxSizeLoop_eq`: the sizing loop adds up the longest run of announced lengths that fits;
* `rxSplitLoop_eq`: the splitting loop consumes a run of the same total length;
* `rxLoop_eq`: each batch consumes at least one descriptor, so the outer loop ends;
* `rx_batches`: the result for `wlcore_rx`.
-/

namespace TiWlan.Rx

open TiWlan.Driver TiWlan.Lib

variable {r : RxRun} {size : ℕ} (des : ℕ) (ls : List ℕ) (a : ℕ)

section
variable {c : RxConf} {descs : ℕ → ℕ}

/-! ## Lengths -/

/-- The aligned lengths of the `p` descriptors from position `a` on. -/
def lens (c : RxConf) (descs : ℕ → ℕ) (a p : ℕ) : List ℕ :=
  (List.range p).map fun i => c.alignLen (descs ((a + i) % c.numRxDesc))

theorem lens_succ (p : ℕ) :
    lens c descs a (p + 1) = c.alignLen (descs (a % c.numRxDesc)) :: lens c descs (a + 1) p := by
  simp only [lens, List.range_succ_eq_map, List.map_cons, List.map_map, Nat.add_zero]
  congr 2
  funext i
  simp [Nat.add_assoc, Nat.add_comm 1 i]

theorem lens_length (p : ℕ) : (lens c descs a p).length = p := by simp [lens]

theorem lens_take {a p k : ℕ} (hk : k ≤ p) : (lens c descs a p).take k = lens c descs a k := by
  rw [lens, ← List.map_take, List.take_range, Nat.min_eq_left hk, lens]

theorem getBufSize_lt : c.getBufSize des < 2 ^ 16 := by
  unfold RxConf.getBufSize
  split
  · have hand : des &&& 0xFFFF00 ≤ 0xFFFF00 := Nat.and_le_right
    rw [Nat.shiftRight_eq_div_pow]
    omega
  · have hand : des &&& 0xFFF00 ≤ 0xFFF00 := Nat.and_le_right
    rw [Nat.shiftRight_eq_div_pow]
    omega

theorem getBufSize_le_alignLen : c.getBufSize des ≤ c.alignLen des := by
  unfold RxConf.alignLen RxConf.getAlignBufSize
  split
  · exact le_alignUp _ (by decide)
  · exact le_rfl

theorem alignLen_le : c.alignLen des ≤ 2 ^ 16 := by
  have hlen := getBufSize_lt (c := c) des
  unfold RxConf.alignLen RxConf.getAlignBufSize
  split
  · exact alignUp_le_of_dvd (by decide) (by omega) (by decide)
  · omega

theorem lens_sum_le (p : ℕ) : (lens c descs a p).sum ≤ p * 2 ^ 16 := by
  have hall : ∀ l ∈ lens c descs a p, l ≤ 2 ^ 16 := by
    intro l hl
    obtain ⟨i, -, rfl⟩ := List.mem_map.mp hl
    exact alignLen_le _
  have hsum := List.sum_le_card_nsmul _ _ hall
  rwa [lens_length, smul_eq_mul] at hsum

/-! ## Sizing -/

/-- The total of the longest run of lengths that fits into `cap` behind `size`. -/
def fitSum (cap : ℕ) : ℕ → List ℕ → ℕ
  | size, [] => size
  | size, l :: ls => if cap < size + l then size else fitSum cap (size + l) ls

theorem fitSum_le {cap : ℕ} (hsize : size ≤ cap) : fitSum cap size ls ≤ cap := by
  induction ls generalizing size with
  | nil => exact hsize
  | cons l ls ih =>
    unfold fitSum
    split
    · exact hsize
    · exact ih (by omega)

theorem fitSum_take (cap : ℕ) (ls : List ℕ) (size : ℕ) :
    ∃ k ≤ ls.length, fitSum cap size ls = size + (ls.take k).sum := by
  induction ls generalizing size with
  | nil => exact ⟨0, le_rfl, rfl⟩
  | cons l ls ih =>
    unfold fitSum
    split
    · exact ⟨0, Nat.zero_le _, rfl⟩
    · obtain ⟨k, hk, hsum⟩ := ih (size + l)
      refine ⟨k + 1, by simpa using hk, ?_⟩
      rw [hsum, List.take_succ_cons, List.sum_cons, Nat.add_assoc]

theorem le_fitSum (cap : ℕ) (ls : List ℕ) (size : ℕ) : size ≤ fitSum cap size ls := by
  obtain ⟨k, -, hsum⟩ := fitSum_take cap ls size
  omega

theorem fitSum_pos {cap l : ℕ} (hl : 0 < l) (hcap : l ≤ cap) : 0 < fitSum cap 0 (l :: ls) := by
  have hfit : fitSum cap 0 (l :: ls) = fitSum cap (0 + l) ls := if_neg (by omega)
  have hle := le_fitSum cap ls (0 + l)
  omega

/-- A descriptor ring whose size divides 256, as the `u8` counter of the firmware needs it. -/
structure GoodRing (c : RxConf) : Prop where
  pos : 0 < c.numRxDesc
  dvd : c.numRxDesc ∣ 256

theorem GoodRing.le (h : GoodRing c) : c.numRxDesc ≤ 256 := Nat.le_of_dvd (by decide) h.dvd

theorem GoodRing.next (h : GoodRing c) (a : ℕ) :
    u32 ((a % c.numRxDesc : ℕ) + 1) % c.numRxDesc = (a + 1) % c.numRxDesc := by
  have hlt := Nat.mod_lt a h.pos
  have hle := h.le
  have hu32 : u32 ((a % c.numRxDesc : ℕ) + 1) = a % c.numRxDesc + 1 := by
    unfold u32
    omega
  rw [hu32, Nat.mod_add_mod]

theorem u32_next : u32 ((a % 2 ^ 32 : ℕ) + 1) = (a + 1) % 2 ^ 32 := by
  unfold u32
  omega

theorem u32_add {x y : ℕ} (h : x + y < 2 ^ 32) : u32 (x + y) = x + y := by
  have := u32_of_lt h
  push_cast at this
  exact this

theorem rxSizeLoop_eq (hring : GoodRing c) (p a fuel size : ℕ) (hfuel : p < fuel)
    (hp : p < c.numRxDesc) (hsize : size + (lens c descs a p).sum < 2 ^ 32) :
    rxSizeLoop c descs ((a + p) % c.numRxDesc) fuel (a % c.numRxDesc) size =
      some (fitSum c.aggrBufSize size (lens c descs a p)) := by
  induction p generalizing a fuel size with
  | zero =>
    obtain ⟨fuel, rfl⟩ : ∃ k, fuel = k + 1 := ⟨fuel - 1, by omega⟩
    rw [rxSizeLoop, Nat.add_zero, if_pos rfl]
    rfl
  | succ p ih =>
    obtain ⟨fuel, rfl⟩ : ∃ k, fuel = k + 1 := ⟨fuel - 1, by omega⟩
    have hne : a % c.numRxDesc ≠ (a + (p + 1)) % c.numRxDesc :=
      add_mod_ne (c := a) (a := 0) (by omega) (by omega)
    rw [lens_succ, List.sum_cons] at hsize
    have hadd : u32 (size + c.alignLen (descs (a % c.numRxDesc))) =
        size + c.alignLen (descs (a % c.numRxDesc)) := u32_add (by omega)
    rw [rxSizeLoop, if_neg hne, lens_succ, fitSum]
    dsimp only
    rw [hadd, hring.next]
    split
    · rfl
    · have hrest := ih (a + 1) fuel (size + c.alignLen (descs (a % c.numRxDesc))) (by omega)
        (by omega) (by omega)
      rwa [Nat.add_assoc, Nat.add_comm 1 p] at hrest

/-! ## Splitting -/

/-- The packets of `j` descriptors from position `a` on, at `offset`. -/
def pktsFrom (c : RxConf) (descs : ℕ → ℕ) : ℕ → ℕ → ℕ → List RxPkt
  | _, _, 0 => []
  | a, offset, j + 1 =>
    ⟨a % c.numRxDesc, offset, c.getBufSize (descs (a % c.numRxDesc))⟩ ::
      pktsFrom c descs (a + 1) (offset + c.alignLen (descs (a % c.numRxDesc))) j

theorem pktsFrom_getElem? (offset : ℕ) {i j : ℕ} (hi : i < j) :
    (pktsFrom c descs a offset j)[i]? =
      some ⟨(a + i) % c.numRxDesc, offset + (lens c descs a i).sum,
        c.getBufSize (descs ((a + i) % c.numRxDesc))⟩ := by
  induction j generalizing a offset i with
  | zero => omega
  | succ j ih =>
    cases i with
    | zero => rfl
    | succ i =>
      have hrest := ih (a + 1) (offset + c.alignLen (descs (a % c.numRxDesc))) (i := i) (by omega)
      rw [pktsFrom, List.getElem?_cons_succ, hrest, lens_succ, List.sum_cons,
        show a + 1 + i = a + (i + 1) by omega, Nat.add_assoc offset]

theorem pktsFrom_length (offset j : ℕ) : (pktsFrom c descs a offset j).length = j := by
  induction j generalizing a offset with
  | zero => rfl
  | succ j ih => rw [pktsFrom, List.length_cons, ih]

theorem pktsFrom_desc (offset j : ℕ) :
    (pktsFrom c descs a offset j).map (·.desc) =
      (List.range j).map fun i => (a + i) % c.numRxDesc := by
  apply List.ext_getElem?
  intro i
  by_cases hi : i < j
  · rw [List.getElem?_map, pktsFrom_getElem? a offset hi, List.getElem?_map, List.getElem?_range hi]
    rfl
  · rw [List.getElem?_eq_none (by simp [pktsFrom_length]; omega),
      List.getElem?_eq_none (by simp; omega)]

/-- The splitting loop stops at a descriptor at which the total is that of the batch; descriptors
of length zero at the end of the batch are left for the next one. -/
theorem rxSplitLoop_eq (hring : GoodRing c) (hsize : size < 2 ^ 32) (k a fuel offset : ℕ)
    (hfuel : k < fuel) (hsum : offset + (lens c descs a k).sum = size) :
    ∃ j ≤ k, offset + (lens c descs a j).sum = size ∧ (offset < size → 0 < j) ∧
      rxSplitLoop c descs size fuel (a % c.numRxDesc) (a % 2 ^ 32) offset =
        some (pktsFrom c descs a offset j, (a + j) % c.numRxDesc, (a + j) % 2 ^ 32) := by
  induction k generalizing a fuel offset with
  | zero =>
    obtain ⟨fuel, rfl⟩ : ∃ n, fuel = n + 1 := ⟨fuel - 1, by omega⟩
    have hend : ¬offset < size := by
      have : (lens c descs a 0).sum = 0 := rfl
      omega
    refine ⟨0, le_rfl, hsum, fun hlt => absurd hlt hend, ?_⟩
    rw [rxSplitLoop, if_neg hend]
    rfl
  | succ k ih =>
    obtain ⟨fuel, rfl⟩ : ∃ n, fuel = n + 1 := ⟨fuel - 1, by omega⟩
    by_cases hlt : offset < size
    · rw [lens_succ, List.sum_cons] at hsum
      have hadd : u32 (offset + c.alignLen (descs (a % c.numRxDesc))) =
          offset + c.alignLen (descs (a % c.numRxDesc)) := u32_add (by omega)
      obtain ⟨j, hj, hjsum, -, hloop⟩ := ih (a + 1) fuel
        (offset + c.alignLen (descs (a % c.numRxDesc))) (by omega) (by omega)
      refine ⟨j + 1, by omega, ?_, fun _ => Nat.succ_pos j, ?_⟩
      · rw [lens_succ, List.sum_cons, ← Nat.add_assoc]
        exact hjsum
      · rw [rxSplitLoop, if_pos hlt]
        dsimp only
        rw [hadd, hring.next, u32_next, hloop, Option.map_some, pktsFrom,
          show a + 1 + j = a + (j + 1) by omega]
    · refine ⟨0, Nat.zero_le _, ?_, fun h => absurd h hlt, ?_⟩
      · have : (lens c descs a 0).sum = 0 := rfl
        omega
      · rw [rxSplitLoop, if_neg hlt]
        rfl

/-! ## The outer loop -/

/-- A bus access of a batch: its packets follow each other from some position on, and their data
are inside of it. -/
def GoodRead (c : RxConf) (descs : ℕ → ℕ) (r : RxRead) : Prop :=
  1 ≤ r.len ∧ r.len ≤ c.aggrBufSize ∧
    ∃ a j, r.pkts = pktsFrom c descs a 0 j ∧ (lens c descs a j).sum ≤ r.len

/-- What a run from position `a` with `p` descriptors announced does. -/
structure GoodRun (c : RxConf) (descs : ℕ → ℕ) (a p : ℕ) (r : RxRun) : Prop where
  reads : ∀ rd ∈ r.reads, GoodRead c descs rd
  consumed : ∃ k ≤ p, (r.reads.flatMap (·.pkts)).map (·.desc) =
      (List.range k).map (fun i => (a + i) % c.numRxDesc) ∧
    r.rxCounter = (a + k) % 2 ^ 32 ∧
    ((∀ l ∈ lens c descs a p, 1 ≤ l ∧ l ≤ c.aggrBufSize) → r.ok = true → k = p)

/-- The loop ends without a further batch. -/
theorem GoodRun.stop {a p : ℕ} {ok : Bool} {reads : List RxRead}
    (hreads : ∀ rd ∈ reads, GoodRead c descs rd ∧ rd.pkts = [])
    (hend : (∀ l ∈ lens c descs a p, 1 ≤ l ∧ l ≤ c.aggrBufSize) → ok = true → p = 0) :
    GoodRun c descs a p ⟨ok, reads, a % 2 ^ 32⟩ := by
  refine ⟨fun rd hrd => (hreads rd hrd).1, 0, Nat.zero_le _, ?_, rfl, ?_⟩
  · have hnil : reads.flatMap (·.pkts) = [] := by
      rw [List.flatMap_eq_nil_iff]
      exact fun rd hrd => (hreads rd hrd).2
    rw [hnil]
    rfl
  · exact fun hall hok => (hend hall hok).symm

/-- A batch of `j` descriptors before a run. -/
theorem GoodRun.batch {a p j : ℕ} (hj : j ≤ p) (h : GoodRun c descs (a + j) (p - j) r)
    (hpos : 1 ≤ size) (hcap : size ≤ c.aggrBufSize) (hsum : (lens c descs a j).sum = size) :
    GoodRun c descs a p { r with reads := ⟨size, true, pktsFrom c descs a 0 j⟩ :: r.reads } := by
  obtain ⟨k, hk, hdesc, hcount, hall⟩ := h.consumed
  refine ⟨?_, j + k, by omega, ?_, ?_, ?_⟩
  · intro rd hrd
    rcases List.mem_cons.mp hrd with rfl | hrd
    · exact ⟨hpos, hcap, a, j, rfl, hsum.le⟩
    · exact h.reads rd hrd
  · rw [List.flatMap_cons, List.map_append, hdesc, pktsFrom_desc, List.range_add, List.map_append,
      List.map_map]
    congr 2
    funext i
    simp [Nat.add_assoc]
  · rw [hcount, Nat.add_assoc]
  · intro hlens hok
    have hrest : ∀ l ∈ lens c descs (a + j) (p - j), 1 ≤ l ∧ l ≤ c.aggrBufSize := by
      intro l hl
      obtain ⟨i, hi, rfl⟩ := List.mem_map.mp hl
      refine hlens _ (List.mem_map.mpr ⟨j + i, ?_, by simp [Nat.add_assoc]⟩)
      rw [List.mem_range] at hi ⊢
      omega
    have := hall hrest hok
    omega

theorem rxLoop_eq (hring : GoodRing c) (env : RxEnv) (p a fuel n : ℕ) (hfuel : p < fuel)
    (hp : p < c.numRxDesc) :
    ∃ r, rxLoop c descs ((a + p) % c.numRxDesc) env fuel (a % c.numRxDesc) (a % 2 ^ 32) n =
      some r ∧ GoodRun c descs a p r := by
  induction p using Nat.strong_induction_on generalizing a fuel n with
  | _ p ih =>
    obtain ⟨fuel, rfl⟩ : ∃ k, fuel = k + 1 := ⟨fuel - 1, by omega⟩
    unfold rxLoop
    by_cases hdone : p = 0
    · subst hdone
      rw [Nat.add_zero, if_pos rfl]
      exact ⟨_, rfl, .stop (by simp) fun _ _ => rfl⟩
    have hne : a % c.numRxDesc ≠ (a + p) % c.numRxDesc :=
      add_mod_ne (c := a) (a := 0) (by omega) (by omega)
    have hbound : (lens c descs a p).sum ≤ _ := lens_sum_le a p
    have hle := hring.le
    rw [if_neg hne, rxSizeLoop_eq hring p a (c.numRxDesc + 1) 0 (by omega) hp (by omega)]
    dsimp only
    obtain ⟨k, hk, hfit⟩ := fitSum_take c.aggrBufSize (lens c descs a p) 0
    rw [lens_length] at hk
    rw [lens_take hk, Nat.zero_add] at hfit
    have hcap := fitSum_le (lens c descs a p) (Nat.zero_le c.aggrBufSize)
    -- an empty batch means that the first length is zero or does not fit
    have hempty : fitSum c.aggrBufSize 0 (lens c descs a p) = 0 →
        (∀ l ∈ lens c descs a p, 1 ≤ l ∧ l ≤ c.aggrBufSize) → p = 0 := by
      intro hzero hlens
      obtain ⟨q, rfl⟩ : ∃ q, p = q + 1 := ⟨p - 1, by omega⟩
      rw [lens_succ] at hzero hlens
      have hfirst := hlens _ (List.mem_cons_self ..)
      have hpos := fitSum_pos (lens c descs (a + 1) q) hfirst.1 hfirst.2
      omega
    generalize fitSum c.aggrBufSize 0 (lens c descs a p) = size at hfit hcap hempty ⊢
    by_cases hzero : size = 0
    · rw [if_pos hzero]
      exact ⟨_, rfl, .stop (by simp) fun hlens _ => hempty hzero hlens⟩
    rw [if_neg hzero]
    by_cases hprep : (!env.prepareOk n) = true
    · rw [if_pos hprep]
      exact ⟨_, rfl, .stop (by simp) fun _ hok => by cases hok⟩
    rw [if_neg hprep]
    by_cases hread : (!env.readOk n) = true
    · rw [if_pos hread]
      refine ⟨_, rfl, .stop ?_ fun _ hok => by cases hok⟩
      intro rd hrd
      obtain rfl := List.mem_singleton.mp hrd
      exact ⟨⟨by dsimp only; omega, hcap, a, 0, rfl, Nat.zero_le _⟩, rfl⟩
    rw [if_neg hread]
    have hkbound : (lens c descs a k).sum ≤ _ := lens_sum_le a k
    have hsum : 0 + (lens c descs a k).sum = size := by omega
    obtain ⟨j, hj, hjsum, hjpos, hsplit⟩ := rxSplitLoop_eq hring (by omega) k a (c.numRxDesc + 1) 0
      (by omega) hsum
    rw [hsplit]
    dsimp only
    have hj0 := hjpos (by omega)
    obtain ⟨r, hr, hgood⟩ := ih (p - j) (by omega) (a + j) fuel (n + 1) (by omega) (by omega)
    rw [show a + j + (p - j) = a + p by omega] at hr
    rw [hr]
    exact ⟨_, rfl, hgood.batch (by omega) (by omega) hcap (by omega)⟩

/-! ## `wlcore_rx` -/

/-- The descriptors that `wlcore_rx` consumes, in order. -/
def consumedDescs (r : RxRun) : List ℕ := (r.reads.flatMap (·.pkts)).map (·.desc)

/-- The number of descriptors announced: from the driver's counter up to the firmware's. -/
def announced (c : RxConf) (rxCounter fwRxCounter : ℕ) : ℕ :=
  (fwRxCounter % c.numRxDesc + c.numRxDesc - rxCounter % c.numRxDesc) % c.numRxDesc

theorem announced_spec (hring : GoodRing c) (rxCounter fwRxCounter : ℕ) :
    announced c rxCounter fwRxCounter < c.numRxDesc ∧
      (rxCounter + announced c rxCounter fwRxCounter) % c.numRxDesc =
        fwRxCounter % c.numRxDesc := by
  have hlt := Nat.mod_lt rxCounter hring.pos
  refine ⟨Nat.mod_lt _ hring.pos, ?_⟩
  rw [announced, Nat.add_mod_mod, ← Nat.mod_add_mod,
    show rxCounter % c.numRxDesc + (fwRxCounter % c.numRxDesc + c.numRxDesc -
      rxCounter % c.numRxDesc) = fwRxCounter % c.numRxDesc + c.numRxDesc by omega,
    Nat.add_mod_right, Nat.mod_mod]

theorem pktsFrom_lens (offset j : ℕ) :
    (pktsFrom c descs a offset j).map (fun q => c.alignLen (descs q.desc)) = lens c descs a j := by
  have hdesc := congrArg (List.map fun d => c.alignLen (descs d))
    (pktsFrom_desc a offset j : (pktsFrom c descs a offset j).map _ = _)
  rwa [List.map_map, List.map_map] at hdesc

theorem lens_sum_add_le {a i j : ℕ} (hi : i < j) :
    (lens c descs a i).sum + c.alignLen (descs ((a + i) % c.numRxDesc)) ≤
      (lens c descs a j).sum := by
  have hnext : lens c descs a (i + 1) =
      lens c descs a i ++ [c.alignLen (descs ((a + i) % c.numRxDesc))] := by
    rw [lens, List.range_succ, List.map_append]
    rfl
  have hle := (List.take_sublist (i + 1) (lens c descs a j)).sum_le_sum fun _ _ => Nat.zero_le _
  rw [lens_take (by omega), hnext, List.sum_append, List.sum_singleton] at hle
  exact hle

/-- A packet of a good access is where the lengths before it end, and its data were read. -/
theorem GoodRead.offset {rd : RxRead} (h : GoodRead c descs rd) {i : ℕ} {p : RxPkt}
    (hp : rd.pkts[i]? = some p) :
    p.offset = ((rd.pkts.take i).map fun q => c.alignLen (descs q.desc)).sum ∧
      p.len = c.getBufSize (descs p.desc) ∧ p.offset + p.len ≤ rd.len := by
  obtain ⟨-, -, a, j, hpkts, hsum⟩ := h
  have hi : i < j := by
    have := (List.getElem?_eq_some_iff.mp hp).1
    rwa [hpkts, pktsFrom_length] at this
  rw [hpkts, pktsFrom_getElem? a 0 hi, Option.some_inj] at hp
  subst hp
  refine ⟨?_, rfl, ?_⟩
  · rw [hpkts, List.map_take, pktsFrom_lens, lens_take (by omega), Nat.zero_add]
  · have hend : (lens c descs a i).sum + _ ≤ (lens c descs a j).sum := lens_sum_add_le hi
    have hbuf := getBufSize_le_alignLen (c := c) (descs ((a + i) % c.numRxDesc))
    dsimp only
    omega

/-- The outer loop's result passes through `wlcore_rx`. -/
theorem wlcoreRx_of_loop {rxCounter fwRxCounter : ℕ} {env : RxEnv}
    (h : rxLoop c descs (fwRxCounter % c.numRxDesc) env (c.numRxDesc + 1)
      (rxCounter % c.numRxDesc) rxCounter 0 = some r) :
    ∃ res, wlcoreRx c descs rxCounter fwRxCounter env = some res ∧ res.reads = r.reads ∧
      res.rxCounter = r.rxCounter ∧ (res.ok = true → r.ok = true) := by
  rw [wlcoreRx, h, Option.map_some]
  refine ⟨_, rfl, ?_⟩
  split
  · exact ⟨rfl, rfl, fun hok => by cases hok⟩
  · exact ⟨rfl, rfl, id⟩

theorem nodup_descs {a k n : ℕ} (hk : k < n) : ((List.range k).map fun i => (a + i) % n).Nodup := by
  refine List.Nodup.map_on ?_ List.nodup_range
  intro i hi j hj heq
  rw [List.mem_range] at hi hj
  by_contra hne
  rcases Nat.lt_or_gt_of_ne hne with hlt | hlt
  · exact add_mod_ne hlt (by omega) heq
  · exact add_mod_ne hlt (by omega) heq.symm

end

/-- `wlcore_rx` returns; each bus access reads between one byte and the whole buffer; the packets
split out are at the offsets that the aligned lengths before them give, inside of the data read;
the descriptors consumed follow each other from the driver's counter on, none beyond the
firmware's counter and none twice; and if every announced length can be read, a successful call
consumes them all. -/
theorem rx_batches (c : RxConf) (descs : ℕ → ℕ) (rxCounter fwRxCounter : ℕ) (env : RxEnv)
    (hpos : 0 < c.numRxDesc) (hdvd : c.numRxDesc ∣ 256) (hrx : rxCounter < 2 ^ 32) :
    ∃ r, wlcoreRx c descs rxCounter fwRxCounter env = some r ∧
      (∀ rd ∈ r.reads, 1 ≤ rd.len ∧ rd.len ≤ c.aggrBufSize ∧
        ∀ i p, rd.pkts[i]? = some p →
          p.offset = ((rd.pkts.take i).map fun q => c.alignLen (descs q.desc)).sum ∧
          p.len = c.getBufSize (descs p.desc) ∧ p.offset + p.len ≤ rd.len) ∧
      (∃ k ≤ announced c rxCounter fwRxCounter,
        consumedDescs r.toRxRun = (List.range k).map (fun i => (rxCounter + i) % c.numRxDesc) ∧
        r.rxCounter = (rxCounter + k) % 2 ^ 32) ∧
      (consumedDescs r.toRxRun).Nodup ∧
      ((∀ i < announced c rxCounter fwRxCounter,
          1 ≤ c.alignLen (descs ((rxCounter + i) % c.numRxDesc)) ∧
            c.alignLen (descs ((rxCounter + i) % c.numRxDesc)) ≤ c.aggrBufSize) →
        r.ok = true → r.rxCounter % c.numRxDesc = fwRxCounter % c.numRxDesc) := by
  have hring : GoodRing c := ⟨hpos, hdvd⟩
  obtain ⟨hann, hfw⟩ := announced_spec hring rxCounter fwRxCounter
  obtain ⟨run, hrun, hgood⟩ :
      ∃ run, _ = some run ∧ GoodRun c descs rxCounter (announced c rxCounter fwRxCounter) run :=
    rxLoop_eq hring env _ rxCounter (c.numRxDesc + 1) 0 (by omega) hann
  rw [hfw, Nat.mod_eq_of_lt hrx] at hrun
  obtain ⟨r, hr, hreads, hcounter, hok⟩ := wlcoreRx_of_loop hrun
  obtain ⟨k, hk, hdesc, hcount, hall⟩ := hgood.consumed
  have hconsumed : consumedDescs r.toRxRun =
      (List.range k).map (fun i => (rxCounter + i) % c.numRxDesc) := by
    rw [consumedDescs, hreads]
    exact hdesc
  refine ⟨r, hr, ?_, ⟨k, hk, hconsumed, hcounter.trans hcount⟩, ?_, ?_⟩
  · intro rd hrd
    rw [hreads] at hrd
    have hrdGood := hgood.reads rd hrd
    exact ⟨hrdGood.1, hrdGood.2.1, fun i p hp => hrdGood.offset hp⟩
  · rw [hconsumed]
    exact nodup_descs (by omega)
  · intro hlens hrok
    have hlens' : ∀ l ∈ lens c descs rxCounter (announced c rxCounter fwRxCounter),
        1 ≤ l ∧ l ≤ c.aggrBufSize := by
      intro l hl
      obtain ⟨i, hi, rfl⟩ := List.mem_map.mp hl
      exact hlens i (List.mem_range.mp hi)
    have hkp := hall hlens' (hok hrok)
    have hdvd32 : c.numRxDesc ∣ 2 ^ 32 := hdvd.trans (by decide)
    rw [hcounter, hcount, Nat.mod_mod_of_dvd _ hdvd32, hkp, hfw]

/-- Three frames of 400 bytes around the end of a ring of eight, for a buffer of 1000 bytes. -/
theorem rx_batches_around_the_end :
    ∃ r, wlcoreRx ⟨false, false, 8, 1000⟩ (fun _ => 400 * 64) 6 1 {} = some r ∧
      consumedDescs r.toRxRun = [6, 7, 0] ∧ r.reads.map (·.len) = [800, 400] ∧
      r.rxCounter % 8 = 1 := by
  obtain ⟨r, hr, -, -, -, hall⟩ := rx_batches ⟨false, false, 8, 1000⟩ (fun _ => 400 * 64) 6 1 {}
    (by decide) (by decide) (by decide)
  have hrun : (wlcoreRx ⟨false, false, 8, 1000⟩ (fun _ => 400 * 64) 6 1 {}).map
      (fun r => (r.ok, consumedDescs r.toRxRun, r.reads.map (·.len))) =
        some (true, [6, 7, 0], [800, 400]) := by decide
  rw [hr, Option.map_some, Option.some_inj, Prod.mk.injEq, Prod.mk.injEq] at hrun
  exact ⟨r, hr, hrun.2.1, hrun.2.2, hall (by decide) hrun.1⟩

end TiWlan.Rx
