import TiWlan.Driver.FwLog
import TiWlan.Lib.Run

/-!
# The firmware log as a stream

What readers of the log get, followed by what is left in the page, is what
`wl12xx_copy_fwlog` accepted, and the page never overflows. The loop of `wl12xx_copy_fwlog`
finds the complete length-value records of a block, but the length is then cut to the room that
is left ("Make sure we have enough room", `wlcore/main.c`, line 816), in the middle of a record
if need be; what follows can no longer be framed.

* `fwlogEnd_lengthValue`: the loop stops behind a complete record;
* `step_streams`: what one call does to the stream;
* `fwlog_stream`: the stream over whole runs, framed if no block is cut.
-/

namespace TiWlan.Rx

open TiWlan.Driver TiWlan.Lib

variable {acts : List FwLogSys.Act} {l value : List UInt8} (memblock : List UInt8)

/-- A sequence of records, each a length byte followed by as many bytes. -/
inductive LengthValue : List UInt8 → Prop
  | nil : LengthValue []
  | record {n : UInt8} {value rest : List UInt8} (hn : n.toNat = value.length)
      (hrest : LengthValue rest) : LengthValue (n :: (value ++ rest))

theorem LengthValue.append {l' : List UInt8} (h : LengthValue l) (h' : LengthValue l') :
    LengthValue (l ++ l') := by
  induction h with
  | nil => exact h'
  | record hn _ ih =>
    rw [List.cons_append, List.append_assoc]
    exact .record hn ih

/-- A sequence that starts with a length byte has all of that record. -/
theorem LengthValue.cons_inv {n : UInt8} (h : LengthValue (n :: l)) :
    n.toNat ≤ l.length ∧ LengthValue (l.drop n.toNat) := by
  cases h with
  | record hn hrest =>
    rw [hn]
    constructor
    · simp
    · rwa [List.drop_left]

/-! ## The loop -/

theorem le_fwlogEnd (len : ℕ) : len ≤ fwlogEnd memblock len := by
  fun_induction fwlogEnd memblock len with
  | case1 | case2 | case4 => exact le_rfl
  | case3 len _ _ _ ih => omega

theorem fwlogEnd_le {len : ℕ} (hlen : len ≤ memblock.length) :
    fwlogEnd memblock len ≤ memblock.length := by
  fun_induction fwlogEnd memblock len with
  | case1 | case2 | case4 => exact hlen
  | case3 len _ _ _ ih => exact ih (by omega)

/-- The loop stops behind a complete record of the block. -/
theorem fwlogEnd_lengthValue (len : ℕ) :
    LengthValue ((memblock.drop len).take (fwlogEnd memblock len - len)) := by
  fun_induction fwlogEnd memblock len with
  | case1 | case2 | case4 => rw [Nat.sub_self]; exact .nil
  | case3 len hlt hpos hfit ih =>
    have hle := le_fwlogEnd memblock (len + memblock[len].toNat + 1)
    have hvalue : (memblock.drop (len + 1)).take memblock[len].toNat ++
        (memblock.drop (len + memblock[len].toNat + 1)).take
          (fwlogEnd memblock (len + memblock[len].toNat + 1) -
            (len + memblock[len].toNat + 1)) =
        (memblock.drop (len + 1)).take
          (fwlogEnd memblock (len + memblock[len].toNat + 1) - (len + 1)) := by
      rw [show fwlogEnd memblock (len + memblock[len].toNat + 1) - (len + 1) =
        memblock[len].toNat + (fwlogEnd memblock (len + memblock[len].toNat + 1) -
          (len + memblock[len].toNat + 1)) by omega, List.take_add, List.drop_drop,
        show len + 1 + memblock[len].toNat = len + memblock[len].toNat + 1 by omega]
    rw [List.drop_eq_getElem_cons hlt,
      show fwlogEnd memblock (len + memblock[len].toNat + 1) - len =
        fwlogEnd memblock (len + memblock[len].toNat + 1) - (len + 1) + 1 by omega,
      List.take_succ_cons, ← hvalue]
    refine .record ?_ ih
    rw [List.length_take, List.length_drop]
    omega

theorem fwlogEnd_take : LengthValue (memblock.take (fwlogEnd memblock 0)) := by
  have h := fwlogEnd_lengthValue memblock 0
  rwa [List.drop_zero, Nat.sub_zero] at h

/-! ## The page -/

section
variable {pageSize : ℕ} {s : FwLogSys}

/-- What holds of the log in every run. -/
structure Streams (pageSize : ℕ) (s : FwLogSys) : Prop where
  size_nonneg : 0 ≤ s.fwlogSize
  size_le : s.fwlogSize ≤ pageSize
  bytes : s.delivered ++ s.stored = s.accepted

theorem Streams.start : Streams pageSize .start := ⟨le_rfl, Int.natCast_nonneg _, rfl⟩

/-- The room that is left in the page. -/
theorem Streams.room (hpage : pageSize < 2 ^ 32) (h : Streams pageSize s) :
    u32 (pageSize - s.fwlogSize) = pageSize - s.fwlogSize.toNat := by
  have hnonneg := h.size_nonneg
  have hle := h.size_le
  unfold u32
  omega

theorem loadAt_append_storeAt (m : ℕ → UInt8) (off : ℕ) (l : List UInt8) :
    loadAt (storeAt m off l) 0 (off + l.length) = loadAt m 0 off ++ l := by
  rw [loadAt_add, loadAt_storeAt_below l (by omega), Nat.zero_add, loadAt_storeAt_self]

theorem Streams.copy (hpage : pageSize < 2 ^ 32) (h : Streams pageSize s)
    (memblock : List UInt8) : Streams pageSize (s.step pageSize (.copy memblock)) := by
  have hnonneg := h.size_nonneg
  have hle := h.size_le
  have hroom := h.room hpage
  have hend : fwlogEnd memblock 0 ≤ memblock.length := fwlogEnd_le memblock (Nat.zero_le _)
  have hlen : min (fwlogEnd memblock 0) (pageSize - s.fwlogSize.toNat) ≤ memblock.length ∧
      min (fwlogEnd memblock 0) (pageSize - s.fwlogSize.toNat) ≤ pageSize - s.fwlogSize.toNat := by
    omega
  simp only [FwLogSys.step, wl12xxCopyFwlog, hroom]
  generalize min (fwlogEnd memblock 0) (pageSize - s.fwlogSize.toNat) = len at hlen ⊢
  refine ⟨?_, ?_, ?_⟩
  · dsimp only
    omega
  · dsimp only
    omega
  · have htake : (memblock.take len).length = len := by
      rw [List.length_take]
      omega
    have hstored := loadAt_append_storeAt s.fwlog s.fwlogSize.toNat (memblock.take len)
    rw [htake] at hstored
    unfold FwLogSys.stored
    dsimp only
    rw [show (s.fwlogSize + len).toNat = s.fwlogSize.toNat + len by omega, hstored,
      ← List.append_assoc]
    exact congrArg (· ++ memblock.take len) h.bytes

theorem Streams.read (hpage : pageSize < 2 ^ 32) (h : Streams pageSize s) (count : ℕ) :
    Streams pageSize (s.step pageSize (.read count)) := by
  have hnonneg := h.size_nonneg
  have hle := h.size_le
  by_cases hempty : s.fwlogSize = 0
  · rw [FwLogSys.step, wl1271SysfsReadFwlog, if_pos hempty]
    exact h
  have hsize : u32 s.fwlogSize = s.fwlogSize.toNat := by
    unfold u32
    omega
  rw [FwLogSys.step, wl1271SysfsReadFwlog, if_neg hempty, if_neg (by omega), hsize]
  dsimp only
  refine ⟨?_, ?_, ?_⟩
  · dsimp only
    omega
  · dsimp only
    omega
  · have hleft : (s.fwlogSize - (min count s.fwlogSize.toNat : ℕ)).toNat =
        s.fwlogSize.toNat - min count s.fwlogSize.toNat := by omega
    have hsplit : s.fwlogSize.toNat =
        min count s.fwlogSize.toNat + (s.fwlogSize.toNat - min count s.fwlogSize.toNat) := by omega
    have hbytes := h.bytes
    unfold FwLogSys.stored at hbytes ⊢
    dsimp only
    rw [hsplit, loadAt_add, Nat.zero_add] at hbytes
    rw [hleft, ← hbytes, List.append_assoc]
    have hmove := loadAt_storeAt_self s.fwlog 0 (loadAt s.fwlog (min count s.fwlogSize.toNat)
      (s.fwlogSize.toNat - min count s.fwlogSize.toNat))
    rw [loadAt_length] at hmove
    rw [hmove]

/-- One call keeps the bounds and loses no byte. -/
theorem step_streams (hpage : pageSize < 2 ^ 32) (h : Streams pageSize s) (a : FwLogSys.Act) :
    Streams pageSize (s.step pageSize a) := by
  cases a with
  | copy memblock => exact h.copy hpage memblock
  | read count => exact h.read hpage count

theorem run_streams (hpage : pageSize < 2 ^ 32) (acts : List FwLogSys.Act) :
    Streams pageSize (run (FwLogSys.step pageSize) .start acts) := by
  have hstep (s : FwLogSys) (a : FwLogSys.Act) (_ : a ∈ acts) (h : Streams pageSize s) :
      Streams pageSize (s.step pageSize a) := step_streams hpage h a
  exact run_induction_mem hstep Streams.start

theorem read_accepted (s : FwLogSys) (count : ℕ) :
    (s.step pageSize (.read count)).accepted = s.accepted := by
  unfold FwLogSys.step
  dsimp only
  split
  · rfl
  · rfl

/-- A block that is not cut adds complete records. -/
theorem step_framed (hpage : pageSize < 2 ^ 32) (h : Streams pageSize s)
    (hframed : LengthValue s.accepted) {a : FwLogSys.Act} (ha : s.HasRoom pageSize a) :
    LengthValue (s.step pageSize a).accepted := by
  cases a with
  | copy memblock =>
    have hnonneg := h.size_nonneg
    have hroom := h.room hpage
    have hfits : s.fwlogSize + fwlogEnd memblock 0 ≤ pageSize := ha
    have huncut : min (fwlogEnd memblock 0) (pageSize - s.fwlogSize.toNat) =
        fwlogEnd memblock 0 := by omega
    simp only [FwLogSys.step, wl12xxCopyFwlog, hroom, huncut]
    exact hframed.append (fwlogEnd_take memblock)
  | read count =>
    rw [read_accepted]
    exact hframed

theorem run_framed (hpage : pageSize < 2 ^ 32)
    (hroom : Along (FwLogSys.step pageSize) (FwLogSys.HasRoom pageSize) .start acts) :
    LengthValue (run (FwLogSys.step pageSize) .start acts).accepted := by
  have hstep (s : FwLogSys) (a : FwLogSys.Act)
      (h : Streams pageSize s ∧ LengthValue s.accepted) (ha : s.HasRoom pageSize a) :
      Streams pageSize (s.step pageSize a) ∧ LengthValue (s.step pageSize a).accepted :=
    ⟨step_streams hpage h.1 a, step_framed hpage h.1 h.2 ha⟩
  exact (Along.induction hstep ⟨.start, .nil⟩ hroom).2

end

/-- In every run the page holds at most `pageSize` bytes, and the bytes delivered followed by the
bytes stored are those accepted; if the complete records of every block fit into the rest of the
page, the bytes accepted are a sequence of complete records. -/
theorem fwlog_stream (pageSize : ℕ) (hpage : pageSize < 2 ^ 32) (acts : List FwLogSys.Act) :
    let s := run (FwLogSys.step pageSize) .start acts
    (0 ≤ s.fwlogSize ∧ s.fwlogSize ≤ pageSize) ∧ s.delivered ++ s.stored = s.accepted ∧
      (Along (FwLogSys.step pageSize) (FwLogSys.HasRoom pageSize) .start acts →
        LengthValue s.accepted) := by
  intro s
  have h := run_streams hpage acts
  exact ⟨⟨h.size_nonneg, h.size_le⟩, h.bytes, run_framed hpage⟩

/-- A block with one record and a cut one, read in pieces. -/
theorem fwlog_stream_read_in_pieces :
    LengthValue (run (FwLogSys.step 4096) .start
      [.copy [2, 10, 11, 3, 12], .read 1, .read 9]).accepted := by
  refine (fwlog_stream 4096 (by decide) _).2.2 ⟨?_, trivial, trivial, trivial⟩
  have hend : fwlogEnd [2, 10, 11, 3, 12] 0 ≤ 5 := fwlogEnd_le _ (by decide)
  show (0 : ℤ) + fwlogEnd [2, 10, 11, 3, 12] 0 ≤ (4096 : ℕ)
  omega

/-! ## A record that is cut -/

section
variable {n : UInt8} {value : List UInt8}

theorem length_flatten_replicate (k : ℕ) :
    (List.replicate k (n :: value)).flatten.length = k * (value.length + 1) := by
  simp

/-- The loop goes through a block of complete records. -/
theorem fwlogEnd_replicate (hn : n.toNat = value.length) (hpos : n.toNat ≠ 0) (k : ℕ)
    (before : List UInt8) :
    fwlogEnd (before ++ (List.replicate k (n :: value)).flatten) before.length =
      before.length + k * (value.length + 1) := by
  induction k generalizing before with
  | zero =>
    rw [fwlogEnd, dif_neg (by simp), Nat.zero_mul]
    rfl
  | succ k ih =>
    have hrest := ih (before ++ n :: value)
    rw [List.append_assoc, ← List.flatten_cons, ← List.replicate_succ, List.length_append,
      List.length_cons] at hrest
    have hlength : (before ++ (List.replicate (k + 1) (n :: value)).flatten).length =
        before.length + (k + 1) * (value.length + 1) := by
      rw [List.length_append, length_flatten_replicate]
    have hmul : (k + 1) * (value.length + 1) = k * (value.length + 1) + (value.length + 1) :=
      Nat.succ_mul _ _
    have hlt : before.length <
        (before ++ (List.replicate (k + 1) (n :: value)).flatten).length := by omega
    have hbyte : (before ++ (List.replicate (k + 1) (n :: value)).flatten)[before.length] = n := by
      simp [List.replicate_succ]
    rw [fwlogEnd, dif_pos hlt, hbyte, if_neg hpos, if_neg (by omega), hn, Nat.add_assoc, hrest]
    omega

theorem lengthValue_of_replicate (hn : n.toNat = value.length) {k : ℕ}
    (h : LengthValue ((List.replicate k (n :: value)).flatten ++ l)) : LengthValue l := by
  induction k with
  | zero => exact h
  | succ k ih =>
    rw [List.replicate_succ, List.flatten_cons, List.append_assoc, List.cons_append] at h
    have hrest := (LengthValue.cons_inv h).2
    rw [hn, List.drop_left] at hrest
    exact ih hrest

end

/-- A page ends within the seventeenth of these records. -/
theorem take_cut (hlen : value.length = 251) :
    (List.replicate 17 (251 :: value)).flatten.take 4096 =
      (List.replicate 16 (251 :: value)).flatten ++ 251 :: value.take 63 := by
  rw [List.replicate_succ', List.flatten_append, List.take_append, length_flatten_replicate,
    hlen, List.take_of_length_le (by rw [length_flatten_replicate, hlen]; decide),
    List.flatten_singleton, show 4096 - 16 * (251 + 1) = 63 + 1 by decide, List.take_succ_cons]

/-- An empty log takes as much of them as a page holds. -/
theorem accepted_cut (hlen : value.length = 251) :
    (run (FwLogSys.step 4096) .start
      [.copy (List.replicate 17 (251 :: value)).flatten]).accepted =
        (List.replicate 17 (251 :: value)).flatten.take 4096 := by
  have hvalue : (251 : UInt8).toNat = value.length := hlen.symm
  have hend := fwlogEnd_replicate hvalue (by decide) 17 []
  rw [hlen] at hend
  have hroom : min 4284 (u32 ((4096 : ℕ) - FwLogSys.start.fwlogSize)) = 4096 := by decide
  rw [run_cons, run_nil, FwLogSys.step, wl12xxCopyFwlog]
  dsimp only
  rw [show fwlogEnd (List.replicate 17 (251 :: value)).flatten 0 = 4284 from hend, hroom]
  exact List.nil_append _

/-- Seventeen records of 252 bytes: 64 bytes of the last one are accepted. -/
theorem fwlog_stream_cut :
    ¬LengthValue (run (FwLogSys.step 4096) .start
      [.copy (List.replicate 17 (251 :: List.replicate 251 0)).flatten]).accepted := by
  have hlen : (List.replicate 251 (0 : UInt8)).length = 251 := List.length_replicate
  generalize List.replicate 251 (0 : UInt8) = value at hlen ⊢
  have hvalue : (251 : UInt8).toNat = value.length := hlen.symm
  intro h
  rw [accepted_cut hlen, take_cut hlen] at h
  have hshort := (LengthValue.cons_inv (lengthValue_of_replicate hvalue h)).1
  rw [List.length_take, hlen] at hshort
  exact absurd hshort (by decide)

end TiWlan.Rx
