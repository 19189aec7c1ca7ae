import TiWlan.Lib.Memory
import TiWlan.Driver.Lifecycle

/-!
# The format of the aggregation buffer

A batch is a sequence of frames, each behind its 16-byte descriptor and zero-padded to the
alignment of `wlcore_calc_packet_alignment`. The firmware finds the frames by the descriptors
alone: `decodeAggr` reads the length, the id, the link and the number of memory blocks of each
frame as the three chips encode them (`wl12xx/main.c`, lines 1277–1311, `wl18xx/main.c`, lines
888–911), and stops at the end of the transfer, or after the frame whose `NOT_PADDED` bit is
clear if only the last frame of a batch is padded.

Main results:

* `hwSetTxDesc_fits`: no field of a descriptor is truncated;
* `chunk_of_store`: a frame that is stored with its descriptor is read back;
* `decodeAggr_laid`: a batch decodes to the frames it was laid out from.
-/

namespace TiWlan.Tx

open TiWlan.Lib TiWlan.Driver

variable {f : AggrFrame} {np : Bool} {c : Conf} {len off : ℕ} (q : Quirks) (wl : Wl1271)
  (v : Option VifId)

/-! ## Decoding -/

/-- A little-endian 16-bit field. -/
def le16 (buf : ℕ → Byte) (off : ℕ) : ℕ := (buf off).toNat + 256 * (buf (off + 1)).toNat

/-- The length of the frame whose descriptor is at `off`, descriptor included. -/
def descLen (c : Conf) (buf : ℕ → Byte) (off : ℕ) : ℕ :=
  match c.chip with
  | .wl127x => 4 * le16 buf off - le16 buf (off + 10) / 2 ^ 10 % 4
  | .wl128x => 4 * le16 buf off - (buf (off + 3)).toNat
  | .wl18xx => le16 buf off

/-- The number of memory blocks in the descriptor. -/
def descBlocks (c : Conf) (buf : ℕ → Byte) (off : ℕ) : ℕ :=
  match c.chip with
  | .wl127x => (buf (off + 3)).toNat
  | .wl128x | .wl18xx => (buf (off + 2)).toNat

/-- `WL18XX_TX_CTRL_NOT_PADDED` is set. -/
def descNotPadded (c : Conf) (buf : ℕ → Byte) (off : ℕ) : Bool :=
  decide (c.chip = .wl18xx) && decide (128 ≤ (buf (off + 3)).toNat)

/-- A decoded frame. -/
structure Decoded where
  frame : AggrFrame
  notPadded : Bool
  deriving DecidableEq, Repr

/-- The frame at an offset. -/
def decodeFrame (c : Conf) (buf : ℕ → Byte) (off : ℕ) : Decoded :=
  { frame :=
      { id := (buf (off + 12)).toNat
        hlid := (buf (off + 14)).toNat
        blocks := descBlocks c buf off
        payload := loadAt buf (off + txHwDescrSize) (descLen c buf off - txHwDescrSize) }
    notPadded := descNotPadded c buf off }

/-- The frames of a transfer of `len` bytes from offset `off` on, at most `fuel` of them. -/
def decodeAggr (c : Conf) (buf : ℕ → Byte) (len : ℕ) : ℕ → ℕ → Option (List Decoded)
  | 0, _ => none
  | fuel + 1, off =>
    if len ≤ off then some []
    else if c.quirks.txPadLastFrame && !descNotPadded c buf off then
      some [decodeFrame c buf off]
    else
      (decodeAggr c buf len fuel
        (off + wlcoreCalcPacketAlignment c.quirks (descLen c buf off))).map
          (decodeFrame c buf off :: ·)

/-! ## Laid out frames -/

/-- The bytes that a frame takes in the buffer. -/
def frameSize (c : Conf) (f : AggrFrame) : ℕ :=
  wlcoreCalcPacketAlignment c.quirks (txHwDescrSize + f.payload.length)

theorem packetAlignment_pos : 0 < packetAlignment q := by
  unfold packetAlignment
  split_ifs <;> decide

theorem lt_frameSize (c : Conf) (f : AggrFrame) : f.payload.length + 15 < frameSize c f := by
  have := le_alignUp (txHwDescrSize + f.payload.length) (packetAlignment_pos c.quirks)
  unfold frameSize wlcoreCalcPacketAlignment
  unfold txHwDescrSize at *
  omega

/-- The descriptor and the bytes of a frame are at `off`, with the given `NOT_PADDED` bit. -/
structure Chunk (c : Conf) (buf : ℕ → Byte) (off : ℕ) (f : AggrFrame) (np : Bool) : Prop where
  len : descLen c buf off = txHwDescrSize + f.payload.length
  id : (buf (off + 12)).toNat = f.id
  hlid : (buf (off + 14)).toNat = f.hlid
  blocks : descBlocks c buf off = f.blocks
  payload : loadAt buf (off + txHwDescrSize) f.payload.length = f.payload
  notPadded : descNotPadded c buf off = np

theorem Chunk.decodeFrame_eq {buf : ℕ → Byte} (h : Chunk c buf off f np) :
    decodeFrame c buf off = ⟨f, np⟩ := by
  have hlen : descLen c buf off - txHwDescrSize = f.payload.length := by
    rw [h.len]
    omega
  rw [decodeFrame, h.id, h.hlid, h.blocks, hlen, h.payload, h.notPadded]

/-- A chunk only depends on its own bytes. -/
theorem Chunk.congr {buf buf' : ℕ → Byte} (h : Chunk c buf off f np)
    (hb : ∀ i, off ≤ i → i < off + frameSize c f → buf' i = buf i) : Chunk c buf' off f np := by
  have hsize := lt_frameSize c f
  have hbyte (i : ℕ) (hi : i < 16) : buf' (off + i) = buf (off + i) :=
    hb (off + i) (by omega) (by omega)
  have h0 : buf' off = buf off := hbyte 0 (by decide)
  have hle : le16 buf' off = le16 buf off ∧ le16 buf' (off + 10) = le16 buf (off + 10) := by
    unfold le16
    rw [h0, hbyte 1 (by decide), hbyte 10 (by decide), hbyte 11 (by decide)]
    exact ⟨rfl, rfl⟩
  refine ⟨?_, ?_, ?_, ?_, ?_, ?_⟩
  · rw [← h.len]
    unfold descLen
    rw [hle.1, hle.2, hbyte 3 (by decide)]
  · rw [← h.id, hbyte 12 (by decide)]
  · rw [← h.hlid, hbyte 14 (by decide)]
  · rw [← h.blocks]
    unfold descBlocks
    rw [hbyte 2 (by decide), hbyte 3 (by decide)]
  · refine Eq.trans (loadAt_congr fun i hi => ?_) h.payload
    unfold txHwDescrSize
    exact hb _ (by omega) (by omega)
  · rw [← h.notPadded]
    unfold descNotPadded
    rw [hbyte 3 (by decide)]

/-- Frames lie one behind the other from `off` to `e`, all with the same `NOT_PADDED` bit. -/
def Laid (c : Conf) (buf : ℕ → Byte) (np : Bool) : ℕ → List AggrFrame → ℕ → Prop
  | off, [], e => e = off
  | off, f :: fs, e => Chunk c buf off f np ∧ Laid c buf np (off + frameSize c f) fs e

section
variable {c : Conf} {buf buf' : ℕ → Byte} {np : Bool} {off e : ℕ} {fs : List AggrFrame}

theorem Laid.le (h : Laid c buf np off fs e) : off ≤ e := by
  induction fs generalizing off with
  | nil => exact le_of_eq h.symm
  | cons f fs ih => exact (Nat.le_add_right _ _).trans (ih h.2)

theorem Laid.congr (h : Laid c buf np off fs e)
    (hb : ∀ i, off ≤ i → i < e → buf' i = buf i) : Laid c buf' np off fs e := by
  induction fs generalizing off with
  | nil => exact h
  | cons f fs ih =>
    have hle := Laid.le h.2
    exact ⟨h.1.congr fun i hi hi' => hb i hi (by omega),
      ih h.2 fun i hi hi' => hb i (by omega) hi'⟩

/-- The last frame of a batch. -/
theorem Laid.concat_iff :
    Laid c buf np off (fs ++ [f]) e ↔
      ∃ m, Laid c buf np off fs m ∧ Chunk c buf m f np ∧ e = m + frameSize c f := by
  induction fs generalizing off with
  | nil =>
    constructor
    · rintro ⟨hchunk, rfl⟩
      exact ⟨off, rfl, hchunk, rfl⟩
    · rintro ⟨m, rfl, hchunk, rfl⟩
      exact ⟨hchunk, rfl⟩
  | cons g fs ih =>
    simp only [List.cons_append, Laid, ih]
    constructor
    · rintro ⟨hg, m, hm, hrest⟩
      exact ⟨m, ⟨hg, hm⟩, hrest⟩
    · rintro ⟨m, ⟨hg, hm⟩, hrest⟩
      exact ⟨hg, m, hm, hrest⟩

/-- A batch whose last frame has `NOT_PADDED` clear, and the others as the quirk says, decodes
to its frames. The transfer ends with the last frame, or with its padding. -/
theorem decodeAggr_laid {m : ℕ} (h : Laid c buf c.quirks.txPadLastFrame off fs m)
    (hf : Chunk c buf m f false) (hlen : m + frameSize c f ≤ len)
    (hend : c.quirks.txPadLastFrame = false → len = m + frameSize c f) :
    decodeAggr c buf len (fs.length + 2) off =
      some (fs.map (⟨·, c.quirks.txPadLastFrame⟩) ++ [⟨f, false⟩]) := by
  induction fs generalizing off with
  | nil =>
    cases h
    have hsize := lt_frameSize c f
    rw [decodeAggr, if_neg (by omega)]
    by_cases hpad : c.quirks.txPadLastFrame = true
    · rw [if_pos (by simp [hpad, hf.notPadded]), hf.decodeFrame_eq]
      rfl
    · rw [if_neg (by simp [hpad]), hf.len, decodeAggr, if_pos ?_, hf.decodeFrame_eq]
      · rfl
      · have := hend (by simpa using hpad)
        exact le_of_eq this
  | cons g fs ih =>
    have hsize := lt_frameSize c g
    have hle := Laid.le h.2
    rw [List.length_cons, decodeAggr, if_neg (by omega),
      if_neg (by rw [h.1.notPadded]; cases c.quirks.txPadLastFrame <;> simp), h.1.len,
      h.1.decodeFrame_eq]
    have hrest := ih h.2
    unfold frameSize at hrest
    rw [hrest]
    rfl

end

/-! ## Descriptors -/

/-- The configurations of the three chips, with 4 KiB pages: wl127x aligns to words, only wl18xx
pads the last frame alone, and the buffer is made of whole SDIO blocks. -/
structure AggrConf (c : Conf) : Prop where
  blocks : 256 ∣ c.aggrBufSize
  size : c.aggrBufSize ≤ 13 * 4096
  wl127x : c.chip = .wl127x → c.quirks.txBlocksizeAlign = false
  wl12xx : c.chip ≠ .wl18xx → c.quirks.txPadLastFrame = false

theorem chipConf_aggrConf (chip : Chip) : AggrConf (chipConf chip) := by
  cases chip <;> exact ⟨by decide, by decide, by decide, by decide⟩

theorem packetAlignment_dvd {n : ℕ} (h : 256 ∣ n) : packetAlignment q ∣ n := by
  unfold packetAlignment
  split_ifs
  · exact Dvd.dvd.trans (by decide) h
  · exact h

theorem aligned_le (hc : AggrConf c) (hlen : len ≤ c.aggrBufSize) :
    wlcoreCalcPacketAlignment c.quirks len ≤ c.aggrBufSize :=
  alignUp_le_of_dvd (packetAlignment_pos _) hlen (packetAlignment_dvd _ hc.blocks)

/-- The number of blocks of a frame that fits into the buffer is a `u8`. -/
theorem calcTxBlocks_lt (hc : AggrConf c) {spare : ℕ} (hlen : len ≤ c.aggrBufSize)
    (hspare : spare ≤ 2) : wlcoreHwCalcTxBlocks c len spare < 2 ^ 8 := by
  have hsize := hc.size
  have halign := aligned_le hc hlen
  unfold wlcoreHwCalcTxBlocks divRoundUp
  split <;> omega

/-- The fields of a descriptor fit into their types. -/
structure FieldsFit (d : TxHwDescr) : Prop where
  length : d.length < 2 ^ 16
  mem0 : d.mem0 < 2 ^ 8
  mem1 : d.mem1 < 2 ^ 8
  txAttr : d.txAttr < 2 ^ 16

/-- The last-word pad does not overlap the other bits of `tx_attr`. -/
theorem txAttrBits_pad :
    ∀ (session : Fin 8) (rate : Fin 32) (dummy enc : Bool) (pad : Fin 4),
      (txAttrBits session rate dummy enc ||| pad.val <<< 10) / 2 ^ 10 % 4 = pad.val ∧
        txAttrBits session rate dummy enc ||| pad.val <<< 10 < 2 ^ 16 := by
  decide +kernel

theorem txSessionAttr_lt (skb : Skb) : txSessionAttr wl v skb < 8 := by
  unfold txSessionAttr
  split
  · decide
  · split
    · decide
    · omega

theorem txRateIdx_lt (skb : Skb) (h : Hlid) : txRateIdx wl v skb h < 32 := by
  unfold txRateIdx
  split
  · decide
  · dsimp only
    split_ifs <;> omega

/-- What `wl1271_tx_allocate` computed for a frame of `len` bytes. -/
structure AllocFor (c : Conf) (len : ℕ) (a : TxAlloc) : Prop where
  spare : a.spareBlocks ≤ 2
  total : a.totalBlocks = wlcoreHwCalcTxBlocks c len a.spareBlocks

/-- The padding of a frame, and its word count. -/
theorem pad_lt (len : ℕ) :
    len ≤ wlcoreCalcPacketAlignment q len ∧
      wlcoreCalcPacketAlignment q len - len < packetAlignment q ∧
      4 * (wlcoreCalcPacketAlignment q len >>> 2) = wlcoreCalcPacketAlignment q len := by
  have hle := le_alignUp len (packetAlignment_pos q)
  have hlt := alignUp_lt len (packetAlignment_pos q)
  have hdvd : 4 ∣ wlcoreCalcPacketAlignment q len := by
    refine Dvd.dvd.trans ?_ (dvd_alignUp len (packetAlignment q))
    unfold packetAlignment
    split_ifs <;> decide
  unfold wlcoreCalcPacketAlignment at *
  rw [Nat.shiftRight_eq_div_pow]
  omega

theorem packetAlignment_le : packetAlignment q ≤ 256 := by
  unfold packetAlignment
  split_ifs <;> decide

theorem AggrConf.packetAlignment_wl127x (hc : AggrConf c) (h : c.chip = .wl127x) :
    packetAlignment c.quirks = 4 := by
  simp [packetAlignment, hc.wl127x h]

/-- `tx_attr` is composed of the session, the rate and two flags. -/
def PlainAttr (d : TxHwDescr) : Prop :=
  ∃ (session : Fin 8) (rate : Fin 32) (dummy enc : Bool),
    d.txAttr = txAttrBits session rate dummy enc

section
variable {c : Conf} {len : ℕ} {a : TxAlloc} {d : TxHwDescr}

/-- No field of the descriptor of a frame that fits into the buffer is truncated. -/
theorem hwSetTxDesc_fits (hc : AggrConf c) (hlen : len ≤ c.aggrBufSize) (ha : AllocFor c len a)
    (hd : PlainAttr d) : FieldsFit (hwSetTxDesc c a len d) := by
  have hblocks : a.totalBlocks < 2 ^ 8 := ha.total ▸ calcTxBlocks_lt hc hlen ha.spare
  have halign := aligned_le hc hlen
  obtain ⟨-, hpad, hwords⟩ := pad_lt c.quirks len
  have hsize := hc.size
  have hspare := ha.spare
  obtain ⟨session, rate, dummy, enc, hattr⟩ := hd
  have hplain : d.txAttr < 2 ^ 16 := by
    simpa [hattr] using (txAttrBits_pad session rate dummy enc 0).2
  dsimp only [hwSetTxDesc]
  split
  · rename_i hchip
    rw [hc.packetAlignment_wl127x hchip] at hpad
    refine ⟨?_, ?_, hblocks, ?_⟩
    · dsimp only; omega
    · dsimp only; omega
    · rw [hattr]
      exact (txAttrBits_pad session rate dummy enc ⟨_, hpad⟩).2
  · have := packetAlignment_le c.quirks
    refine ⟨?_, hblocks, ?_, hplain⟩ <;> dsimp only <;> omega
  · refine ⟨?_, hblocks, ?_, hplain⟩
    · dsimp only; omega
    · dsimp only [txCtrlNotPadded]
      split_ifs <;> decide

/-! ## Storing a frame -/

theorem byteOf_toNat (x k : ℕ) : (byteOf x k).toNat = x / 256 ^ k % 256 := by
  simp [byteOf]

variable {buf : ℕ → Byte} {off : ℕ} {q : Quirks} {frame : List Byte}

theorem placedBytes_length (q : Quirks) (d : TxHwDescr) (frame : List Byte) :
    (placedBytes q d frame).length =
      wlcoreCalcPacketAlignment q (txHwDescrSize + frame.length) := by
  have hle := (pad_lt q (txHwDescrSize + frame.length)).1
  simp only [placedBytes, List.length_append, TxHwDescr.bytes_length, List.length_replicate]
  omega

/-- The fields that the firmware reads at `off`. -/
structure DescReads (buf : ℕ → Byte) (off : ℕ) (d : TxHwDescr) : Prop where
  length : le16 buf off = d.length
  mem0 : (buf (off + 2)).toNat = d.mem0
  mem1 : (buf (off + 3)).toNat = d.mem1
  txAttr : le16 buf (off + 10) = d.txAttr
  id : (buf (off + 12)).toNat = d.id
  hlid : (buf (off + 14)).toNat = d.hlid

/-- A descriptor without truncated fields is read back. -/
theorem descReads_of_load (hload : loadAt buf off d.bytes.length = d.bytes) (hfit : FieldsFit d)
    (hid : d.id < 2 ^ 8) (hhlid : d.hlid < 2 ^ 8) : DescReads buf off d := by
  have hbyte (i : ℕ) (hi : i < txHwDescrSize) : buf (off + i) = d.bytes.getD i 0 := by
    rw [← TxHwDescr.bytes_length d] at hi
    rw [← hload]
    exact (getD_loadAt hi 0).symm
  have hb0 : buf off = byteOf d.length 0 := hbyte 0 (by decide)
  have hb1 : buf (off + 1) = byteOf d.length 1 := hbyte 1 (by decide)
  have hb2 : buf (off + 2) = byteOf d.mem0 0 := hbyte 2 (by decide)
  have hb3 : buf (off + 3) = byteOf d.mem1 0 := hbyte 3 (by decide)
  have hb10 : buf (off + 10) = byteOf d.txAttr 0 := hbyte 10 (by decide)
  have hb11 : buf (off + 10 + 1) = byteOf d.txAttr 1 := hbyte 11 (by decide)
  have hb12 : buf (off + 12) = byteOf d.id 0 := hbyte 12 (by decide)
  have hb14 : buf (off + 14) = byteOf d.hlid 0 := hbyte 14 (by decide)
  obtain ⟨hlength, hmem0, hmem1, hattr⟩ := hfit
  refine ⟨?_, ?_, ?_, ?_, ?_, ?_⟩ <;>
    simp only [le16, hb0, hb1, hb2, hb3, hb10, hb11, hb12, hb14, byteOf_toNat] <;> omega

/-- A frame that is stored with its descriptor is a chunk of the buffer. -/
theorem chunk_of_store (hc : AggrConf c) (hlen : txHwDescrSize + frame.length ≤ c.aggrBufSize)
    (ha : AllocFor c (txHwDescrSize + frame.length) a) (hd : PlainAttr d) (hid : d.id = a.id.val)
    (hhlid : d.hlid < 2 ^ 8) (buf : ℕ → Byte) (off : ℕ) :
    Chunk c
      (storeAt buf off
        (placedBytes c.quirks (hwSetTxDesc c a (txHwDescrSize + frame.length) d) frame))
      off ⟨a.id, d.hlid, a.totalBlocks, frame⟩ c.quirks.txPadLastFrame := by
  have hfit := hwSetTxDesc_fits hc hlen ha hd
  obtain ⟨hle, hpad, hwords⟩ := pad_lt c.quirks (txHwDescrSize + frame.length)
  have hsame : (hwSetTxDesc c a (txHwDescrSize + frame.length) d).id = a.id.val ∧
      (hwSetTxDesc c a (txHwDescrSize + frame.length) d).hlid = d.hlid := by
    dsimp only [hwSetTxDesc]
    split <;> exact ⟨hid, rfl⟩
  have hreads : DescReads
      (storeAt buf off
        (placedBytes c.quirks (hwSetTxDesc c a (txHwDescrSize + frame.length) d) frame))
      off (hwSetTxDesc c a (txHwDescrSize + frame.length) d) := by
    refine descReads_of_load ?_ hfit (by rw [hsame.1]; omega) (by rw [hsame.2]; exact hhlid)
    have := loadAt_storeAt_append buf off []
      (hwSetTxDesc c a (txHwDescrSize + frame.length) d).bytes (frame ++ List.replicate
        (wlcoreCalcPacketAlignment c.quirks (txHwDescrSize + frame.length) -
          (txHwDescrSize + frame.length)) 0)
    simpa [placedBytes] using this
  refine ⟨?_, hreads.id.trans hsame.1, hreads.hlid.trans hsame.2, ?_,
    loadAt_storeAt_append buf off _ frame _, ?_⟩
  · unfold descLen
    rw [hreads.length, hreads.txAttr, hreads.mem1]
    obtain ⟨session, rate, dummy, enc, hattr⟩ := hd
    split <;> rename_i hchip <;> simp only [hwSetTxDesc, hchip]
    · rw [hc.packetAlignment_wl127x hchip] at hpad
      have := (txAttrBits_pad session rate dummy enc ⟨_, hpad⟩).1
      rw [hattr, this]
      dsimp only
      omega
    · omega
  · unfold descBlocks
    rw [hreads.mem0, hreads.mem1]
    split <;> rename_i hchip <;> simp only [hwSetTxDesc, hchip]
  · unfold descNotPadded
    rw [hreads.mem1]
    by_cases hchip : c.chip = .wl18xx
    · simp only [hwSetTxDesc, hchip]
      cases c.quirks.txPadLastFrame <;> decide
    · simp [hchip, hc.wl12xx hchip]

end

end TiWlan.Tx
