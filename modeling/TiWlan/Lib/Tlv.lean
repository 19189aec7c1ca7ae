import Mathlib.Tactic

/-!
# Id-length-value elements

Sequences of elements that are an id byte, a length byte and as many bytes as it says. The
encoding of a sequence can be cut at each of its elements, and a sequence whose encoding begins
another one's begins that sequence itself.

`offsetOf` is the place of the first element with a property, and `scan` finds it in the bytes.
-/

namespace TiWlan.Lib

/-- An element: its id and the bytes that its length byte counts. -/
structure Tlv where
  id : UInt8
  data : List UInt8
  data_le : data.length ≤ 255
  deriving DecidableEq

namespace Tlv

/-- The bytes of an element. -/
def bytes (e : Tlv) : List UInt8 := e.id :: UInt8.ofNat e.data.length :: e.data

/-- The bytes of a sequence of elements. -/
def encode (es : List Tlv) : List UInt8 := es.flatMap bytes

theorem toNat_length (e : Tlv) : (UInt8.ofNat e.data.length).toNat = e.data.length := by
  have := e.data_le
  rw [UInt8.toNat_ofNat', Nat.mod_eq_of_lt (by omega)]

@[simp] theorem length_bytes (e : Tlv) : e.bytes.length = e.data.length + 2 := rfl

@[simp] theorem encode_nil : encode [] = [] := rfl

@[simp] theorem encode_cons (e : Tlv) (es : List Tlv) : encode (e :: es) = e.bytes ++ encode es :=
  rfl

@[simp] theorem encode_append (es es' : List Tlv) : encode (es ++ es') = encode es ++ encode es' :=
  List.flatMap_append

theorem length_le_encode (es : List Tlv) : es.length ≤ (encode es).length := by
  induction es with
  | nil => rfl
  | cons e es ih =>
    rw [encode_cons, List.length_append, List.length_cons, length_bytes]
    omega

/-! ## Unique decoding -/

/-- An element is determined by its bytes, whatever follows them. -/
theorem bytes_append_inj {e e' : Tlv} {u v : List UInt8} (h : e.bytes ++ u = e'.bytes ++ v) :
    e = e' ∧ u = v := by
  simp only [bytes, List.cons_append, List.cons.injEq] at h
  obtain ⟨hid, hlen, hrest⟩ := h
  have hlen' : e.data.length = e'.data.length := by
    rw [← toNat_length e, ← toNat_length e', hlen]
  obtain ⟨hdata, huv⟩ := List.append_inj hrest hlen'
  exact ⟨by cases e; cases e'; simp_all, huv⟩

theorem prefix_of_encode {es es' : List Tlv} (h : encode es <+: encode es') : es <+: es' := by
  induction es generalizing es' with
  | nil => exact List.nil_prefix
  | cons e es ih =>
    obtain ⟨u, hu⟩ := h
    rw [encode_cons, List.append_assoc] at hu
    cases es' with
    | nil => exact absurd (congrArg List.length hu) (by simp)
    | cons e' es' =>
      rw [encode_cons] at hu
      obtain ⟨rfl, hrest⟩ := bytes_append_inj hu
      exact List.prefix_cons_inj e |>.mpr (ih ⟨u, hrest⟩)

theorem encode_injective : Function.Injective encode := fun es es' h =>
  (prefix_of_encode (h ▸ List.prefix_rfl)).eq_of_length_le
    (prefix_of_encode (h ▸ List.prefix_rfl) : es' <+: es).length_le

/-! ## The first element with a property -/

/-- Where the first element with the property starts. -/
def offsetOf (p : Tlv → Bool) : List Tlv → Option ℕ
  | [] => none
  | e :: es => if p e then some 0 else (offsetOf p es).map (e.bytes.length + ·)

section
variable {p : Tlv → Bool} {es : List Tlv}

theorem offsetOf_of_forall_not (h : ∀ e ∈ es, p e = false) : offsetOf p es = none := by
  induction es with
  | nil => rfl
  | cons e es ih =>
    rw [List.forall_mem_cons] at h
    rw [offsetOf, h.1, ih h.2]
    rfl

/-- The element is found behind those without the property. -/
theorem offsetOf_append {pre : List Tlv} (hpre : ∀ x ∈ pre, p x = false) {e : Tlv}
    (he : p e = true) (post : List Tlv) :
    offsetOf p (pre ++ e :: post) = some (encode pre).length := by
  induction pre with
  | nil => exact if_pos he
  | cons x pre ih =>
    rw [List.forall_mem_cons] at hpre
    rw [List.cons_append, offsetOf, hpre.1, ih hpre.2, encode_cons, List.length_append]
    rfl

/-- The first element with a property stands between others, of which those before it do not have
the property. -/
theorem exists_append_of_find? {e : Tlv} (h : es.find? p = some e) :
    ∃ pre post, es = pre ++ e :: post ∧ (∀ x ∈ pre, p x = false) ∧ p e = true := by
  obtain ⟨he, pre, post, rfl, hpre⟩ := List.find?_eq_some_iff_append.mp h
  exact ⟨pre, post, rfl, fun x hx => by simpa using hpre x hx, he⟩

end

/-! ## Cutting at an element

`header` is what precedes the elements. -/

section
variable (header : List UInt8) (pre : List Tlv) (e : Tlv) (post : List Tlv)

theorem take_at : (header ++ encode (pre ++ e :: post)).take
    (header.length + (encode pre).length) = header ++ encode pre := by
  rw [encode_append, ← List.append_assoc, ← List.length_append, List.take_left]

theorem drop_at : (header ++ encode (pre ++ e :: post)).drop
    (header.length + (encode pre).length) = e.bytes ++ encode post := by
  rw [encode_append, encode_cons, ← List.append_assoc, ← List.length_append, List.drop_left]

theorem getD_at : ((header ++ encode (pre ++ e :: post)).getD
    (header.length + (encode pre).length + 1) 0).toNat = e.data.length := by
  have hdrop := congrArg (fun l => l.getD 1 0) (drop_at header pre e post)
  simp only [List.getD_eq_getElem?_getD, List.getElem?_drop] at hdrop
  rw [List.getD_eq_getElem?_getD, hdrop]
  exact toNat_length e

theorem data_at : ((header ++ encode (pre ++ e :: post)).drop
    (header.length + (encode pre).length + 2)).take e.data.length = e.data := by
  rw [← List.drop_drop, drop_at, bytes, List.cons_append, List.cons_append]
  exact List.take_left

theorem drop_behind : (header ++ encode (pre ++ e :: post)).drop
    (header.length + (encode pre).length + (e.data.length + 2)) = encode post := by
  rw [← List.drop_drop, drop_at, ← length_bytes, List.drop_left]

end

/-! ## Finding an element in the bytes -/

/-- The offset of the first complete element with the property; `fuel` bounds the elements that
are looked at. -/
def scan (p : UInt8 → List UInt8 → Bool) : ℕ → List UInt8 → Option ℕ
  | fuel + 1, id :: len :: rest =>
    if rest.length < len.toNat then none
    else if p id (rest.take len.toNat) then some 0
    else (scan p fuel (rest.drop len.toNat)).map (len.toNat + 2 + ·)
  | _, _ => none

theorem scan_encode (p : UInt8 → List UInt8 → Bool) {fuel : ℕ} {es : List Tlv}
    (h : es.length ≤ fuel) : scan p fuel (encode es) = offsetOf (fun e => p e.id e.data) es := by
  induction es generalizing fuel with
  | nil => cases fuel <;> rfl
  | cons e es ih =>
    obtain ⟨fuel, rfl⟩ : ∃ n, fuel = n + 1 := ⟨fuel - 1, by rw [List.length_cons] at h; omega⟩
    rw [List.length_cons] at h
    rw [encode_cons, bytes, List.cons_append, List.cons_append, scan, toNat_length, offsetOf,
      List.take_left, List.drop_left, if_neg (by rw [List.length_append]; omega),
      ih (by omega), length_bytes]

end Tlv

end TiWlan.Lib
