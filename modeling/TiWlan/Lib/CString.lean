import Mathlib.Data.Nat.Digits.Lemmas
import Mathlib.Tactic
import TiWlan.Lib.Bytes

/-!
# C strings

A C string is the list of its bytes without the NUL. The functions of the C library that cut
strings into tokens, and that read and print numbers:

* `strtokAll`: the tokens that repeated calls of `strtok` return;
* `strtoul`: `strtoul` with base 0, for an `unsigned long` of any width;
* `literal`: the integers that `strtoul` is meant for, written completely;
* `hexDigits`: the conversion `%0nx`.

`strtokAll_intercalate`, `strtoul_literal` and `strtoul_hex`: strings that are put together of
tokens, or printed as numbers, are read back.
-/

namespace TiWlan.Lib

variable {s : CStr} {c d : UInt8} {b n : ℕ}

/-- A C string. -/
abbrev CStr := List UInt8

/-- The C string of a literal. -/
def str (s : String) : CStr := s.toList.map fun c => UInt8.ofNat c.toNat

/-- The code of a character. -/
def chr (c : Char) : UInt8 := UInt8.ofNat c.toNat

/-! ## Tokens -/

/-- The tokens of `s`: the pieces between delimiters, but not the empty ones. -/
def strtokAll (delim : UInt8 → Bool) (s : CStr) : List CStr :=
  (s.splitOnP delim).filter (· ≠ [])

theorem strtokAll_of_noDelim {delim : UInt8 → Bool} (h : ∀ c ∈ s, delim c = false) (hne : s ≠ []) :
    strtokAll delim s = [s] := by
  rw [strtokAll, List.splitOnP_eq_singleton h]
  simp [hne]

theorem strtokAll_append {delim : UInt8 → Bool} (hd : delim d = true) (s t : CStr) :
    strtokAll delim (s ++ d :: t) = strtokAll delim s ++ strtokAll delim t := by
  rw [strtokAll, List.splitOnP_append_cons s t hd, List.filter_append]
  rfl

/-- Pieces that are put together with a delimiter are found again. -/
theorem strtokAll_intercalate {pieces : List CStr} (hne : pieces ≠ [])
    (h : ∀ piece ∈ pieces, d ∉ piece ∧ piece ≠ []) :
    strtokAll (· == d) (List.intercalate [d] pieces) = pieces := by
  have hsplit : (List.intercalate [d] pieces).splitOn d = pieces :=
    List.splitOn_intercalate _ (fun piece hp => (h piece hp).1) hne
  rw [strtokAll]
  change ((List.intercalate [d] pieces).splitOn d).filter (· ≠ []) = pieces
  rw [hsplit, List.filter_eq_self]
  intro piece hp
  simpa using (h piece hp).2

theorem flatten_splitOnP (delim : UInt8 → Bool) (s : CStr) :
    (s.splitOnP delim).flatten = s.filter (!delim ·) := by
  induction s with
  | nil => simp
  | cons c s ih =>
    rw [List.splitOnP_cons_eq_if_modifyHead]
    by_cases hc : delim c = true
    · rw [if_pos hc, List.flatten_cons, ih]
      simp [hc]
    · obtain ⟨first, rest, hsplit⟩ := List.exists_cons_of_ne_nil (List.splitOnP_ne_nil delim s)
      rw [if_neg hc, hsplit, List.modifyHead_cons, List.flatten_cons, List.cons_append,
        ← List.flatten_cons, ← hsplit, ih]
      simp [hc]

/-- The characters of a token are those of the string that are not delimiters. -/
theorem mem_of_mem_strtokAll {delim : UInt8 → Bool} {token : CStr} (h : token ∈ strtokAll delim s)
    (hc : c ∈ token) : c ∈ s ∧ delim c = false := by
  have hmem : c ∈ (s.splitOnP delim).flatten :=
    List.mem_flatten.mpr ⟨token, (List.mem_filter.mp h).1, hc⟩
  rw [flatten_splitOnP, List.mem_filter] at hmem
  exact ⟨hmem.1, by simpa using hmem.2⟩

/-- A string without tokens consists of delimiters. -/
theorem strtokAll_eq_nil_iff {delim : UInt8 → Bool} :
    strtokAll delim s = [] ↔ ∀ c ∈ s, delim c = true := by
  have hflat : strtokAll delim s = [] ↔ (s.splitOnP delim).flatten = [] := by
    simp [strtokAll, List.filter_eq_nil_iff, List.flatten_eq_nil_iff]
  rw [hflat, flatten_splitOnP]
  simp [List.filter_eq_nil_iff]

/-! ## Numbers -/

/-- `isspace` in the C locale. -/
def isSpace (c : UInt8) : Bool := c = 32 || (9 ≤ c && c ≤ 13)

/-- The value of a digit or letter. -/
def digitVal (c : UInt8) : Option ℕ :=
  if 48 ≤ c ∧ c ≤ 57 then some (c.toNat - 48)
  else if 97 ≤ c ∧ c ≤ 122 then some (c.toNat - 87)
  else if 65 ≤ c ∧ c ≤ 90 then some (c.toNat - 55)
  else none

/-- The digits of base `b` at the start of a string. -/
def digitsOf (b : ℕ) : CStr → List ℕ
  | [] => []
  | c :: s =>
    match digitVal c with
    | none => []
    | some d => if d < b then d :: digitsOf b s else []

/-- The number that digits stand for, the highest first. -/
def ofDigits (b : ℕ) (ds : List ℕ) : ℕ := ds.foldl (fun n d => n * b + d) 0

/-- Base and digits of a string without sign, for base 0: `0x` stands in front of hexadecimal and
`0` in front of octal numbers. -/
def numeral : CStr → ℕ × List ℕ
  | 48 :: x :: s =>
    if (x = 120 ∨ x = 88) ∧ digitsOf 16 s ≠ [] then (16, digitsOf 16 s)
    else (8, digitsOf 8 (48 :: x :: s))
  | 48 :: s => (8, digitsOf 8 (48 :: s))
  | s => (10, digitsOf 10 s)

/-- `strtoul(s, NULL, 0)` for an `unsigned long` of `bits` bits. -/
def strtoul (bits : ℕ) (s : CStr) : ℕ :=
  let s := s.dropWhile isSpace
  let neg := s.head? = some 45
  let s := if s.head? = some 45 ∨ s.head? = some 43 then s.tail else s
  let n := ofDigits (numeral s).1 (numeral s).2
  if 2 ^ bits ≤ n then 2 ^ bits - 1
  else if neg then (2 ^ bits - n) % 2 ^ bits
  else n

/-- The number that a string of digits of base `b` stands for, if it is one. -/
def allDigits (b : ℕ) (s : CStr) : Option ℕ :=
  if s ≠ [] ∧ (digitsOf b s).length = s.length then some (ofDigits b (digitsOf b s)) else none

/-- The value of a complete decimal, octal or hexadecimal integer without sign. -/
def literal : CStr → Option ℕ
  | 48 :: x :: s => if x = 120 ∨ x = 88 then allDigits 16 s else allDigits 8 (48 :: x :: s)
  | 48 :: s => allDigits 8 (48 :: s)
  | s => allDigits 10 s

/-- A hexadecimal digit. -/
def hexDigit (n : ℕ) : UInt8 := UInt8.ofNat (if n < 10 then 48 + n else 87 + n)

/-- The low `n` hexadecimal digits of `x`, with the highest first. -/
def hexDigits : ℕ → ℕ → CStr
  | 0, _ => []
  | n + 1, x => hexDigits n (x / 16) ++ [hexDigit (x % 16)]

theorem digitVal_hexDigit (h : n < 16) : digitVal (hexDigit n) = some n := by
  revert n
  decide

theorem digitsOf_append {t : CStr} (h : (digitsOf b s).length = s.length) :
    digitsOf b (s ++ t) = digitsOf b s ++ digitsOf b t := by
  induction s with
  | nil => rfl
  | cons c s ih =>
    rw [List.cons_append, digitsOf, digitsOf]
    rw [digitsOf] at h
    split at h
    · simp at h
    · rename_i d hd
      split at h
      · rename_i hlt
        rw [if_pos hlt, if_pos hlt, ih (by simpa using h), List.cons_append]
      · simp at h

theorem digitsOf_eq_nil (h : ∀ c ∈ s, digitVal c = none) : digitsOf b s = [] := by
  cases s with
  | nil => rfl
  | cons c s => rw [digitsOf, h c (by simp)]

theorem digitVal_of_digitsOf (h : (digitsOf b s).length = s.length) :
    ∀ c ∈ s, digitVal c ≠ none := by
  induction s with
  | nil => simp
  | cons c s ih =>
    rw [digitsOf] at h
    split at h
    · simp at h
    · rename_i d hd
      split at h
      · intro x hx
        rcases List.mem_cons.mp hx with rfl | hx
        · simp [hd]
        · exact ih (by simpa using h) x hx
      · simp at h

theorem allDigits_spec (h : allDigits b s = some n) :
    s ≠ [] ∧ (∀ c ∈ s, digitVal c ≠ none) ∧
      ∀ t : CStr, (∀ c ∈ t, digitVal c = none) → ofDigits b (digitsOf b (s ++ t)) = n ∧
        digitsOf b (s ++ t) ≠ [] := by
  rw [allDigits] at h
  split at h
  · rename_i hs
    obtain ⟨hne, hlen⟩ := hs
    cases h
    refine ⟨hne, digitVal_of_digitsOf hlen, fun t ht => ?_⟩
    rw [digitsOf_append hlen, digitsOf_eq_nil ht, List.append_nil]
    refine ⟨rfl, fun hnil => ?_⟩
    rw [hnil, List.length_nil] at hlen
    exact hne (List.length_eq_zero_iff.mp hlen.symm)
  · cases h

/-- A complete integer starts with a digit and consists of digits and letters. -/
theorem literal_chars (h : literal s = some n) : s ≠ [] ∧ ∀ c ∈ s, digitVal c ≠ none := by
  unfold literal at h
  split at h
  · rename_i x s
    split at h
    · rename_i hx
      obtain ⟨-, hs, -⟩ := allDigits_spec h
      refine ⟨by simp, fun c hc => ?_⟩
      rcases List.mem_cons.mp hc with rfl | hc
      · decide
      · rcases List.mem_cons.mp hc with rfl | hc
        · rcases hx with rfl | rfl <;> decide
        · exact hs c hc
    · obtain ⟨hne, hs, -⟩ := allDigits_spec h
      exact ⟨hne, hs⟩
  · obtain ⟨hne, hs, -⟩ := allDigits_spec h
    exact ⟨hne, hs⟩
  · obtain ⟨hne, hs, -⟩ := allDigits_spec h
    exact ⟨hne, hs⟩

/-- A complete integer is read up to its end. -/
theorem numeral_literal {t : CStr} (h : literal s = some n) (ht : ∀ c ∈ t, digitVal c = none) :
    ofDigits (numeral (s ++ t)).1 (numeral (s ++ t)).2 = n := by
  unfold literal at h
  split at h
  · rename_i x s
    rw [List.cons_append, List.cons_append, numeral]
    split at h
    · rename_i hx
      obtain ⟨-, -, hread⟩ := allDigits_spec h
      rw [if_pos ⟨hx, (hread t ht).2⟩]
      exact (hread t ht).1
    · rename_i hx
      obtain ⟨-, -, hread⟩ := allDigits_spec h
      rw [if_neg fun hc => hx hc.1]
      exact (hread t ht).1
  · rename_i s hnot
    obtain ⟨-, -, hread⟩ := allDigits_spec h
    have hs : s = [] := by
      cases s with
      | nil => rfl
      | cons x s => exact absurd rfl (hnot x s)
    subst hs
    cases t with
    | nil => exact (hread [] (by simp)).1
    | cons x t =>
      -- what follows a single `0` is no `x`
      have hx : ¬(x = 120 ∨ x = 88) := by
        rintro (rfl | rfl)
        · exact absurd (ht 120 (by simp)) (by decide)
        · exact absurd (ht 88 (by simp)) (by decide)
      rw [List.singleton_append, numeral, if_neg fun hc => hx hc.1]
      exact (hread (x :: t) ht).1
  · rename_i hnot₁ hnot₂
    obtain ⟨hne, -, hread⟩ := allDigits_spec h
    obtain ⟨c, s, rfl⟩ := List.exists_cons_of_ne_nil hne
    have hc : c ≠ 48 := by
      rintro rfl
      exact hnot₂ s rfl
    have hnumeral : numeral (c :: s ++ t) = (10, digitsOf 10 (c :: s ++ t)) := by
      rw [List.cons_append]
      unfold numeral
      split
      · rename_i heq
        exact absurd (List.cons.inj heq).1 hc
      · rename_i heq
        exact absurd (List.cons.inj heq).1 hc
      · rfl
    rw [hnumeral]
    exact (hread t ht).1

/-- Characters of numbers are neither blanks nor signs. -/
theorem digitVal_spec : ∀ c : UInt8, digitVal c ≠ none → isSpace c = false ∧ c ≠ 45 ∧ c ≠ 43 := by
  exact forall_uint8 (by decide +kernel)

/-- `strtoul` reads a complete integer, also between blanks. -/
theorem strtoul_literal {bits : ℕ} {ws t : CStr} (hws : ∀ c ∈ ws, isSpace c = true)
    (h : literal s = some n) (ht : ∀ c ∈ t, digitVal c = none) (hn : n < 2 ^ bits) :
    strtoul bits (ws ++ s ++ t) = n := by
  obtain ⟨hne, hchars⟩ := literal_chars h
  obtain ⟨c, rest, rfl⟩ := List.exists_cons_of_ne_nil hne
  obtain ⟨hspace, hminus, hplus⟩ := digitVal_spec c (hchars c (by simp))
  have hdrop : (ws ++ (c :: rest) ++ t).dropWhile isSpace = c :: rest ++ t := by
    rw [List.append_assoc, List.dropWhile_append_of_pos hws, List.cons_append,
      List.dropWhile_cons_of_neg (by simp [hspace])]
  have hhead : (c :: rest ++ t).head? = some c := rfl
  rw [strtoul, hdrop]
  simp only [hhead, Option.some.injEq, hminus, hplus, or_self, if_false, numeral_literal h ht]
  rw [if_neg (by omega)]

@[simp] theorem hexDigits_length (n x : ℕ) : (hexDigits n x).length = n := by
  induction n generalizing x with
  | zero => rfl
  | succ n ih => rw [hexDigits, List.length_append, ih, List.length_singleton]

theorem ofDigits_append_singleton (b : ℕ) (ds : List ℕ) (d : ℕ) :
    ofDigits b (ds ++ [d]) = ofDigits b ds * b + d := by
  rw [ofDigits, List.foldl_append]
  rfl

theorem digitsOf_hexDigits (n x : ℕ) : (digitsOf 16 (hexDigits n x)).length = n ∧
    ofDigits 16 (digitsOf 16 (hexDigits n x)) = x % 16 ^ n := by
  induction n generalizing x with
  | zero => exact ⟨rfl, (Nat.mod_one x).symm⟩
  | succ n ih =>
    obtain ⟨hlen, hval⟩ := ih (x / 16)
    have hlow : digitsOf 16 [hexDigit (x % 16)] = [x % 16] := by
      have hlt : x % 16 < 16 := Nat.mod_lt x (by decide)
      rw [digitsOf, digitVal_hexDigit hlt]
      simp only [hlt, if_true, digitsOf]
    have hsplit : digitsOf 16 (hexDigits (n + 1) x) =
        digitsOf 16 (hexDigits n (x / 16)) ++ [x % 16] := by
      rw [hexDigits, digitsOf_append (by rw [hlen, hexDigits_length]), hlow]
    rw [hsplit]
    constructor
    · rw [List.length_append, hlen, List.length_singleton]
    · rw [ofDigits_append_singleton, hval, Nat.pow_succ', Nat.mod_mul]
      omega

theorem literal_hex {x : ℕ} (hn : 0 < n) (hx : x < 16 ^ n) :
    literal (48 :: 120 :: hexDigits n x) = some x := by
  obtain ⟨hlen, hval⟩ := digitsOf_hexDigits n x
  have hne : hexDigits n x ≠ [] := by
    rw [← List.length_pos_iff, hexDigits_length]
    exact hn
  rw [literal, if_pos (Or.inl rfl), allDigits, if_pos ⟨hne, by rw [hlen, hexDigits_length]⟩, hval,
    Nat.mod_eq_of_lt hx]

/-- A number that is printed with `0x%0nx` is read back, also behind blanks. -/
theorem strtoul_hex {bits x : ℕ} {ws : CStr} (hws : ∀ c ∈ ws, isSpace c = true) (hn : 0 < n)
    (hx : x < 16 ^ n) (hbits : x < 2 ^ bits) :
    strtoul bits (ws ++ 48 :: 120 :: hexDigits n x) = x := by
  have h := strtoul_literal (t := []) hws (literal_hex hn hx) (by simp) hbits
  rwa [List.append_nil] at h

theorem mem_hexDigits {x : ℕ} (h : c ∈ hexDigits n x) : ∃ d < 16, c = hexDigit d := by
  induction n generalizing x with
  | zero => simp [hexDigits] at h
  | succ n ih =>
    rw [hexDigits, List.mem_append, List.mem_singleton] at h
    rcases h with h | h
    · exact ih h
    · exact ⟨x % 16, Nat.mod_lt x (by decide), h⟩

/-- A property of the characters of a string is checked along the string, also where all
characters are known to be finitely many. -/
theorem forall_mem_of_all {p : UInt8 → Prop} [DecidablePred p]
    (h : s.all (fun c => decide (p c)) = true) : ∀ c ∈ s, p c := fun c hc =>
  of_decide_eq_true (List.all_eq_true.mp h c hc)

end TiWlan.Lib
