import Mathlib.Data.List.TakeWhile
import Mathlib.Tactic

/-!
# Anchored patterns

A pattern is a sequence of pieces, each a class of characters that stands once, any number of
times or at least once, as in `^[\t ]*([a-z])=`. `matchPieces` finds the match that POSIX asks
for at the start of a string: the longest one, and among the longest the one whose pieces are as
long as possible, from left to right. The result is the list of what the pieces match.

`matchPieces_classes`: what a piece matches is of its class. `Eats`: if the pieces can eat up the
whole string by each taking all it can, they do. `matchPieces_one`, `matchPieces_star_forced` and
`matchPieces_star_plus`: matches of strings that are not eaten up, piece by piece.
-/

namespace TiWlan.Lib

/-- A class of characters with its repetition: `lo` times at least, and at most once unless
`many`. -/
structure Piece (α : Type) where
  cls : α → Bool
  lo : ℕ
  many : Bool

namespace Piece

variable {α : Type}

/-- `[…]` -/
def one (cls : α → Bool) : Piece α := ⟨cls, 1, false⟩

/-- `[…]*` -/
def star (cls : α → Bool) : Piece α := ⟨cls, 0, true⟩

/-- `[…]+` -/
def plus (cls : α → Bool) : Piece α := ⟨cls, 1, true⟩

/-- How much of `s` the piece can take. -/
def reach (p : Piece α) (s : List α) : ℕ :=
  if p.many then (s.takeWhile p.cls).length else min 1 (s.takeWhile p.cls).length

end Piece

section
variable {α : Type}

/-- The longer of two matches, the first if they are equally long. -/
def longest : Option (List (List α)) → Option (List (List α)) → Option (List (List α))
  | none, r => r
  | some a, none => some a
  | some a, some b => if a.flatten.length < b.flatten.length then some b else some a

/-- The longest of the matches `f n, f (n - 1), …, f lo`. -/
def longestFrom (f : ℕ → Option (List (List α))) (lo : ℕ) : ℕ → Option (List (List α))
  | 0 => if lo = 0 then f 0 else none
  | n + 1 => if n + 1 < lo then none else longest (f (n + 1)) (longestFrom f lo n)

/-- The match of a sequence of pieces at the start of a string. -/
def matchPieces : List (Piece α) → List α → Option (List (List α))
  | [], _ => some []
  | p :: ps, s =>
    longestFrom (fun n => (matchPieces ps (s.drop n)).map (s.take n :: ·)) p.lo (p.reach s)

theorem longest_cases (a b : Option (List (List α))) : longest a b = a ∨ longest a b = b := by
  match a, b with
  | none, _ => exact Or.inr rfl
  | some a, none => exact Or.inl rfl
  | some a, some b =>
    rw [longest]
    split
    · exact Or.inr rfl
    · exact Or.inl rfl

/-- A piece that matches takes no more than it can reach and no less than it must. -/
theorem longestFrom_bounds {f : ℕ → Option (List (List α))} {lo n : ℕ} {r : List (List α)}
    (h : longestFrom f lo n = some r) : ∃ k, lo ≤ k ∧ k ≤ n ∧ f k = some r := by
  induction n with
  | zero =>
    rw [longestFrom] at h
    split at h
    · exact ⟨0, by omega, le_refl 0, h⟩
    · simp at h
  | succ n ih =>
    rw [longestFrom] at h
    split at h
    · simp at h
    · rcases longest_cases (f (n + 1)) (longestFrom f lo n) with hc | hc
      · exact ⟨n + 1, by omega, le_refl _, hc ▸ h⟩
      · obtain ⟨k, hlo, hk, hf⟩ := ih (hc ▸ h)
        exact ⟨k, hlo, by omega, hf⟩

/-- A match that nothing is longer than is taken if it comes first. -/
theorem longestFrom_first {f : ℕ → Option (List (List α))} {lo n : ℕ} {r : List (List α)}
    (hlo : lo ≤ n) (hr : f n = some r)
    (hmax : ∀ k ≤ n, ∀ r', f k = some r' → r'.flatten.length ≤ r.flatten.length) :
    longestFrom f lo n = some r := by
  cases n with
  | zero => rw [longestFrom, if_pos (by omega), hr]
  | succ n =>
    rw [longestFrom, if_neg (by omega), hr]
    cases hrest : longestFrom f lo n with
    | none => rfl
    | some r' =>
      obtain ⟨k, -, hle, hk⟩ := longestFrom_bounds hrest
      have hle := hmax k (by omega) r' hk
      rw [longest, if_neg (by omega)]

/-- A match is a prefix of the string. -/
theorem matchPieces_length_le {ps : List (Piece α)} {s : List α} {r : List (List α)}
    (h : matchPieces ps s = some r) : r.flatten.length ≤ s.length := by
  induction ps generalizing s r with
  | nil =>
    cases h
    simp
  | cons p ps ih =>
    obtain ⟨k, -, -, hk⟩ := longestFrom_bounds h
    obtain ⟨r', hr', rfl⟩ := Option.map_eq_some_iff.mp hk
    have hle := ih hr'
    simp only [List.flatten_cons, List.length_append, List.length_take, List.length_drop] at hle ⊢
    omega

theorem reach_le_length (p : Piece α) (s : List α) : p.reach s ≤ s.length := by
  have hle := (s.takeWhile_sublist p.cls).length_le
  rw [Piece.reach]
  split <;> omega

theorem cls_of_mem_take_reach {p : Piece α} {s : List α} {n : ℕ} (hn : n ≤ p.reach s) {c : α}
    (hc : c ∈ s.take n) : p.cls c = true := by
  have hle : n ≤ (s.takeWhile p.cls).length := by
    rw [Piece.reach] at hn
    split at hn <;> omega
  have htake : s.take n = (s.takeWhile p.cls).take n := by
    conv_lhs => rw [← List.takeWhile_append_dropWhile (p := p.cls) (l := s)]
    rw [List.take_append_of_le_length hle]
  rw [htake] at hc
  exact List.mem_takeWhile_imp (List.mem_of_mem_take hc)

/-- What a piece matches is of its class, and as long as the piece asks for. -/
theorem matchPieces_classes {ps : List (Piece α)} {s : List α} {r : List (List α)}
    (h : matchPieces ps s = some r) :
    List.Forall₂ (fun p w => p.lo ≤ w.length ∧ ∀ c ∈ w, p.cls c = true) ps r := by
  induction ps generalizing s r with
  | nil =>
    cases h
    exact .nil
  | cons p ps ih =>
    obtain ⟨k, hlo, hk, hf⟩ := longestFrom_bounds h
    obtain ⟨r', hr', rfl⟩ := Option.map_eq_some_iff.mp hf
    have hlen := reach_le_length p s
    refine .cons ⟨?_, fun c hc => cls_of_mem_take_reach hk hc⟩ (ih hr')
    rw [List.length_take]
    omega

/-! ## Matches piece by piece -/

theorem longestFrom_of_none {f : ℕ → Option (List (List α))} {lo n : ℕ}
    (h : ∀ k, lo ≤ k → k < n → f k = none) (hlo : lo ≤ n) : longestFrom f lo n = f n := by
  have hrest : ∀ k < n, longestFrom f lo k = none := by
    intro k hk
    cases hr : longestFrom f lo k with
    | none => rfl
    | some r =>
      obtain ⟨j, hlo', hj, hf⟩ := longestFrom_bounds hr
      rw [h j hlo' (by omega)] at hf
      cases hf
  cases n with
  | zero => rw [longestFrom, if_pos (by omega)]
  | succ n =>
    rw [longestFrom, if_neg (by omega), hrest n (by omega)]
    cases f (n + 1) <;> rfl

theorem matchPieces_one (cls : α → Bool) (ps : List (Piece α)) (c : α) (s : List α) :
    matchPieces (.one cls :: ps) (c :: s) =
      if cls c then (matchPieces ps s).map ([c] :: ·) else none := by
  by_cases hc : cls c = true
  · have hreach : (Piece.one cls).reach (c :: s) = 1 := by
      show min 1 ((c :: s).takeWhile cls).length = 1
      rw [List.takeWhile_cons_of_pos hc, List.length_cons]
      omega
    have hnone (k : ℕ) (hlo : 1 ≤ k) (hk : k < 1) :
        (matchPieces ps ((c :: s).drop k)).map ((c :: s).take k :: ·) = none := by omega
    rw [matchPieces, hreach, if_pos hc]
    exact longestFrom_of_none hnone (le_refl 1)
  · have hreach : (Piece.one cls).reach (c :: s) = 0 := by
      show min 1 ((c :: s).takeWhile cls).length = 0
      rw [List.takeWhile_cons_of_neg hc]
      rfl
    rw [matchPieces, hreach, if_neg hc]
    rfl

theorem takeWhile_append_stop {cls : α → Bool} {w rest : List α} (hw : ∀ c ∈ w, cls c = true)
    (hrest : rest.head?.any cls = false) : (w ++ rest).takeWhile cls = w := by
  rw [List.takeWhile_append_of_pos hw]
  cases rest with
  | nil => simp
  | cons c rest =>
    have hc : cls c = false := hrest
    rw [List.takeWhile_cons_of_neg (by simp [hc]), List.append_nil]

theorem exists_cons_drop_append {w : List α} {n : ℕ} (hn : n < w.length) (rest : List α) :
    ∃ c ∈ w, ∃ t, (w ++ rest).drop n = c :: t := by
  refine ⟨w[n], List.getElem_mem hn, w.drop (n + 1) ++ rest, ?_⟩
  rw [List.drop_append_of_le_length (by omega), List.drop_eq_getElem_cons hn, List.cons_append]

/-- A repeated piece takes all it can if the others cannot match any earlier. -/
theorem matchPieces_star_forced {cls : α → Bool} (ps : List (Piece α)) {w rest : List α}
    (hw : ∀ c ∈ w, cls c = true) (hrest : rest.head?.any cls = false)
    (hnone : ∀ c ∈ w, ∀ t, matchPieces ps (c :: t) = none) :
    matchPieces (.star cls :: ps) (w ++ rest) = (matchPieces ps rest).map (w :: ·) := by
  have hreach : (Piece.star cls).reach (w ++ rest) = w.length := by
    show ((w ++ rest).takeWhile cls).length = w.length
    rw [takeWhile_append_stop hw hrest]
  rw [matchPieces, hreach, longestFrom_of_none, List.drop_left, List.take_left]
  · intro n _ hn
    obtain ⟨c, hc, t, hdrop⟩ := exists_cons_drop_append hn rest
    rw [hdrop, hnone c hc t, Option.map_none]
  · exact Nat.zero_le _

theorem matchPieces_plus (cls : α → Bool) (s : List α) :
    matchPieces [.plus cls] s =
      if s.takeWhile cls = [] then none else some [s.takeWhile cls] := by
  have hreach : (Piece.plus cls).reach s = (s.takeWhile cls).length := rfl
  have htake : s.take (s.takeWhile cls).length = s.takeWhile cls :=
    (List.prefix_iff_eq_take.mp (List.takeWhile_prefix cls)).symm
  rw [matchPieces, hreach]
  by_cases hnil : s.takeWhile cls = []
  · rw [if_pos hnil, hnil]
    rfl
  · have hpos := List.length_pos_iff.mpr hnil
    rw [if_neg hnil]
    refine longestFrom_first hpos ?_ ?_
    · rw [htake]
      rfl
    · intro k hk r' hr'
      obtain ⟨r₁, hr₁, rfl⟩ := Option.map_eq_some_iff.mp hr'
      cases hr₁
      simp only [List.flatten_cons, List.flatten_nil, List.append_nil, List.length_take]
      omega

theorem takeWhile_drop {cls : α → Bool} {s : List α} {n : ℕ} (hn : n ≤ (s.takeWhile cls).length) :
    (s.drop n).takeWhile cls = (s.takeWhile cls).drop n := by
  induction n generalizing s with
  | zero => rfl
  | succ n ih =>
    cases s with
    | nil => rfl
    | cons c s =>
      by_cases hc : cls c = true
      · rw [List.takeWhile_cons_of_pos hc, List.length_cons] at hn
        rw [List.drop_succ_cons, List.takeWhile_cons_of_pos hc, List.drop_succ_cons,
          ih (by omega)]
      · rw [List.takeWhile_cons_of_neg hc] at hn
        simp at hn

theorem takeWhile_takeWhile_of_imp {a b : α → Bool} (hab : ∀ c, a c = true → b c = true)
    (s : List α) : (s.takeWhile b).takeWhile a = s.takeWhile a := by
  rw [List.takeWhile_takeWhile]
  congr 1
  funext c
  cases ha : a c with
  | false => simp
  | true => simp [hab c ha]

/-- A value behind blanks, where blanks also belong to values: the blanks in front are left out,
but not all of them if there is nothing else. -/
theorem matchPieces_star_plus {a b : α → Bool} (hab : ∀ c, a c = true → b c = true) (s : List α)
    {run : List α} (hrun : s.takeWhile b = run) {n : ℕ}
    (hn : n = min (run.takeWhile a).length (run.length - 1)) :
    matchPieces [.star a, .plus b] s =
      if run = [] then none else some [run.take n, run.drop n] := by
  have hblank : s.takeWhile a = run.takeWhile a := by
    rw [← hrun, takeWhile_takeWhile_of_imp hab]
  have hle : (run.takeWhile a).length ≤ run.length := (run.takeWhile_sublist a).length_le
  have hpieces (k : ℕ) (hk : k ≤ (run.takeWhile a).length) :
      (matchPieces [.plus b] (s.drop k)).map (s.take k :: ·) =
        if k < run.length then some [run.take k, run.drop k] else none := by
    have htake : s.take k = run.take k := by
      have happend := List.takeWhile_append_dropWhile (p := b) (l := s)
      rw [hrun] at happend
      rw [← happend, List.take_append_of_le_length (by omega)]
    rw [matchPieces_plus, takeWhile_drop (by rw [hrun]; omega), hrun, htake]
    by_cases hlt : k < run.length
    · have hne : run.drop k ≠ [] := by
        rw [ne_eq, List.drop_eq_nil_iff]
        omega
      rw [if_neg hne, if_pos hlt, Option.map_some]
    · have hnil : run.drop k = [] := List.drop_eq_nil_iff.mpr (by omega)
      rw [if_pos hnil, if_neg hlt, Option.map_none]
  have hreach : (Piece.star a).reach s = (run.takeWhile a).length := by
    show (s.takeWhile a).length = _
    rw [hblank]
  have hfirst (m : ℕ) (hm : m ≤ (run.takeWhile a).length) (hlt : m < run.length) :
      longestFrom (fun k => (matchPieces [.plus b] (s.drop k)).map (s.take k :: ·)) 0 m =
        some [run.take m, run.drop m] := by
    refine longestFrom_first (Nat.zero_le m) ?_ ?_
    · rw [hpieces m hm, if_pos hlt]
    · intro k hk r' hr'
      rw [hpieces k (by omega), if_pos (by omega)] at hr'
      cases hr'
      simp only [List.flatten_cons, List.flatten_nil, List.append_nil, List.take_append_drop,
        le_refl]
  rw [matchPieces, hreach]
  show longestFrom _ 0 _ = _
  by_cases hnil : run = []
  · rw [if_pos hnil]
    subst hnil
    show (matchPieces [.plus b] (s.drop 0)).map (s.take 0 :: ·) = none
    rw [hpieces 0 (Nat.zero_le _)]
    rfl
  · have hpos := List.length_pos_iff.mpr hnil
    rw [if_neg hnil]
    by_cases hall : (run.takeWhile a).length < run.length
    · rw [hfirst _ (le_refl _) hall, hn, Nat.min_eq_left (by omega)]
    · -- the run consists of blanks only: one of them is left for the value
      obtain ⟨m, hm⟩ : ∃ m, (run.takeWhile a).length = m + 1 := ⟨run.length - 1, by omega⟩
      have hnone : (matchPieces [.plus b] (s.drop (m + 1))).map (s.take (m + 1) :: ·) = none := by
        rw [hpieces (m + 1) (by omega), if_neg (by omega)]
      rw [hm, longestFrom, if_neg (by omega), hnone, hn, hm]
      show longestFrom _ 0 m = _
      rw [hfirst m (by omega) (by omega), show min (m + 1) (run.length - 1) = m by omega]

/-! ## Matches of the whole string -/

/-- The pieces match the whole string, as `r`. -/
structure Eats (ps : List (Piece α)) (s : List α) (r : List (List α)) : Prop where
  eq : matchPieces ps s = some r
  all : r.flatten = s

namespace Eats

variable {cls : α → Bool} {ps : List (Piece α)} {w rest : List α} {r : List (List α)}

theorem nil : Eats ([] : List (Piece α)) [] [] := ⟨rfl, rfl⟩

/-- The first piece takes all it can if the others then take all the rest. -/
theorem cons {p : Piece α} (h : Eats ps rest r) (hreach : p.reach (w ++ rest) = w.length)
    (hlo : p.lo ≤ w.length) : Eats (p :: ps) (w ++ rest) (w :: r) := by
  refine ⟨?_, by rw [List.flatten_cons, h.all]⟩
  rw [matchPieces, hreach]
  refine longestFrom_first hlo ?_ ?_
  · rw [List.drop_left, h.eq, List.take_left, Option.map_some]
  · intro k _ r' hk
    obtain ⟨r₁, hr₁, rfl⟩ := Option.map_eq_some_iff.mp hk
    have hle := matchPieces_length_le hr₁
    rw [List.flatten_cons, List.flatten_cons, h.all]
    simp only [List.length_append, List.length_take, List.length_drop] at hle ⊢
    omega

/-- A repeated piece takes `w` if all of `w` is of its class and what follows is not. -/
theorem reach_many {p : Piece α} (hmany : p.many = true) (hw : ∀ c ∈ w, p.cls c = true)
    (hrest : rest.head?.any p.cls = false) : p.reach (w ++ rest) = w.length := by
  rw [Piece.reach, if_pos hmany, takeWhile_append_stop hw hrest]

theorem star (h : Eats ps rest r) (hw : ∀ c ∈ w, cls c = true)
    (hrest : rest.head?.any cls = false) : Eats (.star cls :: ps) (w ++ rest) (w :: r) :=
  h.cons (reach_many rfl hw hrest) (Nat.zero_le _)

theorem plus (h : Eats ps rest r) (hw : ∀ c ∈ w, cls c = true) (hne : w ≠ [])
    (hrest : rest.head?.any cls = false) : Eats (.plus cls :: ps) (w ++ rest) (w :: r) :=
  h.cons (reach_many rfl hw hrest) (List.length_pos_iff.mpr hne)

theorem one {c : α} (h : Eats ps rest r) (hc : cls c = true) :
    Eats (.one cls :: ps) ([c] ++ rest) ([c] :: r) := by
  refine h.cons ?_ (le_refl 1)
  have hlen : 1 ≤ (([c] ++ rest).takeWhile cls).length := by
    rw [List.singleton_append, List.takeWhile_cons_of_pos hc, List.length_cons]
    omega
  exact Nat.min_eq_left hlen

end Eats

end

end TiWlan.Lib
