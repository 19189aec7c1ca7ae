import Mathlib.Data.List.Nodup

/-!
# Round robin over a list

A scheduler keeps the entry `last` of a list that it served last, looks at the entries behind it
and then at those up to it, and serves the first one that is busy. `rotation last l` is the order
in which it looks.

Results: rotating twice is rotating once (`rotation_rotation`), and the fairness of a turn
(`Turn.ahead`): as long as `w` is busy and is not served, an entry `v` behind it in the order is not
served either and stays behind it. Right after `v` was served, everything is in front of it
(`ahead_rotation_self`).
-/

namespace TiWlan.Lib

variable {α : Type*} [DecidableEq α]

/-! ## The order -/

/-- The entries behind `last`. -/
def after (last : α) (l : List α) : List α := (l.dropWhile fun x => x != last).tail

/-- The entries up to `last`. -/
def upTo (last : α) : List α → List α
  | [] => []
  | x :: l => if x = last then [x] else x :: upTo last l

/-- The order in which the entries are looked at when `last` was served last. -/
def rotation (last : α) (l : List α) : List α := after last l ++ upTo last l

theorem after_cons (last x : α) (l : List α) :
    after last (x :: l) = if x = last then l else after last l := by
  unfold after
  rw [List.dropWhile_cons]
  by_cases hx : x = last <;> simp [hx]

/-- Both parts together have every entry. -/
theorem mem_rotation {last x : α} {l : List α} (hx : x ∈ l) : x ∈ rotation last l := by
  unfold rotation
  induction l with
  | nil => simp at hx
  | cons y l ih =>
    rw [after_cons, upTo]
    split_ifs with hy
    · simpa [or_comm] using hx
    · rcases List.mem_cons.mp hx with rfl | hx
      · simp
      · rcases List.mem_append.mp (ih hx) with h | h
        · simp [h]
        · simp [h]

/-- The order has nothing else. -/
theorem mem_of_mem_rotation {last x : α} {l : List α} (hx : x ∈ rotation last l) : x ∈ l := by
  unfold rotation at hx
  induction l with
  | nil => simp [after, upTo] at hx
  | cons y l ih =>
    rw [after_cons, upTo] at hx
    split_ifs at hx with hy
    · simpa [or_comm] using hx
    · rw [List.mem_cons]
      rcases List.mem_append.mp hx with h | h
      · exact Or.inr (ih (List.mem_append_left _ h))
      · exact (List.mem_cons.mp h).imp_right fun h => ih (List.mem_append_right _ h)

theorem after_append_cons {last : α} {pre : List α} (hpre : last ∉ pre) (post : List α) :
    after last (pre ++ last :: post) = post := by
  induction pre with
  | nil => simp [after]
  | cons x pre ih =>
    rw [List.mem_cons, not_or] at hpre
    rw [List.cons_append, after_cons, if_neg (Ne.symm hpre.1), ih hpre.2]

theorem upTo_append_cons {last : α} {pre : List α} (hpre : last ∉ pre) (post : List α) :
    upTo last (pre ++ last :: post) = pre ++ [last] := by
  induction pre with
  | nil => simp [upTo]
  | cons x pre ih =>
    rw [List.mem_cons, not_or] at hpre
    rw [List.cons_append, upTo, if_neg (Ne.symm hpre.1), ih hpre.2, List.cons_append]

theorem rotation_append_cons {last : α} {pre : List α} (hpre : last ∉ pre) (post : List α) :
    rotation last (pre ++ last :: post) = post ++ (pre ++ [last]) := by
  rw [rotation, after_append_cons hpre, upTo_append_cons hpre]

omit [DecidableEq α] in
/-- A list without repetitions around one of its entries. -/
theorem nodup_split {l : List α} (hnodup : l.Nodup) {x : α} (hx : x ∈ l) :
    ∃ pre post, l = pre ++ x :: post ∧ x ∉ pre ∧ x ∉ post := by
  obtain ⟨pre, post, rfl⟩ := List.append_of_mem hx
  obtain ⟨-, hpost, hdisj⟩ := List.nodup_append.mp hnodup
  refine ⟨pre, post, rfl, ?_, (List.nodup_cons.mp hpost).1⟩
  intro hpre
  exact hdisj x hpre x (by simp) rfl

theorem rotation_perm {last : α} {l : List α} (hnodup : l.Nodup) (hlast : last ∈ l) :
    (rotation last l).Perm l := by
  obtain ⟨pre, post, rfl, hpre, -⟩ := nodup_split hnodup hlast
  rw [rotation_append_cons hpre]
  calc (post ++ (pre ++ [last])).Perm ((pre ++ [last]) ++ post) := List.perm_append_comm
    _ = pre ++ last :: post := by simp

/-- Where the rotation starts does not matter for rotating again. -/
theorem rotation_rotation {last x : α} {l : List α} (hnodup : l.Nodup) (hlast : last ∈ l)
    (hx : x ∈ l) : rotation x (rotation last l) = rotation x l := by
  obtain ⟨pre, post, rfl, hpre, hpost⟩ := nodup_split hnodup hlast
  rw [rotation_append_cons hpre]
  obtain ⟨hndpre, hndpost, hdisj⟩ := List.nodup_append.mp hnodup
  rcases List.mem_append.mp hx with hmem | hmem
  · -- `x` is in front of `last`
    obtain ⟨a, b, rfl, ha, hb⟩ := nodup_split hndpre hmem
    have hxpost : x ∉ post := by
      intro hpost'
      exact hdisj x hmem x (by simp [hpost']) rfl
    have hleft : post ++ (a ++ x :: b ++ [last]) = (post ++ a) ++ x :: (b ++ [last]) := by simp
    have hright : a ++ x :: b ++ last :: post = a ++ x :: (b ++ last :: post) := by simp
    rw [hleft, hright, rotation_append_cons (by simp [hxpost, ha]), rotation_append_cons ha]
    simp
  · rcases List.mem_cons.mp hmem with rfl | hmem
    · rw [← List.append_assoc, rotation_append_cons (by simp [hpre, hpost]),
        rotation_append_cons hpre]
      simp
    · -- `x` is behind `last`
      obtain ⟨a, b, rfl, ha, hb⟩ := nodup_split (List.nodup_cons.mp hndpost).2 hmem
      have hxpre : x ∉ pre := by
        intro hpre'
        exact hdisj x hpre' x (by simp) rfl
      have hne : x ≠ last := by
        intro hne
        exact hpost (hne ▸ hmem)
      have hleft : a ++ x :: b ++ (pre ++ [last]) = a ++ x :: (b ++ (pre ++ [last])) := by simp
      have hright : pre ++ last :: (a ++ x :: b) = (pre ++ last :: a) ++ x :: b := by simp
      rw [hleft, hright, rotation_append_cons ha, rotation_append_cons (by simp [hxpre, hne, ha])]
      simp

/-! ## Turns -/

/-- One turn: the first busy entry in the order is served and becomes the last one, or none is
served. -/
inductive Turn (l : List α) (busy : α → Prop) (last : α) : α → Option α → Prop
  | serve {x : α} {pre post : List α} (horder : rotation last l = pre ++ x :: post)
      (hidle : ∀ y ∈ pre, ¬ busy y) : Turn l busy last x (some x)
  | idle : Turn l busy last last none

theorem Turn.mem {l : List α} {busy : α → Prop} {last last' : α} {served : Option α}
    (h : Turn l busy last last' served) (hlast : last ∈ l) : last' ∈ l := by
  cases h with
  | idle => exact hlast
  | @serve _ pre post horder =>
    have hmem : last' ∈ rotation last l := by
      rw [horder]
      simp
    exact mem_of_mem_rotation hmem

/-- Right after `v` was served, every other entry is looked at before it. -/
theorem ahead_rotation_self {l : List α} (hnodup : l.Nodup) {v w : α} (hv : v ∈ l) (hw : w ∈ l)
    (hne : w ≠ v) : [w, v].Sublist (rotation v l) := by
  obtain ⟨pre, post, rfl, hpre, -⟩ := nodup_split hnodup hv
  rw [rotation_append_cons hpre, ← List.append_assoc]
  have hmem : w ∈ post ++ pre := by
    simp only [List.mem_append, List.mem_cons, hne, false_or] at hw
    exact List.mem_append.mpr hw.symm
  exact (List.singleton_sublist.mpr hmem).append (List.Sublist.refl [v])

omit [DecidableEq α] in
/-- What is ahead of an entry stands in front of it. -/
theorem mem_of_ahead {pre post : List α} {v w : α} (hnodup : (pre ++ v :: post).Nodup)
    (hne : w ≠ v) (hahead : [w, v].Sublist (pre ++ v :: post)) : w ∈ pre := by
  obtain ⟨l₁, l₂, heq, h₁, h₂⟩ := List.sublist_append_iff.mp hahead
  cases l₁ with
  | nil =>
    rw [List.nil_append] at heq
    subst heq
    have hv : v ∈ post := (h₂.of_cons_of_ne hne).subset (by simp)
    exact absurd hv (List.nodup_cons.mp (List.nodup_append.mp hnodup).2.1).1
  | cons y l₁ =>
    obtain ⟨rfl, -⟩ := List.cons_eq_cons.mp heq
    exact h₁.subset List.mem_cons_self

theorem notMem_after_self {l : List α} (hnodup : l.Nodup) {v : α} (hv : v ∈ l) :
    v ∉ after v l := by
  obtain ⟨pre, post, rfl, hpre, hpost⟩ := nodup_split hnodup hv
  rwa [after_append_cons hpre]

/-- As long as `w` is busy and not served, `v` behind it is not served and stays behind it. -/
theorem Turn.ahead {l : List α} {busy : α → Prop} {last last' : α} {served : Option α}
    (h : Turn l busy last last' served) (hnodup : l.Nodup) (hlast : last ∈ l) {v w : α}
    (hw : busy w) (hahead : [w, v].Sublist (rotation last l)) (hserved : served ≠ some w) :
    served ≠ some v ∧ [w, v].Sublist (rotation last' l) := by
  cases h with
  | idle => exact ⟨by simp, hahead⟩
  | @serve _ pre post horder hidle =>
    have hperm := rotation_perm hnodup hlast
    have hnd : (pre ++ last' :: post).Nodup := horder ▸ hperm.nodup_iff.mpr hnodup
    have hlast' : last' ∈ l := hperm.mem_iff.mp (by rw [horder]; simp)
    obtain ⟨-, hndpost, hdisj⟩ := List.nodup_append.mp hnd
    -- `w` and then `v` come behind the entry that is served
    have hpost : [w, v].Sublist post := by
      obtain ⟨l₁, l₂, heq, h₁, h₂⟩ := List.sublist_append_iff.mp (horder ▸ hahead)
      cases l₁ with
      | nil =>
        rw [List.nil_append] at heq
        subst heq
        exact h₂.of_cons_of_ne fun heq => hserved (by rw [heq])
      | cons y l₁ =>
        obtain ⟨rfl, -⟩ := List.cons_eq_cons.mp heq
        exact absurd hw (hidle w (h₁.subset List.mem_cons_self))
    constructor
    · intro heq
      have hv : v ∈ post := hpost.subset (by simp)
      rw [← Option.some.inj heq] at hv
      exact (List.nodup_cons.mp hndpost).1 hv
    · have hpre : last' ∉ pre := by
        intro hmem
        exact hdisj last' hmem last' List.mem_cons_self rfl
      rw [← rotation_rotation hnodup hlast hlast', horder, rotation_append_cons hpre]
      exact hpost.trans (List.sublist_append_left _ _)

end TiWlan.Lib
