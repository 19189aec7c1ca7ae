import TiWlan.Wlconf.Elements

/-!
# Paths through a table

`get_element_pos` (`ti-utils/wlconf/main.c`, lines 582–623) follows a dotted path from structure to
structure. `pathElements` is the list of the elements that it passes, the first of each name;
`offset` is the sum of their positions, which `get_element_pos` computes in an `int`.

The elements of a structure lie one after the other (`Packed`). If that is so in a structure with
all that it contains (`Sound`), and no array of structures on the way is empty, then an element lies
within its structure (`le_size_of_path`), and elements whose paths part lie side by side
(`disjoint_of_path`).
-/

namespace TiWlan.Wlconf

open TiWlan.Lib

variable {T : Table} {s : Structure} {e e' : Element} {names names' : List CStr}
  {es es' : List Element}

/-! ## Elements one after the other -/

/-- The elements fill the offsets from `off` to `stop`. -/
def Packed (T : Table) : ℕ → List Element → ℕ → Prop
  | off, [], stop => off = stop
  | off, e :: es, stop => e.position = off ∧ Packed T (off + elementSize T e) es stop

namespace Packed

variable {off stop : ℕ}

theorem le (h : Packed T off es stop) : off ≤ stop := by
  induction es generalizing off with
  | nil => exact le_of_eq h
  | cons e es ih =>
    have hrest := ih h.2
    omega

theorem bounds (h : Packed T off es stop) (he : e ∈ es) :
    off ≤ e.position ∧ e.position + elementSize T e ≤ stop := by
  induction es generalizing off with
  | nil => simp at he
  | cons e' es ih =>
    obtain ⟨hpos, hrest⟩ := h
    rcases List.mem_cons.mp he with rfl | he
    · have hle := hrest.le
      omega
    · have hle := ih hrest he
      omega

/-- Elements with different names do not overlap. -/
theorem disjoint (h : Packed T off es stop) (he : e ∈ es) (he' : e' ∈ es)
    (hne : e.name ≠ e'.name) :
    e.position + elementSize T e ≤ e'.position ∨ e'.position + elementSize T e' ≤ e.position := by
  induction es generalizing off with
  | nil => simp at he
  | cons e₀ es ih =>
    obtain ⟨hpos, hrest⟩ := h
    rcases List.mem_cons.mp he with rfl | htail
    · rcases List.mem_cons.mp he' with rfl | htail'
      · exact absurd rfl hne
      · have hb := hrest.bounds htail'
        omega
    · rcases List.mem_cons.mp he' with rfl | htail'
      · have hb := hrest.bounds htail
        omega
      · exact ih hrest htail htail'

/-- Every offset belongs to an element. -/
theorem exists_mem (h : Packed T off es stop) {k : ℕ} (hlo : off ≤ k) (hhi : k < stop) :
    ∃ e ∈ es, e.position ≤ k ∧ k < e.position + elementSize T e := by
  induction es generalizing off with
  | nil =>
    have hstop : off = stop := h
    omega
  | cons e es ih =>
    obtain ⟨hpos, hrest⟩ := h
    by_cases hk : k < off + elementSize T e
    · exact ⟨e, List.mem_cons_self .., by omega, by omega⟩
    · obtain ⟨e', he', hle, hlt⟩ := ih hrest (by omega)
      exact ⟨e', List.mem_cons_of_mem _ he', hle, hlt⟩

end Packed

/-! ## Structures with all that they contain -/

/-- The structure and those in it have their elements one after the other, and are in the table. -/
inductive Sound (T : Table) : Structure → Prop
  | intro {s : Structure} (packed : Packed T 0 s.elements s.size)
      (index : ∀ e ∈ s.elements, ¬e.type < structBase → (e.type - structBase).toNat < T.length)
      (sub : ∀ e ∈ s.elements, ¬e.type < structBase →
        ∀ s', T[(e.type - structBase).toNat]? = some s' → Sound T s') : Sound T s

namespace Sound

theorem packed (h : Sound T s) : Packed T 0 s.elements s.size := by
  obtain ⟨packed, -, -⟩ := h
  exact packed

theorem exists_sub (h : Sound T s) (he : e ∈ s.elements) (htype : ¬e.type < structBase) :
    ∃ s', T[(e.type - structBase).toNat]? = some s' ∧ Sound T s' := by
  obtain ⟨-, index, sub⟩ := h
  have hget := List.getElem?_eq_getElem (index e he htype)
  exact ⟨_, hget, sub e he htype _ hget⟩

end Sound

/-- The elements that a path names, the first of each name. -/
def pathElements (T : Table) : Structure → List CStr → Option (List Element)
  | _, [] => some []
  | s, name :: names =>
    match s.elements.find? fun e => e.name == name with
    | none => none
    | some e =>
      if names = [] then some [e]
      else if e.type < structBase then none
      else
        match T[(e.type - structBase).toNat]? with
        | none => none
        | some s' => (pathElements T s' names).map (e :: ·)

/-- The position of the last of some elements, each in the one before. -/
def offset (es : List Element) : ℕ := (es.map Element.position).sum

@[simp] theorem offset_nil : offset [] = 0 := rfl

@[simp] theorem offset_cons : offset (e :: es) = e.position + offset es := List.sum_cons

/-- The arrays of structures among the elements have a first copy. -/
def Copies (es : List Element) : Prop := ∀ e ∈ es, ¬e.type < structBase → 1 ≤ e.arraySize

/-- A path ends with its first element or goes on in the structure that this element is. -/
theorem pathElements_cons {name : CStr} (h : pathElements T s (name :: names) = some es) :
    ∃ e es', es = e :: es' ∧ s.elements.find? (fun e => e.name == name) = some e ∧
      (names = [] ∧ es' = [] ∨ names ≠ [] ∧ ¬e.type < structBase ∧
        ∃ s', T[(e.type - structBase).toNat]? = some s' ∧ pathElements T s' names = some es') := by
  rw [pathElements] at h
  split at h
  · cases h
  · rename_i e hfind
    split_ifs at h with hlast htype
    · exact ⟨e, [], (Option.some.inj h).symm, hfind, .inl ⟨hlast, rfl⟩⟩
    · split at h
      · cases h
      · rename_i s' hs'
        obtain ⟨es', hrest, rfl⟩ := Option.map_eq_some_iff.mp h
        exact ⟨e, es', rfl, hfind, .inr ⟨hlast, htype, s', hs', hrest⟩⟩

theorem ne_nil_of_path (h : pathElements T s names = some es) (hne : names ≠ []) : es ≠ [] := by
  cases names with
  | nil => exact absurd rfl hne
  | cons name names =>
    obtain ⟨e, es', rfl, -⟩ := pathElements_cons h
    exact List.cons_ne_nil _ _

/-- The loop of `get_element_pos` adds the positions along the path, or finds none. -/
theorem walkPath_spec (hs : Sound T s) (hne : names ≠ []) (curr : Option Element) (pos : ℤ) :
    (pathElements T s names = none ∧ ∃ curr', walkPath T s curr pos names = .ok (-1, curr')) ∨
      ∃ es, pathElements T s names = some es ∧
        walkPath T s curr pos names = .ok (s32 (pos + offset es), es.getLast?) := by
  induction names generalizing s curr pos with
  | nil => exact absurd rfl hne
  | cons name names ih =>
    rw [pathElements, walkPath]
    cases hfind : s.elements.find? fun e => e.name == name with
    | none => exact .inl ⟨rfl, curr, rfl⟩
    | some e =>
      by_cases hlast : names = []
      · exact .inr ⟨[e], by simp [hlast], by simp [hlast]⟩
      · by_cases htype : e.type < structBase
        · exact .inl ⟨by simp [hlast, htype], some e, by simp [hlast, htype]⟩
        · obtain ⟨s', hs', hsub⟩ := hs.exists_sub (List.mem_of_find?_eq_some hfind) htype
          simp only [if_neg hlast, if_neg htype, hs']
          rcases ih hsub hlast (some e) (s32 (pos + e.position)) with ⟨hnone, hwalk⟩ | ⟨es, hes, hwalk⟩
          · exact .inl ⟨by rw [hnone]; rfl, hwalk⟩
          · refine .inr ⟨e :: es, by rw [hes]; rfl, ?_⟩
            rw [hwalk, s32_s32_add, offset_cons, Nat.cast_add, Int.add_assoc,
              List.getLast?_cons_of_ne_nil (ne_nil_of_path hes hlast)]

/-- What `get_element_pos` finds with what its callers do next. -/
theorem findElement_eq (hs : Sound T s) (path : CStr) :
    findElement T s path =
      match pathElements T s (pathTokens path) with
      | none => .error .error
      | some es =>
        if s32 (offset es) < 0 then .error .error
        else
          match es.getLast? with
          | none => .error .undefined
          | some e => .ok ((s32 (offset es)).toNat, e) := by
  unfold findElement getElementPos
  by_cases hne : pathTokens path = []
  · rw [hne]
    rfl
  · rcases walkPath_spec hs hne none 0 with ⟨hnone, curr, hwalk⟩ | ⟨es, hes, hwalk⟩
    · rw [hnone, hwalk]
      rfl
    · simp only [hes, hwalk, Int.zero_add] <;> rfl

/-! ## Where elements lie -/

/-- An array of structures has room for the first copy. -/
theorem sub_size_le {s' : Structure} (htype : ¬e.type < structBase)
    (hs' : T[(e.type - structBase).toNat]? = some s') (ha : 1 ≤ e.arraySize) :
    s'.size ≤ elementSize T e := by
  rw [elementSize, if_neg htype, hs', Option.map_some, Option.getD_some]
  exact Nat.le_mul_of_pos_left _ (by omega)

/-- An element lies within its structure. -/
theorem le_size_of_path (hs : Sound T s) (h : pathElements T s names = some es)
    (he : es.getLast? = some e) (hcopies : Copies es) : offset es + elementSize T e ≤ s.size := by
  induction names generalizing s es with
  | nil =>
    cases h
    cases he
  | cons name names ih =>
    obtain ⟨e₁, es', rfl, hfind, ⟨-, rfl⟩ | ⟨hne, htype, s', hs', hrest⟩⟩ := pathElements_cons h
    · cases he
      exact (hs.packed.bounds (List.mem_of_find?_eq_some hfind)).2
    · have hmem := List.mem_of_find?_eq_some hfind
      obtain ⟨s'', hs'', hsub⟩ := hs.exists_sub hmem htype
      cases hs'.symm.trans hs''
      rw [List.getLast?_cons_of_ne_nil (ne_nil_of_path hrest hne)] at he
      have hin := ih hsub hrest he fun e he => hcopies e (List.mem_cons_of_mem _ he)
      have hroom := sub_size_le htype hs' (hcopies e₁ (List.mem_cons_self ..) htype)
      have hout := (hs.packed.bounds hmem).2
      rw [offset_cons]
      omega

/-- An element lies within the element that its path starts with. -/
theorem within_of_path {name : CStr} (hs : Sound T s)
    (h : pathElements T s (name :: names) = some es) (he : es.getLast? = some e)
    (hcopies : Copies es) :
    ∃ e₁ ∈ s.elements, e₁.name = name ∧ e₁.position ≤ offset es ∧
      offset es + elementSize T e ≤ e₁.position + elementSize T e₁ := by
  obtain ⟨e₁, es', rfl, hfind, hrest⟩ := pathElements_cons h
  have hmem := List.mem_of_find?_eq_some hfind
  refine ⟨e₁, hmem, by simpa using List.find?_some hfind, ?_⟩
  rw [offset_cons]
  rcases hrest with ⟨-, rfl⟩ | ⟨hne, htype, s', hs', hrest⟩
  · cases he
    exact ⟨Nat.le_add_right _ _, le_refl _⟩
  · obtain ⟨s'', hs'', hsub⟩ := hs.exists_sub hmem htype
    cases hs'.symm.trans hs''
    rw [List.getLast?_cons_of_ne_nil (ne_nil_of_path hrest hne)] at he
    have hin := le_size_of_path hsub hrest he fun e he => hcopies e (List.mem_cons_of_mem _ he)
    have hroom := sub_size_le htype hs' (hcopies e₁ (List.mem_cons_self ..) htype)
    omega

/-- Elements whose paths part do not overlap. -/
theorem disjoint_of_path (hs : Sound T s) (h : pathElements T s names = some es)
    (h' : pathElements T s names' = some es') (he : es.getLast? = some e)
    (he' : es'.getLast? = some e') (hcopies : Copies es) (hcopies' : Copies es')
    (hne : ¬names <+: names') (hne' : ¬names' <+: names) :
    offset es + elementSize T e ≤ offset es' ∨ offset es' + elementSize T e' ≤ offset es := by
  induction names generalizing s es names' es' with
  | nil => exact absurd List.nil_prefix hne
  | cons name names ih =>
    cases names' with
    | nil => exact absurd List.nil_prefix hne'
    | cons name' names' =>
      by_cases hname : name = name'
      · -- the same element, so the same structure
        subst hname
        rw [List.prefix_cons_inj] at hne hne'
        obtain ⟨e₁, es₁, rfl, hfind, ⟨rfl, -⟩ | ⟨hn, htype, s₁, hs₁, hrest⟩⟩ := pathElements_cons h
        · exact absurd List.nil_prefix hne
        obtain ⟨e₂, es₂, rfl, hfind', ⟨rfl, -⟩ | ⟨hn', -, s₂, hs₂, hrest'⟩⟩ := pathElements_cons h'
        · exact absurd List.nil_prefix hne'
        cases hfind.symm.trans hfind'
        cases hs₁.symm.trans hs₂
        obtain ⟨s', hs', hsub⟩ := hs.exists_sub (List.mem_of_find?_eq_some hfind) htype
        cases hs₁.symm.trans hs'
        rw [List.getLast?_cons_of_ne_nil (ne_nil_of_path hrest hn)] at he
        rw [List.getLast?_cons_of_ne_nil (ne_nil_of_path hrest' hn')] at he'
        have hdis := ih hsub hrest hrest' he he' (fun e he => hcopies e (List.mem_cons_of_mem _ he))
          (fun e he => hcopies' e (List.mem_cons_of_mem _ he)) hne hne'
        rw [offset_cons, offset_cons]
        omega
      · obtain ⟨e₁, he₁, rfl, hlo, hhi⟩ := within_of_path hs h he hcopies
        obtain ⟨e₂, he₂, rfl, hlo', hhi'⟩ := within_of_path hs h' he' hcopies'
        have hdis := hs.packed.disjoint he₁ he₂ hname
        omega

end TiWlan.Wlconf
