import TiWlan.Wlconf.Layout

/-!
# What a dump prints

`print_element` walks through a structure with a running offset, while `get_element_pos` adds up
stored positions. For a table that is laid out the dump is one line for each element of a base
type that a path leads to, with its path and its bytes (`printElements_eq`, `mem_structLeaves`).

The bytes that are not printed are those of the second and later structures in arrays of
structures (`Resolves.not_laterCopy`, `exists_leaf`).
-/

namespace TiWlan.Wlconf

open TiWlan.Lib

variable {e : Element} {names : List CStr} {k : ℕ} (buf : Buffer)

/-! ## Leaves -/

/-- An element of a base type with its path and offset. -/
structure Leaf where
  names : List CStr
  off : ℕ
  elem : Element

/-- A leaf of an element's structure as a leaf of the structure that the element is in. -/
def Leaf.under (e : Element) (l : Leaf) : Leaf := ⟨e.name :: l.names, e.position + l.off, l.elem⟩

/-- The leaves of an element, in the order in which they are printed. -/
def leaves (T : Table) : ℕ → Element → List Leaf
  | 0, _ => []
  | fuel + 1, e =>
    if e.type < structBase then [⟨[], 0, e⟩]
    else
      match T[(e.type - structBase).toNat]? with
      | none => []
      | some sub => sub.elements.flatMap fun e' => (leaves T fuel e').map (Leaf.under e')

/-- The leaves of a structure. -/
def structLeaves (T : Table) (fuel : ℕ) (s : Structure) : List Leaf :=
  s.elements.flatMap fun e => (leaves T fuel e).map (Leaf.under e)

/-- A dotted path. -/
def dotted (names : List CStr) : CStr := [chr '.'].intercalate names

/-- The parent that `print_element` is given: `NULL` for the elements of the root. -/
def parentName (names : List CStr) : Option CStr := if names = [] then none else some (dotted names)

/-- The line of a leaf of a structure that is itself at `names` and `pos`. -/
def leafText (buf : Buffer) (names : List CStr) (pos : ℕ) (l : Leaf) : CStr :=
  dotted (names ++ l.names) ++ str " = " ++ printData l.elem buf (pos + l.off)

theorem leafText_under (names : List CStr) (pos : ℕ) (e : Element) (l : Leaf) :
    leafText buf names pos (l.under e) = leafText buf (names ++ [e.name]) (pos + e.position) l := by
  simp [leafText, Leaf.under, Nat.add_assoc]

theorem dotted_append_singleton (hne : names ≠ []) (name : CStr) :
    dotted (names ++ [name]) = dotted names ++ str "." ++ name := by
  induction names with
  | nil => exact absurd rfl hne
  | cons n names ih =>
    cases names with
    | nil =>
      have hdot : str "." = [chr '.'] := by decide
      simp [dotted, List.intercalate_cons_cons, hdot]
    | cons n' names =>
      have hrest := ih (by simp)
      unfold dotted at hrest ⊢
      rw [List.cons_append, List.cons_append, List.intercalate_cons_cons, ← List.cons_append, hrest,
        List.intercalate_cons_cons]
      simp only [List.append_assoc]

section
variable {T : Table} {i fuel : ℕ} {s : Structure}

/-- An element that is not the root's is printed with its path. -/
theorem currName_eq (hroot : e.type ≠ getType T defaultRootStruct) (names : List CStr) :
    currName T e (parentName names) = parentName (names ++ [e.name]) := by
  unfold parentName
  rw [if_neg (show names ++ [e.name] ≠ [] by simp)]
  by_cases hne : names = []
  · subst hne
    rw [if_pos rfl, currName, if_pos hroot, List.nil_append, dotted, List.intercalate_singleton]
  · rw [if_neg hne, currName, dotted_append_singleton hne]

/-- The running offset of `print_element` is the position of each element. -/
theorem printElements_packed {print : Element → ℕ → Option CStr} {text : Element → CStr}
    {es : List Element} {off stop : ℕ} (hpacked : Packed T off es stop) (pos : ℕ)
    (h : ∀ e ∈ es, print e (pos + e.position) = some (text e)) :
    printElements T print es (pos + off) = some (es.flatMap text) := by
  induction es generalizing off with
  | nil => rfl
  | cons e es ih =>
    obtain ⟨hpos, hrest⟩ := hpacked
    have hfirst := h e (List.mem_cons_self ..)
    rw [hpos] at hfirst
    have htail := ih hrest fun e' he' => h e' (List.mem_cons_of_mem _ he')
    rw [printElements, hfirst, Nat.add_assoc, htail, List.flatMap_cons]

/-- The dump of a structure is the dump of its leaves. -/
theorem printElements_eq (hlaid : Laid T i) (hs : T[i]? = some s) (hfuel : i < fuel)
    (hroot : structBase + i ≤ getType T defaultRootStruct) (names : List CStr) (pos : ℕ) :
    printElements T (fun e => printElement T (some buf) fuel e (parentName names)) s.elements pos =
      some ((structLeaves T fuel s).flatMap (leafText buf names pos)) := by
  induction fuel generalizing i s names pos with
  | zero => omega
  | succ fuel ih =>
    have htext : ∀ e ∈ s.elements,
        printElement T (some buf) (fuel + 1) e (parentName names) (pos + e.position) =
          some ((leaves T (fuel + 1) e).flatMap
            (leafText buf (names ++ [e.name]) (pos + e.position))) := by
      intro e he
      rcases (hlaid.structure hs).type e he with hbase | ⟨j, hji, hj⟩
      · have hlt := base_lt hbase.2
        rw [printElement, leaves, currName_eq (by omega), if_pos hlt, if_pos hlt, parentName,
          if_neg (by simp)]
        simp [leafText]
      · have hsub := hlaid.sub hs he hj
        obtain ⟨s', hs'⟩ := hsub.exists_get
        have htype : ¬e.type < structBase := by omega
        have hrest := ih hsub hs' (by omega) (by omega) (names ++ [e.name]) (pos + e.position)
        rw [printElement, leaves, currName_eq (by omega), if_neg htype, if_neg htype,
          getElem?_toNat hj, hs']
        exact hrest
    have hprint : printElements T
        (fun e => printElement T (some buf) (fuel + 1) e (parentName names)) s.elements pos =
          some (s.elements.flatMap fun e => (leaves T (fuel + 1) e).flatMap
            (leafText buf (names ++ [e.name]) (pos + e.position))) :=
      printElements_packed (hlaid.structure hs).packed pos htext
    rw [hprint, structLeaves, List.flatMap_assoc]
    simp only [List.flatMap_map, leafText_under]

/-- The leaves are the elements of base types that a path leads to. -/
theorem mem_structLeaves (hlaid : Laid T i) (hs : T[i]? = some s) (hfuel : i < fuel) (l : Leaf) :
    l ∈ structLeaves T fuel s ↔ Resolves T s l.names l.off l.elem ∧ l.elem.type < structBase := by
  induction fuel generalizing i s l with
  | zero => omega
  | succ fuel ih =>
    simp only [structLeaves, List.mem_flatMap, List.mem_map]
    constructor
    · rintro ⟨e, he, l, hl, rfl⟩
      rcases (hlaid.structure hs).type e he with hbase | ⟨j, hji, hj⟩
      · have hlt := base_lt hbase.2
        rw [leaves, if_pos hlt, List.mem_singleton] at hl
        subst hl
        exact ⟨.last he, hlt⟩
      · have hsub := hlaid.sub hs he hj
        obtain ⟨s', hs'⟩ := hsub.exists_get
        have htype : ¬e.type < structBase := by omega
        rw [leaves, if_neg htype, getElem?_toNat hj, hs'] at hl
        obtain ⟨hres, hbase⟩ := (ih hsub hs' (by omega) l).mp hl
        exact ⟨.step he hj hs' hres, hbase⟩
    · obtain ⟨names, off, elem⟩ := l
      rintro ⟨hres, hbase⟩
      change Resolves T s names off elem at hres
      cases hres with
      | last he =>
        refine ⟨elem, he, ⟨[], 0, elem⟩, ?_, rfl⟩
        rw [leaves, if_pos hbase]
        exact List.mem_singleton.mpr rfl
      | @step _ s' e _ j off names he hj hs' rest =>
        have htype : ¬e.type < structBase := by omega
        rcases (hlaid.structure hs).type e he with hbase' | ⟨j', hji, hj'⟩
        · exact absurd (base_lt hbase'.2) htype
        · refine ⟨e, he, ⟨names, off, elem⟩, ?_, rfl⟩
          rw [leaves, if_neg htype, getElem?_toNat hj, hs']
          exact (ih (hlaid.sub hs he hj) hs' (by omega) ⟨names, off, elem⟩).mpr ⟨rest, hbase⟩

/-! ## Bytes that are not printed -/

/-- The offset `k` is in the second or a later structure of an array of structures. -/
inductive LaterCopy (T : Table) : Structure → ℕ → Prop
  | here {s s' : Structure} {e : Element} {j k : ℕ} (he : e ∈ s.elements)
      (hj : e.type = structBase + j) (hs' : T[j]? = some s') (hlo : e.position + s'.size ≤ k)
      (hhi : k < e.position + elementSize T e) : LaterCopy T s k
  | inside {s s' : Structure} {e : Element} {j k : ℕ} (he : e ∈ s.elements)
      (hj : e.type = structBase + j) (hs' : T[j]? = some s') (hk : k < s'.size)
      (rest : LaterCopy T s' k) : LaterCopy T s (e.position + k)

/-- An offset belongs to one element only. -/
theorem LaidStructure.unique (h : LaidStructure T i s) {e' : Element} (he : e ∈ s.elements)
    (he' : e' ∈ s.elements) (hlo : e.position ≤ k) (hhi : k < e.position + elementSize T e)
    (hlo' : e'.position ≤ k) (hhi' : k < e'.position + elementSize T e') : e = e' := by
  by_cases hname : e.name = e'.name
  · have hfind := find?_name h.distinct he
    rw [hname, find?_name h.distinct he'] at hfind
    exact (Option.some.inj hfind).symm
  · have hdis := h.packed.disjoint he he' hname
    omega

/-- A later copy lies in an element that is a structure, behind the first copy or in it. -/
theorem LaterCopy.cases_at (h : LaterCopy T s k) (hlaid : Laid T i) (hs : T[i]? = some s) :
    ∃ e ∈ s.elements, ∃ j : ℕ, ∃ s', e.type = structBase + j ∧ T[j]? = some s' ∧
      e.position ≤ k ∧ k < e.position + elementSize T e ∧
      (e.position + s'.size ≤ k ∨ LaterCopy T s' (k - e.position)) := by
  cases h with
  | here he hj hs' hlo hhi => exact ⟨_, he, _, _, hj, hs', by omega, hhi, Or.inl hlo⟩
  | inside he hj hs' hk rest =>
    have hroom := sub_size_le (by omega) ((getElem?_toNat hj).trans hs')
      ((hlaid.structure hs).arraySize _ he)
    refine ⟨_, he, _, _, hj, hs', by omega, by omega, Or.inr ?_⟩
    rwa [Nat.add_sub_cancel_left]

/-- No byte of a leaf is in a later copy. -/
theorem Resolves.not_laterCopy {off : ℕ} (h : Resolves T s names off e)
    (hbase : e.type < structBase) (hlaid : Laid T i) (hs : T[i]? = some s) (hlo : off ≤ k)
    (hhi : k < off + elementSize T e) : ¬LaterCopy T s k := by
  intro hlater
  induction h generalizing i k with
  | last he =>
    obtain ⟨e', he', j, s', hj, -, hlo', hhi', -⟩ := hlater.cases_at hlaid hs
    have heq := (hlaid.structure hs).unique he he' hlo hhi hlo' hhi'
    subst heq
    omega
  | @step s s₁ e₁ e j off names he hj hs₁ rest ih =>
    have hin := rest.le_size (hlaid.sub hs he hj) hs₁
    have hroom := sub_size_le (by omega) ((getElem?_toNat hj).trans hs₁)
      ((hlaid.structure hs).arraySize _ he)
    obtain ⟨e', he', j', s', hj', hs', hlo', hhi', hcase⟩ := hlater.cases_at hlaid hs
    have heq := (hlaid.structure hs).unique he he' (by omega) (by omega) hlo' hhi'
    subst heq
    have hjj : j = j' := by omega
    subst hjj
    rw [hs₁] at hs'
    cases hs'
    rcases hcase with hbehind | hcopy
    · omega
    · exact ih hbase (hlaid.sub hs he hj) hs₁ (by omega) (by omega) hcopy

/-- A byte that is in no later copy belongs to a leaf. -/
theorem exists_leaf (hlaid : Laid T i) (hs : T[i]? = some s) (hk : k < s.size)
    (hnot : ¬LaterCopy T s k) : ∃ names off e, Resolves T s names off e ∧ e.type < structBase ∧
      off ≤ k ∧ k < off + elementSize T e := by
  induction hlaid generalizing s k with
  | @intro i s₀ index laid sub ih =>
    rw [hs] at index
    cases index
    obtain ⟨e, he, hlo, hhi⟩ := laid.packed.exists_mem (Nat.zero_le k) hk
    rcases laid.type e he with hbase | ⟨j, -, hj⟩
    · exact ⟨_, _, e, .last he, base_lt hbase.2, hlo, hhi⟩
    · obtain ⟨s', hs'⟩ := (sub e he j hj).exists_get
      have hfirst : k < e.position + s'.size := by
        by_contra hle
        exact hnot (.here he hj hs' (by omega) hhi)
      have hnot' : ¬LaterCopy T s' (k - e.position) := by
        intro hcopy
        have hinside := LaterCopy.inside he hj hs' (by omega) hcopy
        rw [show e.position + (k - e.position) = k by omega] at hinside
        exact hnot hinside
      obtain ⟨names, off, e', hres, hbase, hlo', hhi'⟩ :=
        ih e he j hj hs' (by omega) hnot'
      exact ⟨_, _, e', .step he hj hs' hres, hbase, by omega, by omega⟩

end

end TiWlan.Wlconf
