import TiWlan.Wlconf.Paths
import TiWlan.Wlconf.TextFiles

/-!
# Tables as `parse_elements` lays them out

`parse_elements` (`ti-utils/wlconf/main.c`, lines 201–272) places the elements of a structure one
after the other, without gaps; an element is of a base type or of a structure that was complete
before, and its name is an identifier. `Laid` says so for a structure with all that it contains.

`Resolves T s names off e` is the meaning of a dotted path: it leads from the structure `s` to the
element `e` at the offset `off`, through the first copy of each array of structures.

* `Resolves.le_size`: an element lies within its structure;
* `Resolves.disjoint`: so do elements whose paths part, side by side;
* `findElement_eq_ok`: `get_element_pos` finds what a path means, and nothing else.
-/

namespace TiWlan.Wlconf

open TiWlan.Lib

variable {e : Element} {names : List CStr} {curr : Option Element} {j : ℕ}

/-! ## Structures -/

instance Packed.decidable (T : Table) :
    (off : ℕ) → (es : List Element) → (stop : ℕ) → Decidable (Packed T off es stop)
  | off, [], stop => inferInstanceAs (Decidable (off = stop))
  | off, e :: es, stop =>
    @instDecidableAnd _ _ _ (Packed.decidable T (off + elementSize T e) es stop)

/-- `[a-zA-Z_][a-zA-Z0-9_]*` -/
structure IsName (name : CStr) : Prop where
  start : ∃ c rest, name = c :: rest ∧ isIdentStart c = true
  chars : ∀ c ∈ name, isIdent c = true

instance (name : CStr) : Decidable (IsName name) :=
  decidable_of_iff (name.head?.any isIdentStart = true ∧ name.all isIdent = true) (by
    rw [List.all_eq_true]
    constructor
    · rintro ⟨hstart, hchars⟩
      cases name with
      | nil => exact absurd hstart (by decide)
      | cons c rest => exact ⟨⟨c, rest, rfl, hstart⟩, hchars⟩
    · rintro ⟨⟨c, rest, rfl, hstart⟩, hchars⟩
      exact ⟨hstart, hchars⟩)

/-- The structure with index `i` is laid out. -/
@[mk_iff]
structure LaidStructure (T : Table) (i : ℕ) (s : Structure) : Prop where
  packed : Packed T 0 s.elements s.size
  distinct : s.elements.Pairwise fun e e' => e.name ≠ e'.name
  name : ∀ e ∈ s.elements, IsName e.name
  arraySize : ∀ e ∈ s.elements, 1 ≤ e.arraySize
  type : ∀ e ∈ s.elements, (0 ≤ e.type ∧ e.type < types.length) ∨
    ∃ j < i, e.type = structBase + (j : ℕ)

instance (T : Table) (i : ℕ) (s : Structure) : Decidable (LaidStructure T i s) :=
  decidable_of_iff' _ (laidStructure_iff T i s)

/-- The structure with index `i` and all those in it are laid out. -/
inductive Laid (T : Table) : ℕ → Prop
  | intro {i : ℕ} {s : Structure} (index : T[i]? = some s) (laid : LaidStructure T i s)
      (sub : ∀ e ∈ s.elements, ∀ j : ℕ, e.type = structBase + j → Laid T j) : Laid T i

section
variable {T : Table} {i : ℕ} {s : Structure}

theorem Laid.structure (h : Laid T i) (hs : T[i]? = some s) : LaidStructure T i s := by
  obtain ⟨hs', laid, -⟩ := h
  rw [hs] at hs'
  cases hs'
  exact laid

theorem Laid.sub (h : Laid T i) (hs : T[i]? = some s) (he : e ∈ s.elements)
    (hj : e.type = structBase + j) : Laid T j := by
  obtain ⟨hs', -, sub⟩ := h
  rw [hs] at hs'
  cases hs'
  exact sub e he j hj

theorem Laid.exists_get (h : Laid T i) : ∃ s, T[i]? = some s := by
  obtain ⟨hs, -, -⟩ := h
  exact ⟨_, hs⟩

theorem base_lt {type : ℤ} (h : type < types.length) : type < structBase := by
  have hlen : (types.length : ℤ) < structBase := by decide
  omega

/-- In a table all of whose structures are laid out, each is with all that it contains. -/
theorem laid_of_table (h : ∀ i (hi : i < T.length), LaidStructure T i T[i]) (i : ℕ)
    (hi : i < T.length) : Laid T i := by
  induction i using Nat.strong_induction_on with
  | _ i ih =>
    refine .intro (List.getElem?_eq_getElem hi) (h i hi) fun e he j hj => ?_
    rcases (h i hi).type e he with hbase | ⟨j', hji, hj'⟩
    · have hlt := base_lt hbase.2
      omega
    · exact ih j (by omega) (by omega)

theorem getElem?_toNat (hj : e.type = structBase + j) :
    T[(e.type - structBase).toNat]? = T[j]? := by
  rw [hj, show (structBase + (j : ℤ) - structBase).toNat = j by omega]

/-- The name of an element leads to it. -/
theorem find?_name {es : List Element} (h : es.Pairwise fun e e' => e.name ≠ e'.name)
    (he : e ∈ es) :
    es.find? (fun e' => e'.name == e.name) = some e := by
  induction es with
  | nil => simp at he
  | cons e₀ es ih =>
    rw [List.pairwise_cons] at h
    rcases List.mem_cons.mp he with rfl | he
    · simp
    · rw [List.find?_cons_of_neg (by simpa using h.1 e he), ih h.2 he]

theorem LaidStructure.type_lt (h : LaidStructure T i s) (he : e ∈ s.elements)
    (htype : e.type < structBase) : 0 ≤ e.type ∧ e.type < types.length := by
  rcases h.type e he with hbase | ⟨j, -, hj⟩
  · exact hbase
  · omega

theorem Laid.sound (h : Laid T i) (hs : T[i]? = some s) : Sound T s := by
  induction h generalizing s with
  | @intro i s' hs' laid sub ih =>
    obtain rfl := Option.some.inj (hs.symm.trans hs')
    have hindex : ∀ e ∈ s.elements, ¬e.type < structBase →
        ∃ j : ℕ, e.type = structBase + j ∧ (e.type - structBase).toNat = j := by
      intro e he htype
      rcases laid.type e he with hbase | ⟨j, -, hj⟩
      · exact absurd (base_lt hbase.2) htype
      · exact ⟨j, hj, by omega⟩
    refine .intro laid.packed (fun e he htype => ?_) fun e he htype s'' hs'' => ?_
    · obtain ⟨j, hj, hidx⟩ := hindex e he htype
      obtain ⟨s'', hs''⟩ := (sub e he j hj).exists_get
      exact hidx ▸ (List.getElem?_eq_some_iff.mp hs'').1
    · obtain ⟨j, hj, hidx⟩ := hindex e he htype
      exact ih e he j hj (hidx ▸ hs'')

end

/-! ## Paths -/

/-- The path `names` leads from the structure `s` to the element `e` at the offset `off`. -/
inductive Resolves (T : Table) : Structure → List CStr → ℕ → Element → Prop
  | last {s : Structure} {e : Element} (he : e ∈ s.elements) : Resolves T s [e.name] e.position e
  | step {s s' : Structure} {e e' : Element} {j off : ℕ} {names : List CStr} (he : e ∈ s.elements)
      (hj : e.type = structBase + j) (hs' : T[j]? = some s') (rest : Resolves T s' names off e') :
      Resolves T s (e.name :: names) (e.position + off) e'

namespace Resolves

variable {T : Table} {i off off' : ℕ} {s : Structure} {names names' : List CStr} {e e' : Element}

/-- A path leads along the first elements of its names, since there are no others. -/
theorem path (h : Resolves T s names off e) (hlaid : Laid T i) (hs : T[i]? = some s) :
    ∃ es, pathElements T s names = some es ∧ es.getLast? = some e ∧ offset es = off ∧
      (∀ e ∈ es, 1 ≤ e.arraySize) := by
  induction h generalizing i with
  | @last s e he =>
    refine ⟨[e], ?_, rfl, by simp, ?_⟩
    · simp [pathElements, find?_name (hlaid.structure hs).distinct he]
    · simpa using (hlaid.structure hs).arraySize e he
  | @step s s' e e' j off names he hj hs' rest ih =>
    obtain ⟨es, hes, hlast, hoff, hcopies⟩ := ih (hlaid.sub hs he hj) hs'
    have hnames : names ≠ [] := by cases rest <;> simp
    have htype : ¬e.type < structBase := by omega
    refine ⟨e :: es, ?_, ?_, by rw [offset_cons, hoff], ?_⟩
    · rw [pathElements, find?_name (hlaid.structure hs).distinct he]
      simp only [if_neg hnames, if_neg htype, getElem?_toNat hj, hs', hes, Option.map_some]
    · rwa [List.getLast?_cons_of_ne_nil (ne_nil_of_path hes hnames)]
    · exact List.forall_mem_cons.mpr ⟨(hlaid.structure hs).arraySize e he, hcopies⟩

theorem of_path {es : List Element} (h : pathElements T s names = some es)
    (he : es.getLast? = some e) : Resolves T s names (offset es) e := by
  induction names generalizing s es with
  | nil =>
    cases h
    cases he
  | cons name names ih =>
    obtain ⟨e₁, es', rfl, hfind, hrest⟩ := pathElements_cons h
    have hmem := List.mem_of_find?_eq_some hfind
    have hname : e₁.name = name := by simpa using List.find?_some hfind
    rcases hrest with ⟨rfl, rfl⟩ | ⟨hne, htype, s', hs', hrest⟩
    · cases he
      exact hname ▸ .last hmem
    · rw [List.getLast?_cons_of_ne_nil (ne_nil_of_path hrest hne)] at he
      have hj : e₁.type = structBase + ((e₁.type - structBase).toNat : ℕ) := by omega
      exact offset_cons ▸ hname ▸ .step hmem hj hs' (ih hrest he)

/-- An element lies within its structure. -/
theorem le_size (h : Resolves T s names off e) (hlaid : Laid T i) (hs : T[i]? = some s) :
    off + elementSize T e ≤ s.size := by
  obtain ⟨es, hes, hlast, rfl, hcopies⟩ := h.path hlaid hs
  exact le_size_of_path (hlaid.sound hs) hes hlast fun e he _ => hcopies e he

/-- The element is one of a structure that is laid out. -/
theorem elem_spec (h : Resolves T s names off e) (hlaid : Laid T i) (hs : T[i]? = some s) :
    1 ≤ e.arraySize ∧ (e.type < structBase → 0 ≤ e.type ∧ e.type < types.length) := by
  induction h generalizing i with
  | last he => exact ⟨(hlaid.structure hs).arraySize _ he, (hlaid.structure hs).type_lt he⟩
  | step he hj hs' _ ih => exact ih (hlaid.sub hs he hj) hs'

/-- Elements whose paths part do not overlap. -/
theorem disjoint (h : Resolves T s names off e) (h' : Resolves T s names' off' e')
    (hlaid : Laid T i) (hs : T[i]? = some s) (hne : ¬names <+: names') (hne' : ¬names' <+: names) :
    off + elementSize T e ≤ off' ∨ off' + elementSize T e' ≤ off := by
  obtain ⟨es, hes, hlast, rfl, hcopies⟩ := h.path hlaid hs
  obtain ⟨es', hes', hlast', rfl, hcopies'⟩ := h'.path hlaid hs
  exact disjoint_of_path (hlaid.sound hs) hes hes' hlast hlast' (fun e he _ => hcopies e he)
    (fun e he _ => hcopies' e he) hne hne'

/-- Elements whose paths start differently do not overlap. -/
theorem disjoint_of_head (h : Resolves T s names off e) (h' : Resolves T s names' off' e')
    (hlaid : Laid T i) (hs : T[i]? = some s) (hne : names.head? ≠ names'.head?) :
    off + elementSize T e ≤ off' ∨ off' + elementSize T e' ≤ off := by
  have hn : names ≠ [] := by cases h <;> simp
  have hn' : names' ≠ [] := by cases h' <;> simp
  refine h.disjoint h' hlaid hs ?_ ?_
  · rintro ⟨t, rfl⟩
    exact hne (List.head?_append_of_ne_nil _ hn).symm
  · rintro ⟨t, rfl⟩
    exact hne (List.head?_append_of_ne_nil _ hn')

end Resolves

/-! ## Finding elements -/

/-- `get_element_pos` finds what a path means, and nothing else. -/
theorem findElement_eq_ok {T : Table} {i : ℕ} {s : Structure} (hlaid : Laid T i)
    (hs : T[i]? = some s) (hsize : s.size < 2 ^ 31) (path : CStr) (pos : ℕ) (e : Element) :
    findElement T s path = .ok (pos, e) ↔ Resolves T s (pathTokens path) pos e := by
  have hsmall : ∀ {names off e}, Resolves T s names off e → s32 off = off := by
    intro names off e h
    have hle := h.le_size hlaid hs
    exact s32_of_lt (by omega) (by omega)
  rw [findElement_eq (hlaid.sound hs)]
  constructor
  · intro h
    cases hes : pathElements T s (pathTokens path) with
    | none =>
      rw [hes] at h
      cases h
    | some es =>
      rw [hes] at h
      simp only at h
      split_ifs at h with hneg
      split at h
      · cases h
      · rename_i e' hlast
        have hres := Resolves.of_path hes hlast
        rw [hsmall hres, Int.toNat_natCast] at h
        cases h
        exact hres
  · intro h
    obtain ⟨es, hes, hlast, rfl, -⟩ := h.path hlaid hs
    rw [hes]
    simp only [hsmall h, hlast, Int.toNat_natCast]
    exact if_neg (by omega)

/-! ## The root structure -/

/-- The root structure is laid out, with all that it contains, and smaller than 2 GiB. -/
structure RootLaid (T : Table) (s : Structure) : Prop where
  root : getStruct T defaultRootStruct = some s
  laid : ∀ i, T.findIdx? (fun s => s.name == defaultRootStruct) = some i → Laid T i
  size : s.size < 2 ^ 31

/-- `get_type` and `get_struct` agree on the root structure. -/
theorem RootLaid.exists_index {T : Table} {s : Structure} (h : RootLaid T s) :
    ∃ i : ℕ, getType T defaultRootStruct = structBase + i ∧ T[i]? = some s ∧ Laid T i ∧
      s.size < 2 ^ 31 := by
  obtain ⟨hp, i, hi, hget, hbefore⟩ := List.find?_eq_some_iff_getElem.mp h.root
  have hidx : T.findIdx? (fun s => s.name == defaultRootStruct) = some i := by
    refine List.findIdx?_eq_some_iff_getElem.mpr ⟨hi, ?_, fun j hj => ?_⟩
    · rw [hget]
      exact hp
    · simpa using hbefore j hj
  refine ⟨i, ?_, ?_, h.laid i hidx, h.size⟩
  · have hbase : types.findIdx? (fun t => t.1 == defaultRootStruct) = none := by decide
    rw [getType, hbase]
    simp only [hidx]
  · rw [List.getElem?_eq_getElem hi, hget]

/-! ## A small table -/

def sampleHeader : Structure :=
  ⟨str "conf_header", [⟨str "magic", 0, 1, 0⟩, ⟨str "version", 6, 1, 4⟩, ⟨str "checksum", 0, 1, 8⟩],
    12⟩

def sampleRate : Structure := ⟨str "rate", [⟨str "num", 1, 1, 0⟩, ⟨str "flags", 2, 2, 2⟩], 4⟩

def sampleRoot : Structure :=
  ⟨str "wlcore_conf_file",
    [⟨str "header", 1000, 1, 0⟩, ⟨str "rates", 1001, 2, 12⟩, ⟨str "mode", 2, 1, 20⟩], 21⟩

/-- A header, an array of structures and a byte. -/
def sampleTable : Table := [sampleHeader, sampleRate, sampleRoot]

theorem sampleRoot_laid : RootLaid sampleTable sampleRoot where
  root := by decide
  laid i hi := laid_of_table (by decide +kernel) i (List.findIdx?_eq_some_iff_getElem.mp hi).1
  size := by decide

end TiWlan.Wlconf
