import TiWlan.Wlconf.DumpImport
import TiWlan.Wlconf.ParseHeader

/-!
# Elements of the table of any header

`HeaderAll DeclsKnown` asks of a header what the patterns of `parse_header` and C itself ask: names
are identifiers, and a type is a base type or a structure before. An array may be declared with size
0, and an element of a structure in such an array has a path, but no bytes of its own.

Results:
* `parseHeader_partition`: the elements of a structure fill it, one after the other; those of base
  types that are reached through no empty array have `get_element_pos` at disjoint ranges;
* `setValue_exact_iff`: which arguments of `--set` change exactly the bytes of an element. A path
  without a name is found at position 0, without an element (`setValue_emptyPath`).
-/

namespace TiWlan.Wlconf

open TiWlan.Lib

variable {T : Table} {s : Structure} {e : Element} {names : List CStr} {es : List Element}

/-! ## Sums of sizes -/

namespace Packed

variable {off stop : ℕ}

theorem position_eq (h : Packed T off es stop) (k : ℕ) (hk : k < es.length) :
    es[k].position = off + ((es.take k).map (elementSize T)).sum := by
  induction es generalizing off k with
  | nil => exact absurd hk (Nat.not_lt_zero k)
  | cons e es ih =>
    obtain ⟨hpos, hrest⟩ := h
    cases k with
    | zero => exact hpos
    | succ k =>
      rw [List.getElem_cons_succ, ih hrest k (Nat.lt_of_succ_lt_succ hk), List.take_succ_cons,
        List.map_cons, List.sum_cons, Nat.add_assoc]

theorem stop_eq (h : Packed T off es stop) : stop = off + (es.map (elementSize T)).sum := by
  induction es generalizing off with
  | nil => exact h.symm
  | cons e es ih => rw [ih h.2, List.map_cons, List.sum_cons, Nat.add_assoc]

end Packed

/-! ## Paths -/

/-- A path consists of the names of elements of the table. -/
theorem path_spec (hs : s ∈ T) (h : pathElements T s names = some es) :
    es.map Element.name = names ∧ ∀ e ∈ es, ∃ s' ∈ T, e ∈ s'.elements := by
  induction names generalizing s es with
  | nil =>
    cases h
    exact ⟨rfl, by simp⟩
  | cons name names ih =>
    obtain ⟨e, es', rfl, hfind, hrest⟩ := pathElements_cons h
    have hname : e.name = name := by simpa using List.find?_some hfind
    have hmem : ∃ s' ∈ T, e ∈ s'.elements := ⟨s, hs, List.mem_of_find?_eq_some hfind⟩
    rcases hrest with ⟨rfl, rfl⟩ | ⟨-, -, s', hs', hrest⟩
    · exact ⟨by rw [List.map_singleton, hname], by simpa using hmem⟩
    · obtain ⟨hnames, hmems⟩ := ih (List.mem_of_getElem? hs') hrest
      exact ⟨by rw [List.map_cons, hname, hnames], List.forall_mem_cons.mpr ⟨hmem, hmems⟩⟩

/-- A path to an element of a base type does not go on. -/
theorem path_ends {rest : List CStr} {es' : List Element} (h : pathElements T s names = some es)
    (h' : pathElements T s (names ++ rest) = some es') (he : es.getLast? = some e)
    (hbase : e.type < structBase) : rest = [] := by
  induction names generalizing s es es' with
  | nil =>
    cases h
    cases he
  | cons name names ih =>
    obtain ⟨e₁, es₁, rfl, hfind, hcase⟩ := pathElements_cons h
    obtain ⟨e₂, es₂, rfl, hfind', hcase'⟩ := pathElements_cons h'
    cases hfind.symm.trans hfind'
    rcases hcase' with ⟨hnil, -⟩ | ⟨-, htype, s₂, hs₂, hrest'⟩
    · exact (List.append_eq_nil_iff.mp hnil).2
    · rcases hcase with ⟨rfl, rfl⟩ | ⟨hne, -, s₁, hs₁, hrest⟩
      · cases he
        exact absurd hbase htype
      · cases hs₁.symm.trans hs₂
        rw [List.getLast?_cons_of_ne_nil (ne_nil_of_path hrest hne)] at he
        exact ih hrest hrest' he

theorem Placed.typeSize_pos {i : ℕ} (h : Placed T i s) (he : e ∈ s.elements)
    (hbase : e.type < structBase) : 0 < typeSize e.type := by
  rcases h.type e he with ⟨hlo, hhi⟩ | ⟨j, -, hj⟩
  · rcases typeSize_cases hlo hhi with hsize | hsize | hsize <;> omega
  · omega

/-! ## The partition -/

/-- The names lead to an element of a base type, through no empty array of structures. -/
structure LeadsTo (T : Table) (s : Structure) (names : List CStr) (es : List Element)
    (e : Element) : Prop where
  path : pathElements T s names = some es
  last : es.getLast? = some e
  base : e.type < structBase
  copies : Copies es

/-- The elements of every structure fill it one after the other, and different paths to elements of
base types lead to disjoint ranges of bytes in it. -/
theorem parseHeader_partition {header : List (CStr × List Decl)}
    (h : HeaderAll DeclsKnown [] header) :
    ∃ T, parseHeader [] header = some T ∧ ∀ s ∈ T,
      (∀ k (hk : k < s.elements.length),
        s.elements[k].position = ((s.elements.take k).map (elementSize T)).sum) ∧
      s.size = (s.elements.map (elementSize T)).sum ∧
      (s.size < 2 ^ 31 → ∀ {names es e}, LeadsTo T s names es e →
        getElementPos T s (dotted names) = .ok ((offset es : ℤ), some e) ∧
        offset es + elementSize T e ≤ s.size ∧
        ∀ {names' es' e'}, LeadsTo T s names' es' e' → names ≠ names' →
          offset es + elementSize T e ≤ offset es' ∨ offset es' + elementSize T e' ≤ offset es) := by
  obtain ⟨T, hparse, hplaced⟩ := parseHeader_placed h
  refine ⟨T, hparse, fun s hs => ?_⟩
  obtain ⟨i, hi, rfl⟩ := List.mem_iff_getElem.mp hs
  have hsound := sound_of_table hplaced i hi
  refine ⟨fun k hk => ?_, ?_, fun hsize names es e hlead => ?_⟩
  · rw [hsound.packed.position_eq k hk, Nat.zero_add]
  · rw [← Nat.zero_add (List.sum _), ← hsound.packed.stop_eq]
  · have hle := le_size_of_path hsound hlead.path hlead.last hlead.copies
    refine ⟨?_, hle, fun {names' es' e'} hlead' hne => ?_⟩
    · have hne : names ≠ [] := by
        rintro rfl
        cases hlead.path
        cases hlead.last
      obtain ⟨hnames, hmem⟩ := path_spec hs hlead.path
      have hident : ∀ name ∈ names, IsName name := by
        intro name hname
        obtain ⟨e, he, rfl⟩ := List.mem_map.mp (hnames ▸ hname)
        obtain ⟨s', hs', he'⟩ := hmem e he
        obtain ⟨j, hj, rfl⟩ := List.mem_iff_getElem.mp hs'
        exact (hplaced j hj).name e he'
      rw [getElementPos, pathTokens_dotted hne hident]
      rcases walkPath_spec hsound hne none 0 with ⟨hnone, -⟩ | ⟨es', hes', hwalk⟩
      · cases hnone.symm.trans hlead.path
      · cases hes'.symm.trans hlead.path
        rw [hwalk, hlead.last, Int.zero_add, s32_of_lt (by omega) (by omega)]
    · refine disjoint_of_path hsound hlead.path hlead'.path hlead.last hlead'.last hlead.copies
        hlead'.copies ?_ ?_
      · rintro ⟨rest, rfl⟩
        exact hne (by rw [path_ends hlead.path hlead'.path hlead.last hlead.base, List.append_nil])
      · rintro ⟨rest, rfl⟩
        exact hne (by rw [path_ends hlead'.path hlead.path hlead'.last hlead'.base, List.append_nil])

theorem parseHeader_partition_sample : ∃ T, parseHeader [] sampleDecls = some T ∧
    ∀ s ∈ T, s.size = (s.elements.map (elementSize T)).sum :=
  (parseHeader_partition sampleDecls_known).imp fun _ h => ⟨h.1, fun s hs => (h.2 s hs).2.1⟩

/-- `struct a { u8 x; }; struct wlcore_conf_file { u8 y; a s[0]; u8 z; };` -/
def emptyArrayDecls : List (CStr × List Decl) :=
  [(str "a", [⟨str "u8", str "x", 1⟩]),
    (str "wlcore_conf_file",
      [⟨str "u8", str "y", 1⟩, ⟨str "a", str "s", 0⟩, ⟨str "u8", str "z", 1⟩])]

/-- The root structure of that header. -/
def emptyArrayRoot : Structure :=
  ⟨str "wlcore_conf_file", [⟨str "y", 2, 1, 0⟩, ⟨str "s", 1000, 0, 1⟩, ⟨str "z", 2, 1, 1⟩], 2⟩

def emptyArrayTable : Table := [⟨str "a", [⟨str "x", 2, 1, 0⟩], 1⟩, emptyArrayRoot]

/-- An element of an array of 0 structures is where the element after the array is. -/
theorem parseHeader_emptyArray : HeaderAll DeclsKnown [] emptyArrayDecls ∧
    parseHeader [] emptyArrayDecls = some emptyArrayTable ∧ emptyArrayRoot ∈ emptyArrayTable ∧
    getElementPos emptyArrayTable emptyArrayRoot (dotted [str "s", str "x"]) =
      .ok (1, some ⟨str "x", 2, 1, 0⟩) ∧
    getElementPos emptyArrayTable emptyArrayRoot (dotted [str "z"]) =
      .ok (1, some ⟨str "z", 2, 1, 1⟩) := by
  decide +kernel

/-! ## Setting one value -/

/-- The part of an argument of `--set` before the `=`. -/
def elementStr (argument : CStr) : CStr := argument.takeWhile (· ≠ chr '=')

/-- The value that `set_value` reads behind the `=`. -/
def setArgument (ulongBits : ℕ) (argument : CStr) : ℕ :=
  u32 (strtoul ulongBits (argument.dropWhile (· ≠ chr '=')).tail)

/-- A position that `get_element_pos` returns is that of an element of the table. -/
def LookupTotal (T : Table) (s : Structure) (path : CStr) : Prop :=
  ∃ pos curr, getElementPos T s path = .ok (pos, curr) ∧
    (0 ≤ pos → ∃ e, curr = some e ∧ ∃ s' ∈ T, e ∈ s'.elements)

/-- `set_value` fails, or it stores one value, and that in an element that exists once. -/
def SetExact (ulongBits : ℕ) (T : Table) (s : Structure) (buf : Buffer) (argument : CStr) : Prop :=
  setValue ulongBits T s buf argument = .error .error ∨
    ∃ es e, pathElements T s (pathTokens (elementStr argument)) = some es ∧
      es.getLast? = some e ∧ (∀ x ∈ es, 1 ≤ x.arraySize) ∧ e.arraySize = 1 ∧
      e.type < structBase ∧ offset es + typeSize e.type ≤ s.size ∧
      setValue ulongBits T s buf argument =
        .ok (storeAt buf (offset es) (leBytes (typeSize e.type) (setArgument ulongBits argument)))

/-- The path has a name, and if it leads to an element that `set_value` takes for a single value,
then no array on it is empty and the position is an `int`. -/
def SetSafe (T : Table) (s : Structure) (argument : CStr) : Prop :=
  chr '=' ∈ argument → pathTokens (elementStr argument) ≠ [] ∧
    ∀ es e, pathElements T s (pathTokens (elementStr argument)) = some es → es.getLast? = some e →
      e.type < structBase → e.arraySize ≤ 1 → 0 ≤ s32 (offset es) →
      (∀ x ∈ es, 1 ≤ x.arraySize) ∧ offset es < 2 ^ 31

theorem getElementPos_nil {path : CStr} (h : pathTokens path = []) :
    getElementPos T s path = .ok (0, none) := by
  rw [getElementPos, h]
  rfl

theorem lookupTotal_iff (hsound : Sound T s) (hs : s ∈ T) (path : CStr) :
    LookupTotal T s path ↔ pathTokens path ≠ [] := by
  constructor
  · rintro ⟨pos, curr, hpos, htotal⟩ hnil
    cases hpos.symm.trans (getElementPos_nil hnil)
    obtain ⟨e, he, -⟩ := htotal le_rfl
    cases he
  · intro hne
    rcases walkPath_spec hsound hne none 0 with ⟨-, curr, hwalk⟩ | ⟨es, hes, hwalk⟩
    · exact ⟨-1, curr, hwalk, fun h => absurd h (by decide)⟩
    · refine ⟨_, _, hwalk, fun _ => ?_⟩
      have hlast := List.getLast?_eq_some_getLast (ne_nil_of_path hes hne)
      exact ⟨_, hlast, (path_spec hs hes).2 _ (List.mem_of_getLast? hlast)⟩

section
variable {ulongBits : ℕ} {argument : CStr} {buf : Buffer}

theorem setValue_of_nil (heq : chr '=' ∈ argument) (h : pathTokens (elementStr argument) = []) :
    setValue ulongBits T s buf argument = .error .undefined := by
  rw [setValue, if_neg (not_not.mpr heq), ← elementStr]
  simp only [findElement, getElementPos_nil h, lt_irrefl, if_false]

/-- `set_value` on an element that it takes for a single value. -/
theorem setValue_of_path (hsound : Sound T s) (heq : chr '=' ∈ argument)
    (hes : pathElements T s (pathTokens (elementStr argument)) = some es)
    (hlast : es.getLast? = some e) (hbase : e.type < structBase) (hone : e.arraySize ≤ 1)
    (hpos : 0 ≤ s32 (offset es)) :
    setValue ulongBits T s buf argument = .ok (storeAt buf (s32 (offset es)).toNat
      (leBytes (typeSize e.type) (setArgument ulongBits argument))) := by
  rw [setValue, if_neg (not_not.mpr heq), ← elementStr]
  simp only [findElement_eq hsound, hes, hlast, if_neg (Int.not_lt.mpr hpos),
    if_neg (Int.not_lt.mpr hone), if_neg (Int.not_le.mpr hbase), setData, setArgument]

/-- Else it fails. -/
theorem setValue_of_not (hsound : Sound T s)
    (hne : chr '=' ∈ argument → pathTokens (elementStr argument) ≠ [])
    (h : ∀ es e, chr '=' ∈ argument →
      pathElements T s (pathTokens (elementStr argument)) = some es → es.getLast? = some e →
      e.type < structBase → e.arraySize ≤ 1 → s32 (offset es) < 0) :
    setValue ulongBits T s buf argument = .error .error := by
  by_cases heq : chr '=' ∈ argument
  · have hfind := findElement_eq hsound (elementStr argument)
    rw [setValue, if_neg (not_not.mpr heq), ← elementStr]
    rcases Option.eq_none_or_eq_some (pathElements T s (pathTokens (elementStr argument))) with
      hes | ⟨es, hes⟩
    · rw [hes] at hfind
      simp only [hfind]
    · have hlast := List.getLast?_eq_some_getLast (ne_nil_of_path hes (hne heq))
      simp only [hes, hlast] at hfind
      by_cases hneg : s32 (offset es) < 0
      · rw [if_pos hneg] at hfind
        simp only [hfind]
      · rw [if_neg hneg] at hfind
        simp only [hfind]
        split_ifs with harr htype
        · rfl
        · rfl
        · exact absurd (h es _ heq hes hlast (by omega) (by omega)) hneg
  · rw [setValue, if_pos heq]

end

/-- `get_element_pos` misses the element exactly for paths without a name, and `set_value` is exact
exactly for the arguments that are safe. -/
theorem setValue_exact_iff {header : List (CStr × List Decl)} (h : HeaderAll DeclsKnown [] header)
    {T : Table} (hT : parseHeader [] header = some T) {s : Structure} (hs : s ∈ T) :
    (∀ path, LookupTotal T s path ↔ pathTokens path ≠ []) ∧
      ∀ ulongBits argument, (∀ buf, SetExact ulongBits T s buf argument) ↔ SetSafe T s argument := by
  obtain ⟨T', hT', hplaced⟩ := parseHeader_placed h
  cases hT.symm.trans hT'
  have hsound : Sound T s := by
    obtain ⟨i, hi, rfl⟩ := List.mem_iff_getElem.mp hs
    exact sound_of_table hplaced i hi
  refine ⟨lookupTotal_iff hsound hs, fun ulongBits argument => ⟨fun hexact heq => ⟨?_, ?_⟩, ?_⟩⟩
  · intro hnil
    rcases hexact fun _ => 0 with herr | ⟨es, e, -, -, -, -, -, -, hok⟩
    · cases herr.symm.trans (setValue_of_nil heq hnil)
    · cases hok.symm.trans (setValue_of_nil heq hnil)
  · intro es e hes hlast hbase hone hpos
    have hok (buf : ℕ → UInt8) : setValue ulongBits T s buf argument = _ :=
      setValue_of_path hsound heq hes hlast hbase hone hpos
    have hstore : ∀ buf, (∀ x ∈ es, 1 ≤ x.arraySize) ∧
        storeAt buf (s32 (offset es)).toNat
            (leBytes (typeSize e.type) (setArgument ulongBits argument)) =
          storeAt buf (offset es)
            (leBytes (typeSize e.type) (setArgument ulongBits argument)) := by
      intro buf
      rcases hexact buf with herr | ⟨es', e', hes', hlast', hcopies, -, -, -, hok'⟩
      · cases herr.symm.trans (hok buf)
      · cases hes.symm.trans hes'
        cases hlast.symm.trans hlast'
        exact ⟨hcopies, Except.ok.inj ((hok buf).symm.trans hok')⟩
    obtain ⟨s', hs', he⟩ := (path_spec hs hes).2 e (List.mem_of_getLast? hlast)
    obtain ⟨j, hj, rfl⟩ := List.mem_iff_getElem.mp hs'
    have : Nontrivial UInt8 := ⟨0, 1, by decide⟩
    have hoff := storeAt_off_inj (by simpa using (hplaced j hj).typeSize_pos he hbase)
      fun buf => (hstore buf).2
    have hint := s32_lt (offset es)
    exact ⟨(hstore fun _ => 0).1, by omega⟩
  · intro hsafe buf
    by_cases hset : ∃ es e, chr '=' ∈ argument ∧
        pathElements T s (pathTokens (elementStr argument)) = some es ∧ es.getLast? = some e ∧
        e.type < structBase ∧ e.arraySize ≤ 1 ∧ 0 ≤ s32 (offset es)
    · obtain ⟨es, e, heq, hes, hlast, hbase, hone, hpos⟩ := hset
      obtain ⟨hcopies, hint⟩ := (hsafe heq).2 es e hes hlast hbase hone hpos
      have harr : e.arraySize = 1 := le_antisymm hone (hcopies e (List.mem_of_getLast? hlast))
      have hle := le_size_of_path hsound hes hlast fun x hx _ => hcopies x hx
      rw [elementSize, harr, if_pos hbase, Int.toNat_one, Nat.one_mul] at hle
      refine Or.inr ⟨es, e, hes, hlast, hcopies, harr, hbase, hle, ?_⟩
      rw [setValue_of_path hsound heq hes hlast hbase hone hpos, s32_of_lt (by omega) (by omega),
        Int.toNat_natCast]
    · refine Or.inl (setValue_of_not hsound (fun heq => (hsafe heq).1) ?_)
      intro es e heq hes hlast hbase hone
      by_contra hneg
      exact hset ⟨es, e, heq, hes, hlast, hbase, hone, Int.not_lt.mp hneg⟩

theorem setValue_exact_mode : parseHeader [] sampleDecls = some sampleTable ∧
    SetExact 64 sampleTable sampleRoot (fun _ => 0) (str "mode=7") := by
  refine ⟨parseHeader_sampleDecls, ((setValue_exact_iff sampleDecls_known parseHeader_sampleDecls
    (by decide)).2 64 (str "mode=7")).mpr (fun _ => ⟨by decide, fun es e hes _ _ _ _ => ?_⟩) _⟩
  have hmode : pathElements sampleTable sampleRoot (pathTokens (elementStr (str "mode=7"))) =
      some [⟨str "mode", 2, 1, 20⟩] := by decide +kernel
  cases hmode.symm.trans hes
  decide

/-- Without a name before the `=` there is a position, but no element. An element of an array of 0
structures is found, and the value is stored in the element behind the array. -/
theorem setValue_emptyPath :
    getElementPos sampleTable sampleRoot [] = .ok (0, none) ∧
      setValue 64 sampleTable sampleRoot (fun _ => 0) (str "=1") = .error .undefined ∧
      (setValue 64 emptyArrayTable emptyArrayRoot (fun _ => 0) (str "s.x=5")).map (loadAt · 0 2) =
        .ok [0, 5] :=
  ⟨rfl, setValue_of_nil (by decide) (by decide), by decide +kernel⟩

end TiWlan.Wlconf
