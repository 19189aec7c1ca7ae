import TiWlan.Wlconf.Layout

/-!
# Tables from a C header

`parse_header` finds the structures of a header one after the other, and `parse_elements` their
elements (`ti-utils/wlconf/main.c`, lines 201–272 and 331–387). Each element is placed behind those
before it. A structure is in the table from its name on, with the size that it has so far.

What the patterns match is the input here, and sizes do not overflow. An unknown type has no
defined size.

* `parseHeader_placed`: if every structure refers only to those before it, its elements lie one
  after the other;
* `parseHeader_laid`: if moreover array sizes are positive and the elements of a structure have
  different identifiers as names, then every structure of the table is laid out;
* `parseHeader_rootLaid`: so is the root structure, which `RootLaid` asks for.
-/

namespace TiWlan.Wlconf

open TiWlan.Lib

/-- A match of `ELEMENT_PATTERN`; the array size is 1 without brackets. -/
structure Decl where
  typeStr : CStr
  name : CStr
  arraySize : ℤ
  deriving DecidableEq, Repr

/-- The loop of `parse_elements` (main.c:201). -/
def parseElements (T : Table) (structName : CStr) : ℕ → List Decl → Option (List Element × ℕ)
  | size, [] => some ([], size)
  | size, d :: ds =>
    let T' := T ++ [⟨structName, [], size⟩]
    let e : Element := ⟨d.name, getType T' d.typeStr, d.arraySize, size⟩
    if e.type = -1 then none
    else
      (parseElements T structName (size + elementSize T' e) ds).map fun r => (e :: r.1, r.2)

/-- The loop of `parse_header` (main.c:331) over the structures. -/
def parseHeader : Table → List (CStr × List Decl) → Option Table
  | T, [] => some T
  | T, (name, ds) :: rest =>
    match parseElements T name 0 ds with
    | none => none
    | some (elements, size) => parseHeader (T ++ [⟨name, elements, size⟩]) rest

/-! ## Types that are known -/

section
variable {T : Table}

/-- A type that is known stays the same when the table grows. -/
theorem getType_append {typeStr : CStr} (h : getType T typeStr ≠ -1) (X : Table) :
    getType (T ++ X) typeStr = getType T typeStr := by
  unfold getType at h ⊢
  split
  · rfl
  · rename_i hbase
    simp only [hbase] at h
    cases hfind : T.findIdx? fun s => s.name == typeStr with
    | none =>
      rw [hfind] at h
      exact absurd rfl h
    | some j =>
      have happend : (T ++ X).findIdx? (fun s => s.name == typeStr) = some j := by
        rw [List.findIdx?_append, hfind]
        rfl
      simp only [happend]

/-- A known type is a base type or a structure of the table. -/
theorem getType_cases {typeStr : CStr} (h : getType T typeStr ≠ -1) :
    (0 ≤ getType T typeStr ∧ getType T typeStr < types.length) ∨
      ∃ j < T.length, getType T typeStr = structBase + (j : ℕ) := by
  unfold getType at h ⊢
  split
  · rename_i i hi
    have hlt := (List.findIdx?_eq_some_iff_getElem.mp hi).1
    exact Or.inl ⟨by omega, by omega⟩
  · rename_i hbase
    simp only [hbase] at h
    split
    · rename_i j hj
      exact Or.inr ⟨j, (List.findIdx?_eq_some_iff_getElem.mp hj).1, rfl⟩
    · rename_i hnone
      rw [hnone] at h
      exact absurd rfl h

/-- The size of an element of a known type stays the same when the table grows. -/
theorem elementSize_append {e : Element}
    (h : e.type < structBase ∨ ∃ j < T.length, e.type = structBase + (j : ℕ)) (X : Table) :
    elementSize (T ++ X) e = elementSize T e := by
  unfold elementSize
  rcases h with hbase | ⟨j, hj, htype⟩
  · rw [if_pos hbase, if_pos hbase]
  · rw [getElem?_toNat htype, getElem?_toNat htype, List.getElem?_append_left hj]

theorem Packed.append {off stop : ℕ} {es : List Element} (h : Packed T off es stop)
    (htype : ∀ e ∈ es, e.type < structBase ∨ ∃ j < T.length, e.type = structBase + (j : ℕ))
    (X : Table) : Packed (T ++ X) off es stop := by
  induction es generalizing off with
  | nil => exact h
  | cons e es ih =>
    obtain ⟨hpos, hrest⟩ := h
    refine ⟨hpos, ?_⟩
    rw [elementSize_append (htype e (List.mem_cons_self ..))]
    exact ih hrest fun e' he' => htype e' (List.mem_cons_of_mem _ he')

/-- The elements of the structure with index `i` lie one after the other and are of base types and of
structures before it. Names may repeat, and arrays may be empty. -/
structure Placed (T : Table) (i : ℕ) (s : Structure) : Prop where
  packed : Packed T 0 s.elements s.size
  name : ∀ e ∈ s.elements, IsName e.name
  arraySize : ∀ e ∈ s.elements, 0 ≤ e.arraySize
  type : ∀ e ∈ s.elements, (0 ≤ e.type ∧ e.type < types.length) ∨
    ∃ j < i, e.type = structBase + (j : ℕ)

/-- A structure stays where it is when the table grows behind it. -/
theorem Placed.append {i : ℕ} {s : Structure} (h : Placed T i s) (hi : i ≤ T.length)
    (X : Table) : Placed (T ++ X) i s := by
  refine ⟨h.packed.append (fun e he => ?_) X, h.name, h.arraySize, h.type⟩
  rcases h.type e he with hbase | ⟨j, hj, htype⟩
  · exact Or.inl (base_lt hbase.2)
  · exact Or.inr ⟨j, by omega, htype⟩

theorem LaidStructure.placed {i : ℕ} {s : Structure} (h : LaidStructure T i s) : Placed T i s :=
  ⟨h.packed, h.name, fun e he => (h.arraySize e he).trans' (by decide), h.type⟩

theorem LaidStructure.append {i : ℕ} {s : Structure} (h : LaidStructure T i s) (hi : i ≤ T.length)
    (X : Table) : LaidStructure (T ++ X) i s :=
  ⟨(h.placed.append hi X).packed, h.distinct, h.name, h.arraySize, h.type⟩

end

/-! ## Headers -/

/-- The declarations of a structure behind structures with the names `before`, as the pattern matches
them. -/
@[mk_iff]
structure DeclsKnown (before : List CStr) (ds : List Decl) : Prop where
  known : ∀ d ∈ ds, d.typeStr ∈ types.map Prod.fst ∨ d.typeStr ∈ before
  name : ∀ d ∈ ds, IsName d.name
  arraySize : ∀ d ∈ ds, 0 ≤ d.arraySize

/-- Declarations as ISO C has them, with different names and without empty arrays. -/
@[mk_iff]
structure DeclsFit (before : List CStr) (ds : List Decl) : Prop where
  known : ∀ d ∈ ds, d.typeStr ∈ types.map Prod.fst ∨ d.typeStr ∈ before
  arraySize : ∀ d ∈ ds, 1 ≤ d.arraySize
  name : ∀ d ∈ ds, IsName d.name
  distinct : ds.Pairwise fun d d' => d.name ≠ d'.name

/-- The declarations of every structure of a header are so, behind the names before it. -/
def HeaderAll (P : List CStr → List Decl → Prop) : List CStr → List (CStr × List Decl) → Prop
  | _, [] => True
  | before, (name, ds) :: rest => P before ds ∧ HeaderAll P (before ++ [name]) rest

/-- Every structure of a header refers only to those before it. -/
abbrev HeaderFits := HeaderAll DeclsFit

instance (before : List CStr) (ds : List Decl) : Decidable (DeclsKnown before ds) :=
  decidable_of_iff' _ (declsKnown_iff before ds)

instance (before : List CStr) (ds : List Decl) : Decidable (DeclsFit before ds) :=
  decidable_of_iff' _ (declsFit_iff before ds)

instance HeaderAll.decidable {P : List CStr → List Decl → Prop} [∀ b ds, Decidable (P b ds)] :
    (before : List CStr) → (header : List (CStr × List Decl)) →
      Decidable (HeaderAll P before header)
  | _, [] => inferInstanceAs (Decidable True)
  | before, (name, _) :: rest =>
    @instDecidableAnd _ _ _ (HeaderAll.decidable (before ++ [name]) rest)

section
variable {T : Table} {structName : CStr} {ds : List Decl}

theorem getType_ne_of_mem {typeStr : CStr}
    (h : typeStr ∈ types.map Prod.fst ∨ typeStr ∈ T.map Structure.name) :
    getType T typeStr ≠ -1 := by
  unfold getType
  split
  · omega
  · rename_i hbase
    split
    · have hpos : 0 < structBase := by decide
      omega
    · rename_i hnone
      rw [List.findIdx?_eq_none_iff] at hbase hnone
      rcases h with h | h
      · obtain ⟨t, ht, rfl⟩ := List.mem_map.mp h
        simpa using hbase t ht
      · obtain ⟨s, hs, rfl⟩ := List.mem_map.mp h
        simpa using hnone s hs

/-- What an element has from its declaration. -/
def Decl.parsed (T : Table) (d : Decl) : CStr × ℤ × ℤ := (d.name, getType T d.typeStr, d.arraySize)

/-- The elements of known types, as `parse_elements` places them. -/
theorem parseElements_packed (hknown : ∀ d ∈ ds, getType T d.typeStr ≠ -1) (size : ℕ) :
    ∃ es stop, parseElements T structName size ds = some (es, stop) ∧ Packed T size es stop ∧
      es.map (fun e => (e.name, e.type, e.arraySize)) = ds.map (Decl.parsed T) := by
  induction ds generalizing size with
  | nil => exact ⟨[], size, rfl, rfl, rfl⟩
  | cons d ds ih =>
    have hd := hknown d (List.mem_cons_self ..)
    let e : Element := ⟨d.name, getType T d.typeStr, d.arraySize, size⟩
    have htype := getType_append hd [(⟨structName, [], size⟩ : Structure)]
    have hsame : elementSize (T ++ [⟨structName, [], size⟩]) e = elementSize T e := by
      refine elementSize_append ?_ _
      rcases getType_cases hd with hbase | hstruct
      · exact Or.inl (base_lt hbase.2)
      · exact Or.inr hstruct
    obtain ⟨es, stop, hrest, hpacked, hmap⟩ :=
      ih (fun d' hd' => hknown d' (List.mem_cons_of_mem _ hd')) (size + elementSize T e)
    refine ⟨e :: es, stop, ?_, ⟨rfl, hpacked⟩, ?_⟩
    · simp only [parseElements, htype, if_neg hd]
      rw [hsame, hrest, Option.map_some]
    · rw [List.map_cons, hmap]
      rfl

/-- The structure that `parse_elements` completes, behind the table so far. -/
theorem parseElements_placed (structName : CStr) (h : DeclsKnown (T.map Structure.name) ds) :
    ∃ es size, parseElements T structName 0 ds = some (es, size) ∧
      Placed T T.length ⟨structName, es, size⟩ ∧
      es.map (fun e => (e.name, e.arraySize)) = ds.map fun d => (d.name, d.arraySize) := by
  have hknown : ∀ d ∈ ds, getType T d.typeStr ≠ -1 := fun d hd =>
    getType_ne_of_mem (h.known d hd)
  obtain ⟨es, size, hparse, hpacked, hmap⟩ := parseElements_packed hknown 0
  have hfrom : ∀ e ∈ es, ∃ d ∈ ds, d.name = e.name ∧ getType T d.typeStr = e.type ∧
      d.arraySize = e.arraySize := by
    intro e he
    obtain ⟨d, hd, hde⟩ := List.mem_map.mp (hmap ▸ List.mem_map_of_mem he)
    simp only [Decl.parsed, Prod.mk.injEq] at hde
    exact ⟨d, hd, hde⟩
  refine ⟨es, size, hparse, ⟨hpacked, fun e he => ?_, fun e he => ?_, fun e he => ?_⟩, ?_⟩
  · obtain ⟨d, hd, hname, -⟩ := hfrom e he
    exact hname ▸ h.name d hd
  · obtain ⟨d, hd, -, -, harray⟩ := hfrom e he
    exact harray ▸ h.arraySize d hd
  · obtain ⟨d, hd, -, htype, -⟩ := hfrom e he
    exact htype ▸ getType_cases (hknown d hd)
  · have hpair := congrArg (List.map fun x => (x.1, x.2.2)) hmap
    rwa [List.map_map, List.map_map] at hpair

theorem parseElements_laid (structName : CStr) (h : DeclsFit (T.map Structure.name) ds) :
    ∃ es size, parseElements T structName 0 ds = some (es, size) ∧
      LaidStructure T T.length ⟨structName, es, size⟩ := by
  have hknown : DeclsKnown (T.map Structure.name) ds :=
    ⟨h.known, h.name, fun d hd => (h.arraySize d hd).trans' (by decide)⟩
  obtain ⟨es, size, hparse, hplaced, hmap⟩ := parseElements_placed structName hknown
  refine ⟨es, size, hparse, hplaced.packed, ?_, hplaced.name, fun e he => ?_, hplaced.type⟩
  · have hnames := congrArg (List.map Prod.fst) hmap
    rw [List.map_map, List.map_map] at hnames
    have hdistinct := List.pairwise_map.mpr h.distinct
    exact List.pairwise_map.mp (hnames.symm ▸ hdistinct)
  · obtain ⟨d, hd, hde⟩ := List.mem_map.mp (hmap ▸ List.mem_map_of_mem he)
    exact (Prod.mk.inj hde).2 ▸ h.arraySize d hd

/-- What holds of each structure that `parse_elements` completes, and still holds when the table
grows, holds of every structure of the table. -/
theorem parseHeader_rule {P : List CStr → List Decl → Prop} {Q : Table → ℕ → Structure → Prop}
    (hgrow : ∀ {T i s}, Q T i s → i ≤ T.length → ∀ X, Q (T ++ X) i s)
    (hparse : ∀ {T ds} (name : CStr), P (T.map Structure.name) ds →
      ∃ es size, parseElements T name 0 ds = some (es, size) ∧ Q T T.length ⟨name, es, size⟩)
    {header : List (CStr × List Decl)} (hT : ∀ i (hi : i < T.length), Q T i T[i])
    (h : HeaderAll P (T.map Structure.name) header) :
    ∃ T', parseHeader T header = some T' ∧ (∀ i (hi : i < T'.length), Q T' i T'[i]) ∧
      T'.map Structure.name = T.map Structure.name ++ header.map Prod.fst := by
  induction header generalizing T with
  | nil => exact ⟨T, rfl, hT, by simp⟩
  | cons p rest ih =>
    obtain ⟨name, ds⟩ := p
    obtain ⟨hdecls, hrest⟩ := h
    obtain ⟨es, size, heq, hs⟩ := hparse name hdecls
    obtain ⟨s, hname, hs⟩ : ∃ s : Structure, s = ⟨name, es, size⟩ ∧ Q T T.length s := ⟨_, rfl, hs⟩
    have hconcat : ∀ i (hi : i < (T ++ [s]).length), Q (T ++ [s]) i (T ++ [s])[i] := by
      intro i hi
      by_cases hlt : i < T.length
      · rw [List.getElem_append_left hlt]
        exact hgrow (hT i hlt) (by omega) _
      · obtain rfl : i = T.length := by
          rw [List.length_append, List.length_singleton] at hi
          omega
        rw [List.getElem_concat_length rfl]
        exact hgrow hs le_rfl _
    subst hname
    obtain ⟨T', hT', hQ, hnames⟩ := ih hconcat (by simpa using hrest)
    refine ⟨T', ?_, hQ, by simpa using hnames⟩
    rw [parseHeader, heq]
    exact hT'

/-- Every structure of the table is laid out. -/
theorem parseHeader_laid {header : List (CStr × List Decl)} (h : HeaderFits [] header) :
    ∃ T, parseHeader [] header = some T ∧ (∀ i (hi : i < T.length), LaidStructure T i T[i]) ∧
      T.map Structure.name = header.map Prod.fst :=
  parseHeader_rule (Q := LaidStructure) LaidStructure.append parseElements_laid
    (fun i hi => absurd hi (Nat.not_lt_zero i)) h

/-- Every structure of the table has its elements one after the other. -/
theorem parseHeader_placed {header : List (CStr × List Decl)} (h : HeaderAll DeclsKnown [] header) :
    ∃ T, parseHeader [] header = some T ∧ ∀ i (hi : i < T.length), Placed T i T[i] := by
  obtain ⟨T, hparse, hplaced, -⟩ := parseHeader_rule (T := []) (Q := Placed) Placed.append
    (fun name h => (parseElements_placed name h).imp fun _ => Exists.imp fun _ h => ⟨h.1, h.2.1⟩)
    (fun i hi => absurd hi (Nat.not_lt_zero i)) h
  exact ⟨T, hparse, hplaced⟩

/-- So has all that it contains. -/
theorem sound_of_table (h : ∀ i (hi : i < T.length), Placed T i T[i]) (i : ℕ) (hi : i < T.length) :
    Sound T T[i] := by
  induction i using Nat.strong_induction_on with
  | _ i ih =>
    have hsub : ∀ e ∈ T[i].elements, ¬e.type < structBase → (e.type - structBase).toNat < i := by
      intro e he htype
      rcases (h i hi).type e he with hbase | ⟨j, hj, hej⟩
      · exact absurd (base_lt hbase.2) htype
      · omega
    refine .intro (h i hi).packed (fun e he htype => (hsub e he htype).trans hi) ?_
    intro e he htype s' hs'
    obtain ⟨hlt, rfl⟩ := List.getElem?_eq_some_iff.mp hs'
    exact ih _ (hsub e he htype) hlt

end

/-- A header that has the root structure gives a table with a root structure that is laid out. -/
theorem parseHeader_rootLaid {header : List (CStr × List Decl)} (h : HeaderFits [] header)
    (hroot : defaultRootStruct ∈ header.map Prod.fst) :
    ∃ T s, parseHeader [] header = some T ∧ getStruct T defaultRootStruct = some s ∧
      (s.size < 2 ^ 31 → RootLaid T s) := by
  obtain ⟨T, hparse, hlaid, hnames⟩ := parseHeader_laid h
  obtain ⟨s₀, hs₀, hname⟩ := List.mem_map.mp (hnames ▸ hroot)
  obtain ⟨s, hs⟩ : ∃ s, getStruct T defaultRootStruct = some s :=
    Option.isSome_iff_exists.mp (List.find?_isSome.mpr ⟨s₀, hs₀, beq_iff_eq.mpr hname⟩)
  exact ⟨T, s, hparse, hs, fun hsize =>
    ⟨hs, fun i hi => laid_of_table hlaid i (List.findIdx?_eq_some_iff_getElem.mp hi).1, hsize⟩⟩

/-- The header of the sample table. -/
def sampleDecls : List (CStr × List Decl) :=
  [(str "conf_header", [⟨str "u32", str "magic", 1⟩, ⟨str "__le32", str "version", 1⟩,
      ⟨str "u32", str "checksum", 1⟩]),
    (str "rate", [⟨str "u16", str "num", 1⟩, ⟨str "u8", str "flags", 2⟩]),
    (str "wlcore_conf_file", [⟨str "conf_header", str "header", 1⟩,
      ⟨str "rate", str "rates", 2⟩, ⟨str "u8", str "mode", 1⟩])]

theorem parseHeader_rootLaid_sample : ∃ T s, parseHeader [] sampleDecls = some T ∧
    getStruct T defaultRootStruct = some s ∧ (s.size < 2 ^ 31 → RootLaid T s) :=
  parseHeader_rootLaid (by decide +kernel) (by decide +kernel)

theorem parseHeader_sampleDecls : parseHeader [] sampleDecls = some sampleTable := by decide +kernel

theorem sampleDecls_known : HeaderAll DeclsKnown [] sampleDecls := by decide +kernel

end TiWlan.Wlconf
