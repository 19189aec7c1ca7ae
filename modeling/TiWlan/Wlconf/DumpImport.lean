import TiWlan.Wlconf.Dump
import TiWlan.Wlconf.TextWrites

/-!
# A dump can be imported

`parse_text_file` reads back what `get_value` prints for the whole tree
(`ti-utils/wlconf/main.c`, lines 389–508 and 1141–1272).

* `parseLine_leaf`: the line of a leaf copies the bytes of that leaf;
* `dump_import`: importing a dump of one configuration into another one copies all bytes but those
  of the second and later structures in arrays of structures.
-/

namespace TiWlan.Wlconf

open TiWlan.Lib

variable {ws : CStr} {names : List CStr} {T : Table}

/-! ## Characters -/

/-- What the classes of characters keep out. -/
theorem classes_spec : ∀ c : UInt8,
    (isIdent c = true → isPath c = true ∧ c ≠ chr '.') ∧
    (isConfValue c = true → c ≠ 0 ∧ c ≠ chr '#' ∧ c ≠ chr '\n') ∧
    (isPath c = true → c ≠ 0 ∧ c ≠ chr '#' ∧ c ≠ chr '\n' ∧ isBlank c = false) :=
  forall_uint8 (by decide +kernel)

theorem isPath_spec {c : UInt8} (h : isPath c = true) :
    c ≠ 0 ∧ c ≠ chr '#' ∧ c ≠ chr '\n' ∧ isBlank c = false :=
  (classes_spec c).2.2 h

theorem isPath_of_isIdent {c : UInt8} (h : isIdent c = true) : isPath c = true :=
  ((classes_spec c).1 h).1

theorem hexDigit_spec : ∀ d < 16, isConfValue (hexDigit d) = true ∧ hexDigit d ≠ chr ',' := by
  decide

/-! ## Values -/

theorem typeSize_cases {t : ℤ} (h0 : 0 ≤ t) (h1 : t < types.length) :
    typeSize t = 1 ∨ typeSize t = 2 ∨ typeSize t = 4 := by
  have hall : ∀ n < types.length, typeSize n = 1 ∨ typeSize n = 2 ∨ typeSize n = 4 := by decide
  obtain ⟨n, rfl⟩ := Int.eq_ofNat_of_zero_le h0
  exact hall n (by omega)

section
variable {ulongBits size : ℕ} {buf : Buffer}

theorem printValue_chars (hsize : size ≠ 0) (x : ℕ) :
    ∀ c ∈ printValue size x, isConfValue c = true ∧ c ≠ chr ',' := by
  rw [printValue, if_neg hsize]
  intro c hc
  rcases List.mem_append.mp hc with hc | hc
  · have hhex : ∀ c ∈ str "0x", isConfValue c = true ∧ c ≠ chr ',' :=
      forall_mem_of_all (by decide)
    exact hhex c hc
  · obtain ⟨d, hd, rfl⟩ := mem_hexDigits hc
    exact hexDigit_spec d hd

theorem printValues_chars (hsize : size ≠ 0) (pos n : ℕ) :
    ∀ c ∈ printValues buf size pos n, isConfValue c = true := by
  have hsep : ∀ c ∈ str ", ", isConfValue c = true :=
    forall_mem_of_all (by decide)
  match n with
  | 0 => simp [printValues]
  | 1 => exact fun c hc => (printValue_chars hsize _ c hc).1
  | n + 2 =>
    intro c hc
    rw [printValues, List.mem_append, List.mem_append] at hc
    rcases hc with (hc | hc) | hc
    · exact (printValue_chars hsize _ c hc).1
    · exact hsep c hc
    · exact printValues_chars hsize (pos + size) (n + 1) c hc

/-- The first character is the `0` of `0x`. -/
theorem printValues_cons (hsize : size ≠ 0) (pos n : ℕ) :
    ∃ rest, printValues buf size pos (n + 1) = chr '0' :: rest := by
  have hvalue : ∀ x, printValue size x = chr '0' :: chr 'x' :: hexDigits (2 * size) x := by
    intro x
    rw [printValue, if_neg hsize, show str "0x" = [chr '0', chr 'x'] by decide]
    rfl
  cases n with
  | zero =>
    rw [printValues, hvalue]
    exact ⟨_, rfl⟩
  | succ n =>
    rw [printValues, hvalue]
    exact ⟨_, rfl⟩

/-- A value is read back as its bytes. -/
theorem leBytes_strtoul (hsize : size ≠ 0) (hle : size ≤ 4) (hbits : 32 ≤ ulongBits)
    (hws : ∀ c ∈ ws, isSpace c = true) (pos : ℕ) :
    leBytes size (strtoul ulongBits (ws ++ printValue size (leNat (loadAt buf pos size)))) =
      loadAt buf pos size := by
  have hlt := leNat_lt (loadAt buf pos size)
  rw [loadAt_length] at hlt
  have hhex : (256 : ℕ) ^ size = 16 ^ (2 * size) := by rw [Nat.pow_mul]
  have hulong : (256 : ℕ) ^ size ≤ 2 ^ ulongBits :=
    calc (256 : ℕ) ^ size = 2 ^ (8 * size) := by rw [Nat.pow_mul]
      _ ≤ 2 ^ ulongBits := Nat.pow_le_pow_right (by decide) (by omega)
  have hread := strtoul_hex (x := leNat (loadAt buf pos size)) hws (show 0 < 2 * size by omega)
    (by omega) (show _ < 2 ^ ulongBits by omega)
  have hbytes := leBytes_leNat (loadAt buf pos size)
  rw [loadAt_length] at hbytes
  rw [printValue, if_neg hsize, show str "0x" = [48, 120] by decide, List.cons_append,
    List.cons_append, List.nil_append, hread, hbytes]

/-- A value, with the blanks in front of it, is one token. -/
theorem printValue_token (hsize : size ≠ 0) (hws : ∀ c ∈ ws, c ≠ chr ',') (x : ℕ) :
    strtokAll (· == chr ',') (ws ++ printValue size x) = [ws ++ printValue size x] := by
  refine strtokAll_of_noDelim ?_ ?_
  · intro c hc
    rw [beq_eq_false_iff_ne]
    rcases List.mem_append.mp hc with hc | hc
    · exact hws c hc
    · exact (printValue_chars hsize _ c hc).2
  · rw [printValue, if_neg hsize, show str "0x" = [48, 120] by decide]
    simp

/-- The values of an element are read back one by one. -/
theorem printValues_tokens (hsize : size ≠ 0) (hle : size ≤ 4) (hbits : 32 ≤ ulongBits)
    (buf : Buffer) (hws : ∀ c ∈ ws, isSpace c = true ∧ c ≠ chr ',') (pos n : ℕ) :
    (strtokAll (· == chr ',') (ws ++ printValues buf size pos (n + 1))).length = n + 1 ∧
    (strtokAll (· == chr ',') (ws ++ printValues buf size pos (n + 1))).flatMap
      (fun value => leBytes size (strtoul ulongBits value)) = loadAt buf pos ((n + 1) * size) := by
  induction n generalizing ws pos with
  | zero =>
    have hbytes : leBytes size (strtoul ulongBits
        (ws ++ printValue size (leNat (loadAt buf pos size)))) = loadAt buf pos size :=
      leBytes_strtoul hsize hle hbits (fun c hc => (hws c hc).1) pos
    rw [printValues, printValue_token hsize fun c hc => (hws c hc).2]
    refine ⟨rfl, ?_⟩
    rw [List.flatMap_singleton, hbytes, Nat.zero_add, Nat.one_mul]
  | succ n ih =>
    have hbytes : leBytes size (strtoul ulongBits
        (ws ++ printValue size (leNat (loadAt buf pos size)))) = loadAt buf pos size :=
      leBytes_strtoul hsize hle hbits (fun c hc => (hws c hc).1) pos
    have hblank : ∀ c ∈ str " ", isSpace c = true ∧ c ≠ chr ',' :=
      forall_mem_of_all (by decide)
    obtain ⟨hlen, hrest⟩ := ih hblank (pos + size)
    have hsplit : ws ++ printValues buf size pos (n + 2) =
        (ws ++ printValue size (leNat (loadAt buf pos size))) ++
          chr ',' :: (str " " ++ printValues buf size (pos + size) (n + 1)) := by
      rw [printValues, show str ", " = chr ',' :: str " " by decide]
      simp only [List.append_assoc, List.cons_append]
    rw [hsplit, strtokAll_append (by decide), printValue_token hsize fun c hc => (hws c hc).2]
    constructor
    · rw [List.length_append, hlen, List.length_singleton]
      omega
    · rw [List.flatMap_append, hrest, List.flatMap_singleton, hbytes, ← loadAt_add,
        show size + (n + 1) * size = (n + 1 + 1) * size by ring]

end

/-! ## Paths -/

theorem mem_dotted {c : UInt8} (h : c ∈ dotted names) : c = chr '.' ∨ ∃ name ∈ names, c ∈ name := by
  unfold dotted at h
  induction names with
  | nil => simp at h
  | cons name names ih =>
    cases names with
    | nil =>
      rw [List.intercalate_singleton] at h
      exact Or.inr ⟨name, List.mem_cons_self .., h⟩
    | cons name' names =>
      rw [List.intercalate_cons_cons, List.mem_append, List.mem_append, List.mem_singleton] at h
      rcases h with (h | h) | h
      · exact Or.inr ⟨name, List.mem_cons_self .., h⟩
      · exact Or.inl h
      · rcases ih h with h | ⟨n, hn, hc⟩
        · exact Or.inl h
        · exact Or.inr ⟨n, List.mem_cons_of_mem _ hn, hc⟩

theorem dotted_chars (hnames : ∀ name ∈ names, IsName name) :
    ∀ c ∈ dotted names, isPath c = true := by
  intro c hc
  rcases mem_dotted hc with rfl | ⟨name, hname, hc⟩
  · decide
  · exact isPath_of_isIdent ((hnames name hname).chars c hc)

theorem dotted_cons (hne : names ≠ []) (hnames : ∀ name ∈ names, IsName name) :
    ∃ c rest, dotted names = c :: rest ∧ isIdentStart c = true := by
  cases names with
  | nil => exact absurd rfl hne
  | cons name names =>
    obtain ⟨c, rest, hname, hc⟩ := (hnames name (List.mem_cons_self ..)).start
    unfold dotted
    cases names with
    | nil =>
      rw [List.intercalate_singleton, hname]
      exact ⟨c, rest, rfl, hc⟩
    | cons name' names =>
      rw [List.intercalate_cons_cons, hname]
      exact ⟨c, _, rfl, hc⟩

/-- The tokens of a dotted path are its names. -/
theorem pathTokens_dotted (hne : names ≠ []) (hnames : ∀ name ∈ names, IsName name) :
    pathTokens (dotted names) = names := by
  refine strtokAll_intercalate hne fun name hname => ⟨fun hmem => ?_, ?_⟩
  · exact ((classes_spec _).1 ((hnames name hname).chars _ hmem)).2 rfl
  · obtain ⟨c, rest, hcons, -⟩ := (hnames name hname).start
    simp [hcons]

theorem Resolves.names_spec {i off : ℕ} {s : Structure} {e : Element} (h : Resolves T s names off e)
    (hlaid : Laid T i) (hs : T[i]? = some s) : names ≠ [] ∧ ∀ name ∈ names, IsName name := by
  induction h generalizing i with
  | last he =>
    refine ⟨by simp, fun name hname => ?_⟩
    rw [List.mem_singleton] at hname
    exact hname ▸ (hlaid.structure hs).name _ he
  | step he hj hs' _ ih =>
    refine ⟨by simp, fun name hname => ?_⟩
    rcases List.mem_cons.mp hname with rfl | hname
    · exact (hlaid.structure hs).name _ he
    · exact (ih (hlaid.sub hs he hj) hs').2 name hname

/-! ## Lines -/

/-- `path = values` is matched as a whole. -/
theorem matchAssign_line {c v : UInt8} {rest vs : CStr} (hc : isIdentStart c = true)
    (hrest : ∀ x ∈ rest, isPath x = true) (hv : isBlank v = false)
    (hvs : ∀ x ∈ v :: vs, isConfValue x = true) :
    matchAssign .conf (c :: rest ++ str " = " ++ v :: vs) = some (c :: rest, v :: vs) := by
  have hvalue : Eats [.plus isConfValue] (v :: vs ++ []) [v :: vs] :=
    Eats.nil.plus hvs (by simp) rfl
  rw [List.append_nil] at hvalue
  have hblank : Eats [.star isBlank, .plus isConfValue] ([chr ' '] ++ v :: vs)
      [[chr ' '], v :: vs] :=
    hvalue.star (forall_mem_of_all (by decide)) hv
  have hassign : Eats [.star isBlank, .one (· = chr '='), .star isBlank, .plus isConfValue]
      ([chr ' '] ++ ([chr '='] ++ ([chr ' '] ++ v :: vs)))
      [[chr ' '], [chr '='], [chr ' '], v :: vs] :=
    (hblank.one (by decide)).star (forall_mem_of_all (by decide))
      (show isBlank (chr '=') = false by decide)
  have hstart : isBlank c = false :=
    (isPath_spec (isPath_of_isIdent (by simp [isIdent, hc]))).2.2.2
  have hline : Eats TextFileType.conf.pattern
      ([] ++ ([c] ++ (rest ++ ([chr ' '] ++ ([chr '='] ++ ([chr ' '] ++ v :: vs))))))
      [[], [c], rest, [chr ' '], [chr '='], [chr ' '], v :: vs] :=
    ((hassign.star hrest (show isPath (chr ' ') = false by decide)).one hc).star (by simp) hstart
  have hsame : c :: rest ++ str " = " ++ v :: vs =
      [] ++ ([c] ++ (rest ++ ([chr ' '] ++ ([chr '='] ++ ([chr ' '] ++ v :: vs))))) := by
    rw [show str " = " = [chr ' ', chr '=', chr ' '] by decide]
    simp only [List.append_assoc, List.cons_append, List.nil_append]
  rw [hsame, matchAssign, hline.eq]
  rfl

/-- The line of a leaf, without its end. -/
def leafLine (buf : Buffer) (l : Leaf) : CStr :=
  dotted l.names ++ str " = " ++
    printValues buf (typeSize l.elem.type) l.off l.elem.arraySize.toNat

section
variable {ulongBits : ℕ} {T : Table} {i : ℕ} {s : Structure} {buf : Buffer} {l : Leaf}

theorem leafText_eq (buf : Buffer) (l : Leaf) :
    leafText buf [] 0 l = leafLine buf l ++ [chr '\n'] := by
  rw [leafText, leafLine, printData, show str "\n" = [chr '\n'] by decide]
  simp only [List.nil_append, Nat.zero_add, List.append_assoc]

/-- The line of a leaf copies the bytes of the leaf. -/
theorem parseLine_leaf (hbits : 32 ≤ ulongBits) (hlaid : Laid T i) (hs : T[i]? = some s)
    (hsize : s.size < 2 ^ 31) (hres : Resolves T s l.names l.off l.elem)
    (hbase : l.elem.type < structBase) (m : Buffer) :
    parseLine ulongBits T s .conf [] m (leafLine buf l) =
      .ok (storeAt m l.off (loadAt buf l.off (elementSize T l.elem)), 0) := by
  obtain ⟨hne, hnames⟩ := hres.names_spec hlaid hs
  obtain ⟨harray, hspec⟩ := hres.elem_spec hlaid hs
  have htype := typeSize_cases (hspec hbase).1 (hspec hbase).2
  have hpos : typeSize l.elem.type ≠ 0 := by omega
  obtain ⟨n, hn⟩ : ∃ n, l.elem.arraySize.toNat = n + 1 := ⟨l.elem.arraySize.toNat - 1, by omega⟩
  obtain ⟨c, rest, hpath, hc⟩ := dotted_cons hne hnames
  obtain ⟨vs, hvs⟩ : ∃ vs, printValues buf (typeSize l.elem.type) l.off (n + 1) = chr '0' :: vs :=
    printValues_cons hpos l.off n
  -- the pattern
  have hmatch : matchAssign .conf (leafLine buf l) =
      some (dotted l.names, printValues buf (typeSize l.elem.type) l.off (n + 1)) := by
    have hchars := dotted_chars hnames
    have hvalues : ∀ c ∈ printValues buf (typeSize l.elem.type) l.off (n + 1),
        isConfValue c = true := printValues_chars hpos l.off (n + 1)
    rw [leafLine, hn, hpath, hvs]
    rw [hpath] at hchars
    rw [hvs] at hvalues
    exact matchAssign_line hc (fun x hx => hchars x (List.mem_cons_of_mem _ hx)) (by decide) hvalues
  -- the element
  have hfind : findElement T s (dotted l.names) = .ok (l.off, l.elem) := by
    rw [findElement_eq_ok hlaid hs hsize, pathTokens_dotted hne hnames]
    exact hres
  have hline : leafLine buf l ≠ [] := by
    rw [leafLine, hpath]
    simp
  -- the values
  have hnil : ∀ c ∈ ([] : CStr), isSpace c = true ∧ c ≠ chr ',' := by simp
  obtain ⟨hlen, hbytes⟩ := printValues_tokens hpos (by omega) hbits buf hnil l.off n
  rw [List.nil_append] at hlen hbytes
  rw [parseLine, if_neg hline, lineTarget, lineNames, hmatch]
  simp only [hfind]
  rw [if_neg (by omega)]
  simp only
  rw [setValues_eq (by omega), valueBytes, hbytes, ← hn, elementSize, if_pos hbase]
  simp

theorem leafLine_chars (hlaid : Laid T i) (hs : T[i]? = some s)
    (hres : Resolves T s l.names l.off l.elem) (hbase : l.elem.type < structBase) :
    ∀ c ∈ leafLine buf l, c ≠ 0 ∧ c ≠ chr '#' ∧ c ≠ chr '\n' := by
  obtain ⟨-, hnames⟩ := hres.names_spec hlaid hs
  obtain ⟨-, hspec⟩ := hres.elem_spec hlaid hs
  have htype := typeSize_cases (hspec hbase).1 (hspec hbase).2
  have hsep : ∀ c ∈ str " = ", c ≠ 0 ∧ c ≠ chr '#' ∧ c ≠ chr '\n' :=
    forall_mem_of_all (by decide)
  intro c hc
  rw [leafLine, List.mem_append, List.mem_append] at hc
  rcases hc with (hc | hc) | hc
  · have hpath := isPath_spec (dotted_chars hnames c hc)
    exact ⟨hpath.1, hpath.2.1, hpath.2.2.1⟩
  · exact hsep c hc
  · exact (classes_spec c).2.1 (printValues_chars (by omega) _ _ c hc)

end

/-! ## The whole dump -/

/-- A text of lines without comments is cut into these lines. -/
theorem textLines_flatMap {lines : List CStr}
    (h : ∀ line ∈ lines, ∀ c ∈ line, c ≠ 0 ∧ c ≠ chr '#' ∧ c ≠ chr '\n') :
    textLines (lines.flatMap (· ++ [chr '\n'])) = lines ++ [[]] := by
  induction lines with
  | nil => rfl
  | cons line lines ih =>
    have hline := h line (List.mem_cons_self ..)
    have hrest := ih fun l hl => h l (List.mem_cons_of_mem _ hl)
    have hsingle : line.splitOnP (· == chr '\n') = [line] := by
      refine List.splitOnP_eq_singleton fun c hc => ?_
      rw [beq_eq_false_iff_ne]
      exact (hline c hc).2.2
    have hcut : (line.takeWhile fun c => c ≠ 0 && c ≠ chr '#') = line := by
      rw [List.takeWhile_eq_self_iff]
      intro c hc
      simp [(hline c hc).1, (hline c hc).2.1]
    unfold textLines List.splitOn at hrest ⊢
    rw [List.flatMap_cons, List.append_assoc, List.singleton_append,
      List.splitOnP_append_cons _ _ (by simp), hsingle, List.singleton_append, List.map_cons, hrest,
      hcut, List.cons_append]

/-- The stores of the leaves of a dump. -/
def leafWrite (T : Table) (buf : Buffer) (l : Leaf) : ℕ × List UInt8 :=
  (l.off, loadAt buf l.off (elementSize T l.elem))

theorem covers_leafWrite {buf : Buffer} {l : Leaf} {k : ℕ} :
    Covers (leafWrite T buf l) k ↔ l.off ≤ k ∧ k < l.off + elementSize T l.elem := by
  simp [Covers, leafWrite]

section
variable {ulongBits : ℕ} {T : Table} {i : ℕ} {s : Structure}

theorem parseLines_leaves (hbits : 32 ≤ ulongBits) (hlaid : Laid T i) (hs : T[i]? = some s)
    (hsize : s.size < 2 ^ 31) {ls : List Leaf}
    (h : ∀ l ∈ ls, Resolves T s l.names l.off l.elem ∧ l.elem.type < structBase)
    (buf m : Buffer) :
    parseLines ulongBits T s .conf [] (m, 0) (ls.map (leafLine buf) ++ [[]]) =
      .ok (storeAll m (ls.map (leafWrite T buf)), 0) := by
  induction ls generalizing m with
  | nil => rfl
  | cons l ls ih =>
    obtain ⟨hres, hbase⟩ := h l (List.mem_cons_self ..)
    rw [List.map_cons, List.cons_append, parseLines,
      parseLine_leaf hbits hlaid hs hsize hres hbase m]
    exact ih (fun l' hl' => h l' (List.mem_cons_of_mem _ hl')) _

/-- The dump of the whole tree. -/
theorem getValue_eq (buf : Buffer) (hlaid : Laid T i) (hs : T[i]? = some s)
    (hroot : getType T defaultRootStruct = structBase + i) :
    getValue T s (some buf) none =
      .ok (((structLeaves T T.length s).map (leafLine buf)).flatMap (· ++ [chr '\n'])) := by
  have hi : i < T.length := (List.getElem?_eq_some_iff.mp hs).1
  have hprint := printElements_eq buf hlaid hs hi (by omega) [] 0
  have htype : ¬structBase + (i : ℤ) < structBase := by omega
  have hname : currName T ⟨[], structBase + (i : ℤ), 1, 0⟩ none = none := by
    rw [currName, hroot, if_neg (by simp)]
  rw [getValue, hroot, printElement, hname]
  simp only [if_neg htype, show (structBase + (i : ℤ) - structBase).toNat = i by omega, hs]
  rw [parentName, if_pos rfl] at hprint
  rw [hprint, List.flatMap_map, show leafText buf [] 0 = _ from funext (leafText_eq buf)]

end

/-- Importing the dump of a configuration `b` into a configuration `b'` succeeds, and copies the
bytes of all the elements that are printed. These are all but the bytes of the second and later
structures in arrays of structures, which stay as they are. -/
theorem dump_import (ulongBits : ℕ) (hbits : 32 ≤ ulongBits) (T : Table) (s : Structure)
    (hlaid : RootLaid T s) (b b' : Buffer) :
    ∃ text b'', getValue T s (some b) none = .ok text ∧
      parseTextFile ulongBits T s .conf [] b' text = .ok b'' ∧
      (∀ names off e, Resolves T s names off e → e.type < structBase →
        ∀ k, off ≤ k → k < off + elementSize T e → b'' k = b k) ∧
      (∀ k < s.size, ¬LaterCopy T s k → b'' k = b k) ∧
      (∀ k, LaterCopy T s k → b'' k = b' k) ∧
      ∀ k, s.size ≤ k → b'' k = b' k := by
  obtain ⟨i, hroot, hs, hlaid', hsize⟩ := hlaid.exists_index
  have hi : i < T.length := (List.getElem?_eq_some_iff.mp hs).1
  have hleaf : ∀ l ∈ structLeaves T T.length s,
      Resolves T s l.names l.off l.elem ∧ l.elem.type < structBase :=
    fun l hl => (mem_structLeaves hlaid' hs hi l).mp hl
  have hchars : ∀ line ∈ (structLeaves T T.length s).map (leafLine b),
      ∀ c ∈ line, c ≠ 0 ∧ c ≠ chr '#' ∧ c ≠ chr '\n' := by
    intro line hline
    obtain ⟨l, hl, rfl⟩ := List.mem_map.mp hline
    exact leafLine_chars hlaid' hs (hleaf l hl).1 (hleaf l hl).2
  have hparse := parseLines_leaves hbits hlaid' hs hsize hleaf b b'
  have hcopy : ∀ w ∈ (structLeaves T T.length s).map (leafWrite T b),
      w.2 = loadAt b w.1 w.2.length := by
    intro w hw
    obtain ⟨l, -, rfl⟩ := List.mem_map.mp hw
    rw [leafWrite, loadAt_length]
  have hprinted : ∀ names off e, Resolves T s names off e → e.type < structBase →
      ∀ k, off ≤ k → k < off + elementSize T e →
        storeAll b' ((structLeaves T T.length s).map (leafWrite T b)) k = b k := by
    intro names off e hres hbase k hlo hhi
    refine storeAll_copy hcopy ⟨leafWrite T b ⟨names, off, e⟩, ?_, covers_leafWrite.mpr ⟨hlo, hhi⟩⟩
    exact List.mem_map_of_mem ((mem_structLeaves hlaid' hs hi ⟨names, off, e⟩).mpr ⟨hres, hbase⟩)
  refine ⟨_, _, getValue_eq b hlaid' hs hroot, ?_, hprinted, ?_, ?_, ?_⟩
  · rw [parseTextFile, textLines_flatMap hchars, hparse]
    rfl
  · intro k hk hnot
    obtain ⟨names, off, e, hres, hbase, hlo, hhi⟩ := exists_leaf hlaid' hs hk hnot
    exact hprinted names off e hres hbase k hlo hhi
  · intro k hlater
    refine storeAll_of_not_covers fun w hw hcov => ?_
    obtain ⟨l, hl, rfl⟩ := List.mem_map.mp hw
    obtain ⟨hlo, hhi⟩ := covers_leafWrite.mp hcov
    exact (hleaf l hl).1.not_laterCopy (hleaf l hl).2 hlaid' hs hlo hhi hlater
  · intro k hk
    refine storeAll_of_not_covers fun w hw hcov => ?_
    obtain ⟨l, hl, rfl⟩ := List.mem_map.mp hw
    obtain ⟨hlo, hhi⟩ := covers_leafWrite.mp hcov
    have hle := (hleaf l hl).1.le_size hlaid' hs
    omega

/-- A dump of ones, imported into twos: the second copy of `rates` stays as it is. -/
theorem dump_import_sample :
    ∃ text b'', getValue sampleTable sampleRoot (some fun _ => 1) none = .ok text ∧
      parseTextFile 32 sampleTable sampleRoot .conf [] (fun _ => 2) text = .ok b'' ∧
      b'' 15 = 1 ∧ b'' 16 = 2 := by
  obtain ⟨text, b'', htext, hparse, hleaf, -, hlater, -⟩ :=
    dump_import 32 (by decide) sampleTable sampleRoot sampleRoot_laid (fun _ => 1) fun _ => 2
  have hrates : (⟨str "rates", 1001, 2, 12⟩ : Element) ∈ sampleRoot.elements := by decide
  have hflags : (⟨str "flags", 2, 2, 2⟩ : Element) ∈ sampleRate.elements := by decide
  refine ⟨text, b'', htext, hparse, ?_, ?_⟩
  · exact hleaf _ _ _ (.step hrates (j := 1) rfl rfl (.last hflags)) (by decide) 15 (by decide)
      (by decide)
  · exact hlater 16 (.here hrates (j := 1) rfl rfl (by decide) (by decide))

end TiWlan.Wlconf
