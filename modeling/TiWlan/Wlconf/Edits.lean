import TiWlan.Wlconf.Header

/-!
# Editing a configuration file

The commands `-s`, `-C` and `-I` read a configuration, set elements, update the checksum and write
the result (`ti-utils/wlconf/main.c`, lines 664–709, 932–985, 1141–1272 and 1499–1570).

* `Edit.paths`: the elements that a command names;
* `applyEdit_writes`: a command stores into these elements only;
* `runEdit_framed`: the output file is valid, and differs from the input in the named elements and
  the checksum only.
-/

namespace TiWlan.Wlconf

open TiWlan.Lib

/-- The elements that the lines of a text name, after translation. -/
def textPaths (type : TextFileType) (dict : Dict) (text : List UInt8) : List CStr :=
  (textLines text).filterMap fun line => (lineNames type dict line).toOption.map Prod.fst

/-- The elements that a command names. -/
def Edit.paths : Edit → List CStr
  | .set argument => [argument.takeWhile (· ≠ chr '=')]
  | .parseTextConf text => textPaths .conf [] text
  | .parseIni dictText text =>
    match parseDict dictText with
    | .error _ => []
    | .ok dict => textPaths .ini dict text

/-- The path does not start with `header`. -/
def NotHeader (path : CStr) : Prop := (pathTokens path).head? ≠ some (str "header")

/-- The offset `k` belongs to an element that one of the paths leads to. -/
def NamedByte (T : Table) (s : Structure) (paths : List CStr) (k : ℕ) : Prop :=
  ∃ path ∈ paths, ∃ pos e, findElement T s path = .ok (pos, e) ∧
    pos ≤ k ∧ k < pos + elementSize T e

/-- The store fills an element that one of the paths leads to. -/
def StoresOf (T : Table) (s : Structure) (paths : List CStr) (w : ℕ × List UInt8) : Prop :=
  ∃ path ∈ paths, ∃ e, Resolves T s (pathTokens path) w.1 e ∧ w.2.length = elementSize T e

section
variable {ulongBits i : ℕ} {T : Table} {s : Structure} {type : TextFileType} {dict : Dict}

/-- The element that a line sets is one that it names. -/
theorem lineTarget_names {line : CStr} {pos : ℕ} {e : Element} {values : List CStr}
    (h : lineTarget T s type dict line = .ok (pos, e, values)) :
    ∃ path, (lineNames type dict line).toOption.map Prod.fst = some path ∧
      findElement T s path = .ok (pos, e) ∧ e.type < structBase := by
  rw [lineTarget] at h
  match hnames : lineNames type dict line with
  | .error err => simp [hnames] at h
  | .ok (path, valueArray) =>
    match hfind : findElement T s path with
    | .error err => simp [hnames, hfind] at h
    | .ok (pos', e') =>
      simp only [hnames, hfind] at h
      split_ifs at h with htype
      cases h
      exact ⟨path, rfl, hfind, by omega⟩

/-- An empty line names nothing. -/
theorem lineNames_nil : (lineNames type dict []).toOption.map Prod.fst = none := by
  cases type <;> rfl

/-- An accepted text file stores into the elements that it names, into no others, and the same into
every buffer. -/
theorem parseTextFile_stores (hlaid : Laid T i) (hs : T[i]? = some s) (hsize : s.size < 2 ^ 31)
    {text : List UInt8} {buf buf' : Buffer}
    (h : parseTextFile ulongBits T s type dict buf text = .ok buf') :
    ∃ ws, (∀ w ∈ ws, StoresOf T s (textPaths type dict text) w) ∧
      (∀ k, NamedByte T s (textPaths type dict text) k → ∃ w ∈ ws, Covers w k) ∧
      ∀ m, parseTextFile ulongBits T s type dict m text = .ok (storeAll m ws) := by
  have harray : ∀ line pos e values, lineTarget T s type dict line = .ok (pos, e, values) →
      0 ≤ e.arraySize := by
    intro line pos e values htarget
    obtain ⟨path, -, hfind, -⟩ := lineTarget_names htarget
    have hres := (findElement_eq_ok hlaid hs hsize path pos e).mp hfind
    have hone := (hres.elem_spec hlaid hs).1
    omega
  obtain ⟨ws, hws, hall, hrun⟩ := parseTextFile_writes harray h
  refine ⟨ws, fun w hw => ?_, fun k hk => ?_, hrun⟩
  · obtain ⟨line, hline, e, values, htarget, hlen⟩ := hws w hw
    obtain ⟨path, hpath, hfind, hbase⟩ := lineTarget_names htarget
    refine ⟨path, List.mem_filterMap.mpr ⟨line, hline, hpath⟩, e,
      (findElement_eq_ok hlaid hs hsize path w.1 e).mp hfind, ?_⟩
    rw [hlen, elementSize, if_pos hbase]
  · obtain ⟨path, hpath, pos, e, hfind, hlo, hhi⟩ := hk
    obtain ⟨line, hline, hname⟩ := List.mem_filterMap.mp hpath
    have hne : line ≠ [] := by
      rintro rfl
      rw [lineNames_nil] at hname
      cases hname
    obtain ⟨w, hw, e', values, htarget, hlen⟩ := hall line hline hne
    obtain ⟨path', hpath', hfind', hbase⟩ := lineTarget_names htarget
    -- the line names one path, which leads to one element
    have hsame : path = path' := Option.some.inj (hname.symm.trans hpath')
    subst hsame
    rw [hfind] at hfind'
    cases hfind'
    rw [elementSize, if_pos hbase, ← hlen] at hhi
    exact ⟨w, hw, hlo, hhi⟩

end

section
variable {ulongBits i : ℕ} {f : StructFile} {s : Structure}

/-- A command stores into the elements that it names only. -/
theorem applyEdit_writes (hlaid : Laid f.structures i) (hs : f.structures[i]? = some s)
    (hsize : s.size < 2 ^ 31) {buf buf' : Buffer} {edit : Edit}
    (h : applyEdit ulongBits f s buf edit = .ok buf') :
    ∃ ws, (∀ w ∈ ws, StoresOf f.structures s edit.paths w) ∧ buf' = storeAll buf ws := by
  cases edit with
  | set argument =>
    rw [applyEdit, setValue] at h
    split_ifs at h
    cases hfind : findElement f.structures s (argument.takeWhile (· ≠ chr '=')) with
    | error err =>
      simp only [hfind] at h
      cases h
    | ok found =>
      obtain ⟨pos, e⟩ := found
      simp only [hfind] at h
      split_ifs at h with harray htype
      cases h
      have hres := (findElement_eq_ok hlaid hs hsize _ pos e).mp hfind
      have hone := (hres.elem_spec hlaid hs).1
      refine ⟨[(pos, leBytes (typeSize e.type) _)], fun w hw => ?_, rfl⟩
      rw [List.mem_singleton] at hw
      subst hw
      refine ⟨_, List.mem_singleton.mpr rfl, e, hres, ?_⟩
      rw [leBytes_length, elementSize, if_pos (by omega), show e.arraySize.toNat = 1 by omega,
        Nat.one_mul]
  | parseTextConf text =>
    obtain ⟨ws, hws, -, hrun⟩ := parseTextFile_stores hlaid hs hsize h
    have hok := (hrun buf).symm.trans h
    cases hok
    exact ⟨ws, hws, rfl⟩
  | parseIni dictText text =>
    rw [applyEdit] at h
    cases hdict : parseDict dictText with
    | error err =>
      rw [hdict] at h
      cases h
    | ok dict =>
      rw [hdict] at h
      obtain ⟨ws, hws, -, hrun⟩ := parseTextFile_stores hlaid hs hsize h
      have hok := (hrun buf).symm.trans h
      cases hok
      refine ⟨ws, fun w hw => ?_, rfl⟩
      rw [Edit.paths, hdict]
      exact hws w hw

/-- Stores into elements outside the header leave its numbers alone. -/
theorem StoresOf.not_covers_header {T : Table} {pm pv pc : ℕ} (hheader : HeaderAt T s pm pv pc)
    {paths : List CStr} (hpaths : ∀ path ∈ paths, NotHeader path) {w : ℕ × List UInt8}
    (hw : StoresOf T s paths w) {p k : ℕ} (hp : p ∈ [pm, pv, pc]) (hk : k < 4) :
    ¬Covers w (p + k) := by
  obtain ⟨path, hpath, e, hres, hlen⟩ := hw
  have hapart := hheader.apart _ _ _ hres (hpaths path hpath) p hp
  rintro ⟨hlo, hhi⟩
  omega

theorem loadAt_storeAll_header {T : Table} {pm pv pc : ℕ} (hheader : HeaderAt T s pm pv pc)
    {paths : List CStr} (hpaths : ∀ path ∈ paths, NotHeader path) {ws : List (ℕ × List UInt8)}
    (hws : ∀ w ∈ ws, StoresOf T s paths w) (b : Buffer) {p : ℕ} (hp : p ∈ [pm, pv, pc]) :
    loadAt (storeAll b ws) p 4 = loadAt b p 4 :=
  loadAt_congr fun _ hk => storeAll_of_not_covers fun w hw =>
    (hws w hw).not_covers_header hheader hpaths hp hk

end

/-- A command that sets no element of the header writes a file of the size of the root that
`read_input` accepts, with the checksum checked. It differs from the input in bytes of the named
elements and of the checksum only. -/
theorem runEdit_framed (ulongBits : ℕ) (f : StructFile) (s : Structure)
    (hlaid : RootLaid f.structures s) (hheader : HasHeader f.structures s) (ignoreChecksum : Bool)
    (file output : List UInt8) (edit : Edit) (hpaths : ∀ path ∈ edit.paths, NotHeader path)
    (hrun : runEdit ulongBits f s ignoreChecksum file edit = .ok output) :
    output.length = s.size ∧ (∃ buf, readInput f s false output = .ok buf) ∧
    ∀ k < s.size, output[k]? ≠ file[k]? →
      NamedByte f.structures s (chksumElement :: edit.paths) k := by
  obtain ⟨i, -, hs, hlaid', hsize⟩ := hlaid.exists_index
  obtain ⟨pm, pv, pc, hat⟩ := hheader.exists_at hlaid
  rw [runEdit] at hrun
  match hread : readInput f s ignoreChecksum file with
  | .error err =>
    rw [hread] at hrun
    cases hrun
  | .ok b₀ =>
    rw [hread] at hrun
    match hedit : applyEdit ulongBits f s b₀ edit with
    | .error err =>
      simp only [bind, Except.bind, hedit] at hrun
      cases hrun
    | .ok b₁ =>
      simp only [bind, Except.bind, hedit] at hrun
      obtain ⟨ws, hws, hb₁⟩ := applyEdit_writes hlaid' hs hsize hedit
      have hkeep (p : ℕ) (hp : p ∈ [pm, pv, pc]) : loadAt b₁ p 4 = loadAt b₀ p 4 := by
        rw [hb₁]
        exact loadAt_storeAll_header hat hpaths hws b₀ hp
      obtain ⟨hmagic, hversion, hzero⟩ := readInput_header hat hread
      rw [← hkeep pm (by simp)] at hmagic
      rw [← hkeep pv (by simp)] at hversion
      rw [← hkeep pc (by simp)] at hzero
      obtain ⟨output', hwrite, hbytes, haccept⟩ := readInput_writeOutput hat hmagic hversion hzero
      have hsame := hwrite.symm.trans hrun
      cases hsame
      refine ⟨by rw [hbytes, loadAt_length], haccept, fun k hk hne => ?_⟩
      -- a byte outside of all the named elements comes from the input
      by_contra hnone
      have hchksum : ¬(pc ≤ k ∧ k < pc + 4) := by
        obtain ⟨e, hfind, hfour⟩ := hat.chksum.elementSize_eq
        rintro ⟨hlo, hhi⟩
        exact hnone ⟨chksumElement, List.mem_cons_self .., pc, e, hfind, hlo, by omega⟩
      have hwrites : ∀ w ∈ ws, ¬Covers w k := by
        intro w hw
        obtain ⟨path, hpath, e, hres, hlen⟩ := hws w hw
        rintro ⟨hlo, hhi⟩
        have hfind := (findElement_eq_ok hlaid' hs hsize path w.1 e).mpr hres
        exact hnone ⟨path, List.mem_cons_of_mem _ hpath, w.1, e, hfind, hlo, by omega⟩
      refine hne ?_
      rw [readInput_byte hat hread hk hchksum, hbytes, loadAt, List.getElem?_map,
        List.getElem?_range hk, Option.map_some, Nat.zero_add, storeAt_int32Bytes hchksum, hb₁,
        storeAll_of_not_covers hwrites]

/-- An INI file that sets a byte and an array of bytes. -/
theorem runEdit_framed_ini :
    let file : List UInt8 :=
      [202, 0, 225, 16, 7, 0, 0, 0, 5, 120, 119, 126, 0, 0, 0, 0, 0, 0, 0, 0, 2, 99]
    let edit : Edit :=
      .parseIni (str "Mode mode\nRate rates.flags") (str "Mode = 1f # up\n\nRate = 5 6\n")
    let output : List UInt8 :=
      [202, 0, 225, 16, 7, 0, 0, 0, 198, 132, 59, 7, 0, 0, 5, 6, 0, 0, 0, 0, 31]
    runEdit 32 sampleFile sampleRoot false file edit = .ok output ∧
      output.length = sampleRoot.size ∧
      ∃ buf, readInput sampleFile sampleRoot false output = .ok buf := by
  intro file edit output
  have hrun : runEdit 32 sampleFile sampleRoot false file edit = .ok output := by decide +kernel
  have hpaths : ∀ path ∈ edit.paths, NotHeader path := by
    unfold NotHeader
    decide +kernel
  obtain ⟨hlen, haccept, -⟩ := runEdit_framed 32 sampleFile sampleRoot sampleRoot_laid
    sampleRoot_header false file output edit hpaths hrun
  exact ⟨hrun, hlen, haccept⟩

end TiWlan.Wlconf
