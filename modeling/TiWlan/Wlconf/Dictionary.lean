import TiWlan.Wlconf.Layout
import TiWlan.Wlconf.TextFiles

/-!
# Translating INI names

`translate_ini` (`ti-utils/wlconf/main.c`, lines 987–1002) replaces the name of an INI line by the
element that the dictionary has for it. The loop over the dictionary does not stop at the entry
that it finds: it goes on with the new name, so that an element which is also the INI name of a
later entry is translated once more.

Results:

* `parseDict_names`: the INI names of an accepted dictionary are identifiers.
* `translatesOnce_iff`: the loop is a lookup exactly if no entry leads to a later one that changes
  the name.
* `translatesInAnyOrder_iff`: the same for all orders of the lines.
* `iniNames_once_iff`: both, for a dictionary that `parse_dict` accepts.
-/

namespace TiWlan.Wlconf

open TiWlan.Lib

variable {name : CStr} {dict : Dict}

/-! ## Names of a dictionary -/

/-- The two names of a line are identifiers, the second one with dots. -/
theorem matchDict_name {line ini element : CStr} (h : matchDict line = some (ini, element)) :
    IsName ini := by
  rw [matchDict] at h
  split at h
  · rename_i blanks first rest gap first' rest' hmatch
    cases h
    have hall := matchPieces_classes hmatch
    simp only [dictPattern, List.forall₂_cons] at hall
    obtain ⟨-, ⟨hone, hfirst⟩, ⟨-, hrest⟩, -⟩ := hall
    obtain ⟨c, cs, rfl⟩ := List.exists_cons_of_length_pos (Nat.lt_of_lt_of_le Nat.zero_lt_one hone)
    refine ⟨⟨c, cs ++ rest, rfl, hfirst c (by simp)⟩, fun x hx => ?_⟩
    rcases List.mem_append.mp hx with hx | hx
    · have hstart : isIdentStart x = true := hfirst x hx
      simp [isIdent, hstart]
    · exact hrest x hx
  · cases h

/-- What is read from a list of lines is read from one of them. -/
theorem exists_of_mem_mapM {α β : Type} {f : α → Option β} {l : List α} {bs : List β}
    (h : l.mapM f = some bs) {b : β} (hb : b ∈ bs) : ∃ a ∈ l, f a = some b := by
  induction l generalizing bs with
  | nil =>
    cases h
    cases hb
  | cons a l ih =>
    rw [List.mapM_cons] at h
    obtain ⟨b', hfirst, hrest⟩ := Option.bind_eq_some_iff.mp h
    obtain ⟨bs', hbs, hsome⟩ := Option.bind_eq_some_iff.mp hrest
    cases hsome
    rcases List.mem_cons.mp hb with rfl | hb
    · exact ⟨a, by simp, hfirst⟩
    · obtain ⟨a', ha', hf⟩ := ih hbs hb
      exact ⟨a', by simp [ha'], hf⟩

theorem parseDict_names {text : List UInt8} (h : parseDict text = .ok dict) :
    ∀ entry ∈ dict, IsName entry.1 := by
  rw [parseDict] at h
  cases hlines : ((textLines text).filter (· ≠ [])).mapM matchDict with
  | none =>
    rw [hlines] at h
    cases h
  | some entries =>
    rw [hlines] at h
    cases h
    intro entry hentry
    obtain ⟨line, -, hline⟩ := exists_of_mem_mapM hlines hentry
    exact matchDict_name hline

/-! ## Lookups -/

/-- The element that a dictionary has for a name, or the name itself. -/
def dictElement (dict : Dict) (name : CStr) : CStr :=
  ((dict.find? fun entry => entry.1 == name).map Prod.snd).getD name

/-- The INI names are pairwise distinct. -/
def DistinctNames (dict : Dict) : Prop := dict.Pairwise fun a b => a.1 ≠ b.1

/-- The element of `a`, if it is the INI name of `b`, is also the element of `b`. -/
def LeadsNowhere (a b : CStr × CStr) : Prop := a.2 = b.1 → b.2 = b.1

theorem dictElement_cons (entry : CStr × CStr) (dict : Dict) (name : CStr) :
    dictElement (entry :: dict) name =
      if entry.1 = name then entry.2 else dictElement dict name := by
  by_cases h : entry.1 = name
  · simp [dictElement, h]
  · simp [dictElement, h]

theorem dictElement_of_not_mem (h : ∀ entry ∈ dict, entry.1 ≠ name) :
    dictElement dict name = name := by
  induction dict with
  | nil => rfl
  | cons entry dict ih =>
    rw [dictElement_cons, if_neg (h entry (by simp))]
    exact ih fun e he => h e (by simp [he])

theorem dictElement_of_mem (hdistinct : DistinctNames dict) {entry : CStr × CStr}
    (h : entry ∈ dict) :
    dictElement dict entry.1 = entry.2 := by
  induction hdistinct with
  | nil => cases h
  | cons hhead _ ih =>
    rw [dictElement_cons]
    rcases List.mem_cons.mp h with rfl | h
    · rw [if_pos rfl]
    · rw [if_neg (hhead entry h), ih h]

theorem dictElement_perm {dict' : Dict} (hdistinct : DistinctNames dict) (h : dict'.Perm dict)
    (name : CStr) : dictElement dict' name = dictElement dict name := by
  have hdistinct' : DistinctNames dict' := by
    refine (h.pairwise_iff ?_).mpr hdistinct
    intro a b hab
    exact hab.symm
  by_cases hmem : ∃ entry ∈ dict, entry.1 = name
  · obtain ⟨entry, hentry, rfl⟩ := hmem
    rw [dictElement_of_mem hdistinct hentry, dictElement_of_mem hdistinct' (h.mem_iff.mpr hentry)]
  · have hnone : ∀ entry ∈ dict, entry.1 ≠ name := fun entry hentry heq =>
      hmem ⟨entry, hentry, heq⟩
    rw [dictElement_of_not_mem hnone,
      dictElement_of_not_mem fun entry hentry => hnone entry (h.mem_iff.mp hentry)]

/-! ## The loop -/

theorem translateName_cons (entry : CStr × CStr) (dict : Dict) (name : CStr) :
    translateName (entry :: dict) name =
      translateName dict (if entry.1 = name then entry.2 else name) := rfl

/-- A name stays if all entries for it keep it. -/
theorem translateName_of_kept (h : ∀ entry ∈ dict, name = entry.1 → entry.2 = entry.1) :
    translateName dict name = name := by
  induction dict with
  | nil => rfl
  | cons entry dict ih =>
    have hrest := ih fun e he => h e (by simp [he])
    rw [translateName_cons]
    by_cases heq : entry.1 = name
    · rw [if_pos heq, h entry (by simp) heq.symm, heq, hrest]
    · rw [if_neg heq, hrest]

theorem translateName_eq_of_pairwise (h : dict.Pairwise LeadsNowhere) (name : CStr) :
    translateName dict name = dictElement dict name := by
  induction h with
  | nil => rfl
  | cons hhead _ ih =>
    rw [translateName_cons, dictElement_cons]
    split
    · exact translateName_of_kept fun b hb => hhead b hb
    · exact ih

/-- If the loop is a lookup for the INI names of the dictionary, no entry leads to a later one that
changes the name. -/
theorem pairwise_of_translateName (hdistinct : DistinctNames dict)
    (h : ∀ entry ∈ dict, translateName dict entry.1 = entry.2) : dict.Pairwise LeadsNowhere := by
  induction hdistinct with
  | nil => exact .nil
  | @cons a dict hhead hrest ih =>
    -- the first entry is not met by the names of the others
    have hothers : ∀ entry ∈ dict, translateName dict entry.1 = entry.2 := by
      intro entry hentry
      have hkeep := h entry (by simp [hentry])
      rwa [translateName_cons, if_neg (hhead entry hentry)] at hkeep
    refine .cons ?_ (ih hothers)
    intro b hb hab
    have hfirst := h a (by simp)
    rw [translateName_cons, if_pos rfl, hab] at hfirst
    rw [← hothers b hb, hfirst]

/-! ## `translate_ini` -/

/-- `translate_ini` with the dictionary `dict` looks names up in `spec`. -/
def TranslatesBy (dict spec : Dict) : Prop :=
  ∀ name valueArray element value, IsName name →
    translateIni dict name valueArray = .ok (element, value) → element = dictElement spec name

theorem translateIni_element {valueArray element value : CStr}
    (h : translateIni dict name valueArray = .ok (element, value)) :
    element = translateName dict name := by
  rw [translateIni] at h
  split at h
  · cases h
  · cases h
  · cases h
    rfl

theorem translatesBy_iff (dict spec : Dict) :
    TranslatesBy dict spec ↔
      ∀ name, IsName name → translateName dict name = dictElement spec name := by
  constructor
  · intro h name hname
    exact h name (str "1") _ (str "0x1") hname rfl
  · intro h name valueArray element value hname hok
    rw [translateIni_element hok, h name hname]

theorem translatesOnce_iff (hnames : ∀ entry ∈ dict, IsName entry.1)
    (hdistinct : DistinctNames dict) : TranslatesBy dict dict ↔ dict.Pairwise LeadsNowhere := by
  rw [translatesBy_iff]
  constructor
  · intro h
    refine pairwise_of_translateName hdistinct fun entry hentry => ?_
    rw [h entry.1 (hnames entry hentry), dictElement_of_mem hdistinct hentry]
  · intro h name _
    exact translateName_eq_of_pairwise h name

theorem translatesInAnyOrder_iff (hnames : ∀ entry ∈ dict, IsName entry.1)
    (hdistinct : DistinctNames dict) :
    (∀ dict' : Dict, dict'.Perm dict → TranslatesBy dict' dict) ↔
      ∀ a ∈ dict, ∀ b ∈ dict, LeadsNowhere a b := by
  constructor
  · intro h
    -- the given order and the reverse one say it for both orders of two entries
    have hforward := (translatesOnce_iff hnames hdistinct).mp (h dict (.refl dict))
    have hback : dict.reverse.Pairwise LeadsNowhere := by
      refine pairwise_of_translateName (hdistinct.reverse.imp fun hab => hab.symm) ?_
      intro entry hentry
      have hmem : entry ∈ dict := List.mem_reverse.mp hentry
      have hby := (translatesBy_iff _ _).mp (h dict.reverse (List.reverse_perm dict))
      rw [hby entry.1 (hnames entry hmem), dictElement_of_mem hdistinct hmem]
    rw [List.pairwise_reverse] at hback
    intro a ha b hb
    exact hforward.forall_of_forall_of_flip (fun _ _ => id) hback ha hb
  · intro h dict' hperm
    rw [translatesBy_iff]
    intro name _
    have hpair : dict'.Pairwise LeadsNowhere := List.pairwise_of_forall_mem_list fun a ha b hb =>
      h a (hperm.mem_iff.mp ha) b (hperm.mem_iff.mp hb)
    rw [translateName_eq_of_pairwise hpair, dictElement_perm hdistinct hperm]

/-- With a dictionary that `parse_dict` accepts, whose INI names are distinct, a name is translated
by one lookup exactly if no entry leads to a later one that changes the name; and in any order of
the lines exactly if no entry leads to any other one that changes the name. -/
theorem iniNames_once_iff (text : List UInt8) (dict : Dict) (hdict : parseDict text = .ok dict)
    (hdistinct : DistinctNames dict) :
    (TranslatesBy dict dict ↔ dict.Pairwise LeadsNowhere) ∧
      ((∀ dict' : Dict, dict'.Perm dict → TranslatesBy dict' dict) ↔
        ∀ a ∈ dict, ∀ b ∈ dict, LeadsNowhere a b) :=
  ⟨translatesOnce_iff (parseDict_names hdict) hdistinct,
    translatesInAnyOrder_iff (parseDict_names hdict) hdistinct⟩

/-- A dictionary with an entry that leads to another one, but an earlier one. -/
theorem iniNames_once_backwards :
    let dict : Dict := [(str "Rate", str "core.rate"), (str "Speed", str "Rate")]
    parseDict (str "Rate core.rate\nSpeed Rate\n") = .ok dict ∧ TranslatesBy dict dict := by
  intro dict
  have hdict : parseDict (str "Rate core.rate\nSpeed Rate\n") = .ok dict := by decide +kernel
  refine ⟨hdict, (iniNames_once_iff _ dict hdict ?_).1.mpr ?_⟩
  · unfold DistinctNames
    decide
  · unfold LeadsNowhere
    decide

/-- The same lines the other way round: `Speed` becomes `core.rate`, and not `Rate`. -/
theorem iniNames_twice :
    let dict : Dict := [(str "Speed", str "Rate"), (str "Rate", str "core.rate")]
    parseDict (str "Speed Rate\nRate core.rate\n") = .ok dict ∧ DistinctNames dict ∧
      translateIni dict (str "Speed") (str "1f") = .ok (str "core.rate", str "0x1f") ∧
      dictElement dict (str "Speed") = str "Rate" := by
  unfold DistinctNames
  decide +kernel

end TiWlan.Wlconf
