import TiWlan.Driver.SchedScan

/-!
# What the firmware learns about SSIDs

The entries that `wl12xx_scan_set_ssid_list` (`wlcore/scan.c`, lines 470–571) sends, for all pairs
of a list of SSIDs and a list of match sets, with repetitions and broadcast SSIDs in both.

Results:

* `markHidden_spec`: one SSID hides its value, and the values stay in order.
* `markAll_spec`: all of them are found exactly if each of them is a match SSID; then exactly their
  values are hidden.
* `scanSetSsidList_spec`: the result for every request within the limits.
-/

namespace TiWlan.Iface

open TiWlan.Driver

variable {es : List SsidEntry} (req : SchedScanRequest) (sets : List MatchSet)

/-- Some entry with the SSID is hidden. -/
def Hides (es : List SsidEntry) (s : Ssid) : Prop := ∃ e ∈ es, e.ssid = s ∧ e.type = .hidden

theorem hides_cons (e : SsidEntry) (es : List SsidEntry) (s : Ssid) :
    Hides (e :: es) s ↔ (e.ssid = s ∧ e.type = .hidden) ∨ Hides es s := by
  simp [Hides]

/-- An SSID that is found is hidden behind it, and nothing else changes. -/
theorem markHidden_spec {s : Ssid} (h : s ∈ es.map SsidEntry.ssid) :
    ∃ es', markHidden s es = some es' ∧ es'.map SsidEntry.ssid = es.map SsidEntry.ssid ∧
      ∀ s', Hides es' s' ↔ s' = s ∨ Hides es s' := by
  induction es with
  | nil => simp at h
  | cons e es ih =>
    rw [markHidden]
    by_cases he : s = e.ssid
    · refine ⟨_, if_pos he, rfl, fun s' => ?_⟩
      rw [hides_cons, hides_cons]
      subst he
      constructor
      · rintro (⟨rfl, -⟩ | h')
        · exact Or.inl rfl
        · exact Or.inr (Or.inr h')
      · rintro (rfl | ⟨rfl, -⟩ | h')
        · exact Or.inl ⟨rfl, rfl⟩
        · exact Or.inl ⟨rfl, rfl⟩
        · exact Or.inr h'
    · have htail : s ∈ es.map SsidEntry.ssid := by
        rw [List.map_cons, List.mem_cons] at h
        exact h.resolve_left he
      obtain ⟨es', heq, hmap, hhides⟩ := ih htail
      refine ⟨e :: es', by rw [if_neg he, heq]; rfl, by rw [List.map_cons, List.map_cons, hmap],
        fun s' => ?_⟩
      rw [hides_cons, hides_cons, hhides]
      tauto

theorem markHidden_eq_none {s : Ssid} (h : s ∉ es.map SsidEntry.ssid) : markHidden s es = none := by
  induction es with
  | nil => rfl
  | cons e es ih =>
    rw [List.map_cons, List.mem_cons, not_or] at h
    rw [markHidden, if_neg h.1, ih h.2]
    rfl

/-- All SSIDs of the request are found exactly if each of them that is not empty is the SSID of an
entry; then exactly these are hidden. -/
theorem markAll_spec (ss : List Ssid) (es : List SsidEntry) :
    (markAll ss es).1.map SsidEntry.ssid = es.map SsidEntry.ssid ∧
      ((markAll ss es).2 = true ↔ ∀ s ∈ ss, s.Named → s ∈ es.map SsidEntry.ssid) ∧
      ((markAll ss es).2 = true →
        ∀ s', Hides (markAll ss es).1 s' ↔ (s' ∈ ss ∧ s'.Named) ∨ Hides es s') := by
  induction ss generalizing es with
  | nil => simp [markAll]
  | cons s ss ih =>
    rw [markAll]
    by_cases hnamed : s.Named
    · rw [if_neg (not_not.mpr hnamed)]
      by_cases hmem : s ∈ es.map SsidEntry.ssid
      · obtain ⟨es', heq, hmap, hhides⟩ := markHidden_spec hmem
        obtain ⟨hmap', hfound, hhides'⟩ := ih es'
        rw [heq]
        rw [hmap] at hmap' hfound
        refine ⟨hmap', ?_, fun hok s' => ?_⟩
        · rw [hfound, List.forall_mem_cons]
          exact ⟨fun h => ⟨fun _ => hmem, h⟩, fun h => h.2⟩
        · rw [hhides' hok, hhides, List.mem_cons]
          constructor
          · rintro (⟨hin, hn⟩ | rfl | h)
            · exact Or.inl ⟨Or.inr hin, hn⟩
            · exact Or.inl ⟨Or.inl rfl, hnamed⟩
            · exact Or.inr h
          · rintro (⟨rfl | hin, hn⟩ | h)
            · exact Or.inr (Or.inl rfl)
            · exact Or.inl ⟨hin, hn⟩
            · exact Or.inr (Or.inr h)
      · rw [markHidden_eq_none hmem]
        refine ⟨rfl, ⟨fun h => (by cases h), fun h => ?_⟩, fun h => (by cases h)⟩
        exact absurd (h s List.mem_cons_self hnamed) hmem
    · rw [if_pos hnamed]
      obtain ⟨hmap, hfound, hhides⟩ := ih es
      refine ⟨hmap, ?_, fun hok s' => ?_⟩
      · rw [hfound, List.forall_mem_cons]
        exact ⟨fun h => ⟨fun hn => absurd hn hnamed, h⟩, fun h => h.2⟩
      · rw [hhides hok, List.mem_cons]
        constructor
        · rintro (⟨hin, hn⟩ | h)
          · exact Or.inl ⟨Or.inr hin, hn⟩
          · exact Or.inr h
        · rintro (⟨rfl | hin, hn⟩ | h)
          · exact absurd hn hnamed
          · exact Or.inl ⟨hin, hn⟩
          · exact Or.inr h

/-! ## The command -/

theorem countP_named_eq_zero :
    (sets.countP fun set => set.ssid.Named) = 0 ↔ ∀ set ∈ sets, ¬set.ssid.Named := by
  simp [List.countP_eq_zero]

/-- The request has no SSID, or the broadcast SSID only. -/
def NoSsids (ssids : List Ssid) : Prop := ssids = [] ∨ ∃ s, ssids = [s] ∧ ¬s.Named

theorem noSsids_iff (ssids : List Ssid) :
    (ssids.length = 0 ∨ singleSsid (fun s => ¬s.Named) ssids = true) ↔ NoSsids ssids := by
  match ssids with
  | [] => simp [NoSsids]
  | [s] => simp [NoSsids, singleSsid]
  | s :: s' :: l => simp [NoSsids, singleSsid]

/-- The loop over the SSIDs is skipped only if it would do nothing. -/
theorem markAll_of_skipped {ssids : List Ssid} (es : List SsidEntry)
    (h : ¬(1 < ssids.length ∨ singleSsid (fun s => s.Named) ssids = true)) :
    markAll ssids es = (es, true) := by
  match ssids with
  | [] => rfl
  | [s] =>
    have hnot : ¬s.Named := fun hs => h (Or.inr (by simp [singleSsid, hs]))
    rw [markAll, if_pos hnot]
    rfl
  | s :: s' :: l => exact absurd (Or.inl (by simp)) h

/-- The match sets with an SSID, as entries. -/
def matchEntries (sets : List MatchSet) : List SsidEntry :=
  (sets.filter fun set => set.ssid.Named).map fun set => ⟨.public, set.ssid⟩

theorem matchEntries_ssids :
    (matchEntries sets).map SsidEntry.ssid = (sets.map MatchSet.ssid).filter (·.Named) := by
  rw [matchEntries, List.map_map, List.filter_map]
  rfl

theorem not_hides_matchEntries (s : Ssid) : ¬Hides (matchEntries sets) s := by
  rintro ⟨e, he, -, hhidden⟩
  obtain ⟨set, -, rfl⟩ := List.mem_map.mp he
  cases hhidden

/-- With match SSIDs the loop is what decides. -/
theorem scanSetSsidList_match (h : ∃ set ∈ req.matchSets, set.ssid.Named) :
    wl12xxScanSetSsidList true none req =
      match markAll req.ssids (matchEntries req.matchSets) with
      | (ssids, false) => ⟨.error .einval, ssids, false⟩
      | (ssids, true) => ⟨.ok .list, ssids, true⟩ := by
  have hcount : (req.matchSets.countP fun set => set.ssid.Named) ≠ 0 := by
    rw [ne_eq, countP_named_eq_zero]
    push Not
    exact h
  rw [wl12xxScanSetSsidList]
  simp only [hcount, false_and, if_false, Bool.true_eq_false]
  by_cases hloop : 1 < req.ssids.length ∨ singleSsid (fun s => s.Named) req.ssids = true
  · rw [if_pos hloop]
    rfl
  · rw [if_neg hloop, markAll_of_skipped _ hloop]
    rfl

/-- Without match SSIDs the SSIDs of the request are sent, if there are any. -/
theorem scanSetSsidList_no_match (h : ∀ set ∈ req.matchSets, ¬set.ssid.Named) :
    (NoSsids req.ssids → wl12xxScanSetSsidList true none req = ⟨.ok .any, [], false⟩) ∧
      (¬NoSsids req.ssids → wl12xxScanSetSsidList true none req =
        ⟨.ok .disabled, req.ssids.map fun s => ⟨if s.Named then .hidden else .public, s⟩,
          true⟩) := by
  have hcount := (countP_named_eq_zero req.matchSets).mpr h
  constructor
  · intro hno
    exact if_pos ⟨hcount, (noSsids_iff req.ssids).mpr hno⟩
  · intro hsome
    rw [wl12xxScanSetSsidList, if_neg fun hany => hsome ((noSsids_iff req.ssids).mp hany.2),
      if_neg (by decide), if_pos hcount]
    rfl

/-- Every non-empty SSID of the request is a match SSID exactly if it is the SSID of an entry. -/
theorem exists_not_mem_matchEntries :
    (¬∀ s ∈ req.ssids, s.Named → s ∈ (matchEntries req.matchSets).map SsidEntry.ssid) ↔
      ∃ s ∈ req.ssids, s.Named ∧ s ∉ req.matchSets.map MatchSet.ssid := by
  rw [matchEntries_ssids]
  push Not
  refine exists_congr fun s => and_congr_right fun _ => and_congr_right fun hs => not_congr ?_
  rw [List.mem_filter]
  exact and_iff_left (by simpa using hs)

/-- The result for every request within the limits. -/
theorem scanSetSsidList_spec (req : SchedScanRequest)
    (hssids : req.ssids.length ≤ maxSchedScanSsids)
    (hsets : req.matchSets.length ≤ maxMatchSets) :
    let r := wl12xxScanSetSsidList true none req
    r.ssids.length ≤ schedScanMaxSsids ∧
    ((∀ set ∈ req.matchSets, ¬set.ssid.Named) →
      (NoSsids req.ssids → r.ret = .ok .any ∧ r.sent = false) ∧
      (¬NoSsids req.ssids → r.ret = .ok .disabled ∧ r.sent = true ∧
        r.ssids = req.ssids.map fun s => ⟨if s.Named then .hidden else .public, s⟩)) ∧
    ((∃ set ∈ req.matchSets, set.ssid.Named) →
      (r.ret = .error .einval ↔
        ∃ s ∈ req.ssids, s.Named ∧ s ∉ req.matchSets.map MatchSet.ssid) ∧
      (r.ret ≠ .error .einval → r.ret = .ok .list ∧ r.sent = true ∧
        r.ssids.map SsidEntry.ssid = (req.matchSets.map MatchSet.ssid).filter (·.Named) ∧
        ∀ s ∈ r.ssids.map SsidEntry.ssid, Hides r.ssids s ↔ s ∈ req.ssids)) := by
  intro r
  by_cases hmatch : ∃ set ∈ req.matchSets, set.ssid.Named
  · obtain ⟨hmap, hfound, hhides⟩ := markAll_spec req.ssids (matchEntries req.matchSets)
    have hr : r = _ := scanSetSsidList_match req hmatch
    have hnot := exists_not_mem_matchEntries req
    rw [← hfound] at hnot
    rw [matchEntries_ssids] at hmap
    have hlen : (markAll req.ssids (matchEntries req.matchSets)).1.length ≤ schedScanMaxSsids := by
      have hle := List.length_filter_le (·.Named) (req.matchSets.map MatchSet.ssid)
      rw [← hmap, List.length_map, List.length_map] at hle
      exact hle.trans hsets
    have hpublic := not_hides_matchEntries req.matchSets
    generalize markAll req.ssids (matchEntries req.matchSets) = marked at hr hmap hhides hnot hlen
    have hcontra : ¬∀ set ∈ req.matchSets, ¬set.ssid.Named := by
      push Not
      exact hmatch
    obtain ⟨ssids, _ | _⟩ := marked
    · rw [hr]
      exact ⟨hlen, fun h => absurd h hcontra, fun _ =>
        ⟨iff_of_true rfl (hnot.mp Bool.false_ne_true), fun h => absurd rfl h⟩⟩
    · rw [hr]
      refine ⟨hlen, fun h => absurd h hcontra, fun _ => ⟨iff_of_false ?_ ?_, fun _ =>
        ⟨rfl, rfl, hmap, fun s hs => ?_⟩⟩⟩
      · exact fun h => by cases h
      · exact fun h => hnot.mpr h rfl
      · have hnamed : s.Named := by
          have hs' : s ∈ ssids.map SsidEntry.ssid := hs
          rw [hmap, List.mem_filter] at hs'
          simpa using hs'.2
        rw [hhides rfl, or_iff_left (hpublic s)]
        exact and_iff_left hnamed
  · have hnone : ∀ set ∈ req.matchSets, ¬set.ssid.Named := by
      push Not at hmatch
      exact hmatch
    obtain ⟨hno, hsome⟩ := scanSetSsidList_no_match req hnone
    refine ⟨?_, fun _ => ⟨fun h => ?_, fun h => ?_⟩, fun h => absurd h hmatch⟩
    · by_cases hcase : NoSsids req.ssids
      · rw [show r = _ from hno hcase]
        exact Nat.zero_le _
      · rw [show r = _ from hsome hcase, List.length_map]
        exact hssids
    · rw [show r = _ from hno h]
      exact ⟨rfl, rfl⟩
    · rw [show r = _ from hsome h]
      exact ⟨rfl, rfl, rfl⟩

/-- Two match sets with one SSID, and a request for it. -/
theorem scanSetSsidList_spec_twice :
    let ssid : Ssid := ⟨[97, 98], by decide⟩
    let req : SchedScanRequest := ⟨[⟨[], by decide⟩, ssid], [⟨ssid⟩, ⟨⟨[], by decide⟩⟩, ⟨ssid⟩]⟩
    (wl12xxScanSetSsidList true none req).ret = .ok .list ∧
      (wl12xxScanSetSsidList true none req).ssids = [⟨.hidden, ssid⟩, ⟨.public, ssid⟩] ∧
      (Hides (wl12xxScanSetSsidList true none req).ssids ssid ↔ ssid ∈ req.ssids) := by
  intro ssid req
  obtain ⟨-, -, hmatch⟩ := scanSetSsidList_spec req (by decide) (by decide)
  obtain ⟨hret, -, -, hhides⟩ := (hmatch ⟨⟨ssid⟩, by decide, by decide⟩).2 (by decide)
  exact ⟨hret, by decide, hhides ssid (by decide)⟩

end TiWlan.Iface
