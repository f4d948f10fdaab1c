-- SUMMARY: The history of the tracked head is the list of records among the heads that polls report.
import Mathlib.Data.List.Induction
import EthRpc.Proofs.Machine.Effect

/-!
# Records

A head is a record if its number is above those of all heads reported before it.
Over any run, the changes of the tracked head are the records in their order,
each linked to the one before, and the tracked head is the last of them. What is
no successful poll leaves no trace.
-/

namespace EthRpc

/-! ## Records of a list of heads -/

namespace BlockHead

/-- The heads with a number above those of all heads before them. -/
def records (hs : List BlockHead) : List BlockHead :=
  (hs.zipIdx.filter fun p => (hs.take p.2).all (·.number < p.1.number)).map (·.1)

@[simp] theorem records_nil : records [] = [] := rfl

theorem records_append (hs : List BlockHead) (h : BlockHead) :
    records (hs ++ [h]) =
      records hs ++ if hs.all (·.number < h.number) then [h] else [] := by
  have hold : hs.zipIdx.filter
      (fun p => ((hs ++ [h]).take p.2).all (·.number < p.1.number)) =
      hs.zipIdx.filter fun p => (hs.take p.2).all (·.number < p.1.number) := by
    apply List.filter_congr
    intro p hp
    have hlt : p.2 < hs.length := by simpa using (List.mem_zipIdx hp).2.1
    rw [List.take_append_of_le_length (Nat.le_of_lt hlt)]
  simp only [records, List.zipIdx_append, List.filter_append, List.map_append, hold]
  congr 1
  by_cases hall : hs.all (·.number < h.number) <;> simp [hall]

/-- The last record is as high as any head. -/
theorem exists_last_record {hs : List BlockHead} (hne : hs ≠ []) :
    ∃ r, (records hs).getLast? = some r ∧ ∀ h ∈ hs, h.number ≤ r.number := by
  induction hs using List.reverseRecOn with
  | nil => exact absurd rfl hne
  | append_singleton hs h ih =>
    rw [records_append]
    by_cases hall : hs.all (·.number < h.number)
    · refine ⟨h, by simp [hall], fun x hx => ?_⟩
      simp only [List.all_eq_true, decide_eq_true_eq] at hall
      rcases List.mem_append.1 hx with hx | hx
      · exact Nat.le_of_lt (hall x hx)
      · exact Nat.le_of_eq (by rw [List.mem_singleton.1 hx])
    · have hhs : hs ≠ [] := by
        rintro rfl
        simp at hall
      obtain ⟨r, hr, hmax⟩ := ih hhs
      refine ⟨r, by simp [hall, hr], fun x hx => ?_⟩
      simp only [List.all_eq_true, decide_eq_true_eq, not_forall, Nat.not_lt] at hall
      obtain ⟨y, hy, hle⟩ := hall
      rcases List.mem_append.1 hx with hx | hx
      · exact hmax x hx
      · rw [List.mem_singleton.1 hx]
        exact Nat.le_trans hle (hmax y hy)

/-- Only the last record needs to be looked at to tell whether the next head is one. -/
theorem all_lt_iff_last {hs : List BlockHead} {r : BlockHead} {n : Nat}
    (hr : (records hs).getLast? = some r) : (∀ h ∈ hs, h.number < n) ↔ r.number < n := by
  have hmem : r ∈ hs := by
    obtain ⟨p, hp, rfl⟩ := List.mem_map.1 (List.mem_of_getLast? hr)
    exact List.fst_mem_of_mem_zipIdx (List.mem_filter.1 hp).1
  have hne : hs ≠ [] := List.ne_nil_of_mem hmem
  obtain ⟨r', hr', hmax⟩ := exists_last_record hne
  obtain rfl : r = r' := by simpa [hr] using hr'
  exact ⟨fun h => h r hmem, fun h x hx => Nat.lt_of_le_of_lt (hmax x hx) h⟩

end BlockHead

namespace HeadChange

/-- The changes by which a head moves through a list of heads. -/
def links (hs : List BlockHead) : List HeadChange :=
  List.zipWith HeadChange.mk (none :: hs.map some) hs

theorem links_append (hs : List BlockHead) (h : BlockHead) :
    links (hs ++ [h]) = links hs ++ [⟨hs.getLast?, h⟩] := by
  -- The induction needs any head in front of the list.
  have key : ∀ (hs : List BlockHead) (p : Option BlockHead),
      List.zipWith HeadChange.mk (p :: (hs ++ [h]).map some) (hs ++ [h]) =
        List.zipWith HeadChange.mk (p :: hs.map some) hs ++
          [⟨(hs.getLast?.map some).getD p, h⟩] := by
    intro hs
    induction hs with
    | nil => intro p; rfl
    | cons x hs ih =>
      intro p
      have hx := ih (some x)
      simp only [List.cons_append, List.map_cons, List.zipWith_cons_cons, hx]
      cases hs <;> simp [List.getLast?_cons]
  have hlast : (hs.getLast?.map some).getD none = hs.getLast? := by
    cases hs.getLast? <;> rfl
  rw [links, key hs none, hlast]
  rfl

theorem current_links (hs : List BlockHead) : (links hs).map (·.current) = hs := by
  induction hs using List.reverseRecOn with
  | nil => rfl
  | append_singleton hs h ih => rw [links_append, List.map_append, ih]; rfl

end HeadChange

/-! ## Polls of a run -/

namespace Machine

/-- The head that an action brings to the tracker's notice, by the end of a successful poll. -/
def reported? (m : Machine) (a : Action) : Option BlockHead :=
  (m.endsPoll? a).bind fun r => (Tracker.polledHead r).toOption

/-- The heads that successful polls report in a run, and when. -/
def reports (m : Machine) : List Action → List (Duration × BlockHead)
  | [] => []
  | a :: rest => ((m.reported? a).map (m.now, ·)).toList ++ (m.act a).reports rest

/-- An action without a report leaves the tracked head, its time and its history alone. -/
theorem tracker_act_of_reported?_none {m : Machine} {a : Action} (h : m.reported? a = none) :
    (m.act a).tracker.observed = m.tracker.observed ∧
      (m.act a).tracker.changes = m.tracker.changes := by
  rw [(effect_act m a).tracker]
  unfold trackerAfter
  unfold reported? at h
  cases hr : m.endsPoll? a with
  | none =>
    dsimp only
    split <;> exact ⟨rfl, rfl⟩
  | some r =>
    cases hp : Tracker.polledHead r with
    | error e => simp [hp, Tracker.digest]
    | ok head => simp [hr, hp, Except.toOption] at h

theorem tracker_act_of_reported? {m : Machine} {a : Action} {head : BlockHead}
    (h : m.reported? a = some head) : (m.act a).tracker = m.tracker.observe head m.now := by
  rw [(effect_act m a).tracker]
  unfold trackerAfter
  unfold reported? at h
  cases hr : m.endsPoll? a with
  | none => simp [hr] at h
  | some r =>
    cases hp : Tracker.polledHead r with
    | error e => simp [hr, hp, Except.toOption] at h
    | ok head' =>
      obtain rfl : head' = head := by simpa [hr, hp, Except.toOption] using h
      simp [hp, Tracker.digest]

end Machine

namespace Tracker

/-- The tracker has seen these reports, in this order, and nothing else. -/
structure HasSeen (t : Tracker) (reports : List (Duration × BlockHead)) : Prop where
  changes : t.changes = HeadChange.links (BlockHead.records (reports.map (·.2)))
  head : t.head? = (BlockHead.records (reports.map (·.2))).getLast?
  time : t.observed.map (·.2) = reports.getLast?.map (·.1)

theorem hasSeen_start (settings : Settings) : (start settings).HasSeen [] := ⟨rfl, rfl, rfl⟩

theorem HasSeen.observe {t : Tracker} {reports : List (Duration × BlockHead)}
    (hs : t.HasSeen reports) (h : BlockHead) (now : Duration) :
    (t.observe h now).HasSeen (reports ++ [(now, h)]) := by
  have hrecords := BlockHead.records_append (reports.map (·.2)) h
  unfold Tracker.observe
  cases hhead : t.head? with
  | none =>
    -- Nothing was reported before, so the head is a record.
    have hnil : reports.map (·.2) = [] := by
      by_contra hne
      obtain ⟨r, hr, -⟩ := BlockHead.exists_last_record hne
      simp [← hs.head, hhead] at hr
    have hlinks : t.changes = [] := by rw [hs.changes, hnil]; rfl
    simp only [hnil, List.all_nil, if_true, BlockHead.records_nil, List.nil_append] at hrecords
    constructor <;> simp [head?, hnil, hlinks, hrecords, HeadChange.links]
  | some previous =>
    have hlast := hs.head.symm.trans hhead
    have hall := BlockHead.all_lt_iff_last (n := h.number) hlast
    dsimp only
    split
    next hle =>
      have hno : ¬(reports.map (·.2)).all (·.number < h.number) := by
        simp only [List.all_eq_true, decide_eq_true_eq, hall]
        omega
      rw [if_neg hno, List.append_nil] at hrecords
      constructor <;> simp [head?, hs.changes, hrecords, hlast]
    next hgt =>
      have hyes : (reports.map (·.2)).all (·.number < h.number) := by
        simp only [List.all_eq_true, decide_eq_true_eq, hall]
        omega
      rw [if_pos hyes] at hrecords
      constructor <;> simp [head?, hs.changes, hrecords, hlast, HeadChange.links_append]

end Tracker

namespace Machine

theorem hasSeen_act {m : Machine} {reports : List (Duration × BlockHead)}
    (hs : m.tracker.HasSeen reports) (a : Action) :
    (m.act a).tracker.HasSeen (reports ++ ((m.reported? a).map (m.now, ·)).toList) := by
  cases h : m.reported? a with
  | none =>
    obtain ⟨hobserved, hchanges⟩ := tracker_act_of_reported?_none h
    constructor
    · simpa [hchanges] using hs.changes
    · simpa [Tracker.head?, hobserved] using hs.head
    · simpa [hobserved] using hs.time
  | some head =>
    rw [tracker_act_of_reported? h]
    exact hs.observe head m.now

theorem hasSeen_run {m : Machine} {reports : List (Duration × BlockHead)}
    (hs : m.tracker.HasSeen reports) (actions : List Action) :
    (m.run actions).tracker.HasSeen (reports ++ m.reports actions) := by
  induction actions generalizing m reports with
  | nil => simpa [Machine.reports] using hs
  | cons a rest ih =>
    have h := ih (hasSeen_act hs a)
    rwa [List.append_assoc] at h

/-- Over any run of any tasks, the changes that were announced are the records among the heads
that polls reported, the tracked head is the last of them, and it was last confirmed by the
last report. What reports no head, such as a failed, malformed or abandoned poll, changes
none of this. -/
theorem changes_eq_links_records (settings : Tracker.Settings) (capacities : List Nat)
    (tables : Nat) (actions : List Action) :
    let reports := (start settings capacities tables).reports actions
    let m := (start settings capacities tables).run actions
    m.tracker.changes = HeadChange.links (BlockHead.records (reports.map (·.2))) ∧
      m.tracker.head? = m.tracker.changes.getLast?.map (·.current) ∧
      m.tracker.observed.map (·.2) = reports.getLast?.map (·.1) ∧
      ∀ a, m.reported? a = none →
        (m.act a).tracker.observed = m.tracker.observed ∧
          (m.act a).tracker.changes = m.tracker.changes := by
  intro reports m
  have hs : m.tracker.HasSeen reports := by
    simpa using hasSeen_run (m := start settings capacities tables)
      (Tracker.hasSeen_start settings) actions
  refine ⟨hs.changes, ?_, hs.time, fun a ha => tracker_act_of_reported?_none ha⟩
  rw [← List.getLast?_map, hs.changes, HeadChange.current_links, hs.head]

end Machine

end EthRpc
