-- SUMMARY: The tracked head never goes back, and who asks for the latest head is told it, unless a lagging poll of its own says less.
import EthRpc.Proofs.Machine.Lives
import EthRpc.Proofs.Tracker.Records

/-!
# What tasks learn of the head

The tracked head is the highest that any poll has reported. A task that asks for
the latest head is told the tracked one if it is fresh, and else what its own poll
reports: that is the tracked head from then on, or one below it if the node that
was polled lags behind.
-/

namespace EthRpc

namespace Machine

/-! ## The tracked head -/

/-- The tracked head has at least some number. -/
def Knows (m : Machine) (n : Nat) : Prop := ∃ h, m.tracker.head? = some h ∧ n ≤ h.number

section Knows

variable {m : Machine} {a : Action} {n : Nat} {h : BlockHead}

theorem head?_act_of_reported?_none (ha : m.reported? a = none) :
    (m.act a).tracker.head? = m.tracker.head? := by
  simp only [Tracker.head?, (tracker_act_of_reported?_none ha).1]

theorem knows_of_reported? (ha : m.reported? a = some h) : (m.act a).Knows h.number := by
  rw [Knows, tracker_act_of_reported? ha]
  obtain ⟨c, hc, hcases, -⟩ := m.tracker.observe_cases h m.now
  refine ⟨c, hc, ?_⟩
  rcases hcases with rfl | ⟨-, hle⟩
  · exact Nat.le_refl _
  · exact hle

theorem Knows.act (hm : m.Knows n) (a : Action) : (m.act a).Knows n := by
  obtain ⟨old, hold, hn⟩ := hm
  cases ha : m.reported? a with
  | none => exact ⟨old, (head?_act_of_reported?_none ha).trans hold, hn⟩
  | some h =>
    obtain ⟨c, hc, -, hmono⟩ := m.tracker.observe_cases h m.now
    rw [Knows, tracker_act_of_reported? ha]
    exact ⟨c, hc, Nat.le_trans hn (hmono old hold)⟩

theorem Knows.run (hm : m.Knows n) (actions : List Action) : (m.run actions).Knows n := by
  induction actions generalizing m with
  | nil => exact hm
  | cons a rest ih => exact ih (hm.act a)

/-- The tracked head never goes back. -/
theorem Knows.of_isPrefix {b b' : List Action} (hm : (m.run b).Knows n) (hb : b <+: b') :
    (m.run b').Knows n := by
  obtain ⟨rest, rfl⟩ := hb
  rw [run_append]
  exact hm.run rest

theorem reported_act (hr : (m.act a).Reported h) : m.Reported h ∨ m.reported? a = some h := by
  obtain ⟨time, t, hmem⟩ := hr
  rcases mem_log_act.1 hmem with ⟨-, he⟩ | hmem
  · refine .inr ?_
    generalize hevent : Event.polled t (.ok h) = e at he
    cases emits_of_mem_events he with
    | polled hold =>
      obtain ⟨rfl, hhead⟩ := Event.polled.inj hevent
      simp [reported?, endsPoll?, hold, ← hhead, Except.toOption]
    | _ => cases hevent
  · exact .inl ⟨time, t, hmem⟩

theorem exists_polled_of_reported? (ha : m.reported? a = some h) :
    ∃ t, .polled t (.ok h) ∈ m.events a := by
  obtain ⟨r, hend, hr⟩ := Option.bind_eq_some_iff.1 ha
  have hok : Tracker.polledHead r = .ok h := by
    cases hp : Tracker.polledHead r with
    | ok head => simpa [hp, Except.toOption] using hr
    | error e => simp [hp, Except.toOption] at hr
  unfold endsPoll? at hend
  split at hend
  next t =>
    split at hend
    next hold =>
      cases hend
      exact ⟨t, by simp [events, hold, hok]⟩
    next => cases hend
  next => cases hend

theorem reported_of_reported? (ha : m.reported? a = some h) : (m.act a).Reported h := by
  obtain ⟨t, hpolled⟩ := exists_polled_of_reported? ha
  exact ⟨m.now, t, mem_log_act.2 (.inl ⟨rfl, hpolled⟩)⟩

variable {settings : Tracker.Settings} {capacities : List Nat} {tables : Nat}
  {actions : List Action}

/-- The tracked head is as high as any that a poll has reported. -/
theorem Reported.knows (hr : ((start settings capacities tables).run actions).Reported h) :
    ((start settings capacities tables).run actions).Knows h.number := by
  induction actions using List.reverseRecOn with
  | nil =>
    obtain ⟨time, t, hmem⟩ := hr
    cases hmem
  | append_singleton actions a ih =>
    rw [run_concat] at hr ⊢
    rcases reported_act hr with hr | ha
    · exact (ih hr).act a
    · exact knows_of_reported? ha

/-- The tracked head is one that a poll has reported. -/
theorem reported_of_head?
    (hh : ((start settings capacities tables).run actions).tracker.head? = some h) :
    ((start settings capacities tables).run actions).Reported h := by
  induction actions using List.reverseRecOn generalizing h with
  | nil => cases hh
  | append_singleton actions a ih =>
    rw [run_concat] at hh ⊢
    have hsuffix := log_suffix_act ((start settings capacities tables).run actions) a
    cases ha : ((start settings capacities tables).run actions).reported? a with
    | none =>
      rw [head?_act_of_reported?_none ha] at hh
      exact (ih hh).of_suffix hsuffix
    | some head =>
      rw [tracker_act_of_reported? ha] at hh
      rcases Tracker.head?_observe hh with rfl | hold
      · exact reported_of_reported? ha
      · exact (ih hold).of_suffix hsuffix

end Knows

/-! ## Being told the latest head -/

/-- The head that a task is told as the latest one, or why it is told none. -/
def Told.latest? : Told → Option (Except RpcError BlockHead)
  | reply (.query .latest) r => some r
  | report .latest _ r => some (Tracker.polledHead r)
  | _ => none

/-- A task that asked for the latest head has polled one that is below the tracked head. -/
def Lags (m : Machine) (t : TaskId) (h : BlockHead) : Prop :=
  ∃ r k current, m.activity? t = some (.polled r (.query .latest k)) ∧
    Tracker.polledHead r = .ok h ∧ m.tracker.head? = some current ∧ h.number < current.number

/-- A task that asked for the latest head after some actions is told this one by the next action
after some more. -/
def Learns (m : Machine) (t : TaskId) (b b' : List Action) (a : Action) (h : BlockHead) : Prop :=
  ∃ d p p', m.Deals t b b' a d p p' ∧ d.latest? = some (.ok h)

section Latest

variable {m : Machine} {t : TaskId} {b b' : List Action} {a : Action} {d : Told} {p' : Program}
  {h : BlockHead}

/-- Who asks for the latest head goes on with what it is told about it. -/
theorem Deals.of_latest {k : Except RpcError BlockHead → Program}
    (hd : m.Deals t b b' a d (.ask (.query .latest) k) p') :
    ∃ r, d.latest? = some r ∧ p' = k r := by
  cases hd <;> exact ⟨_, rfl, rfl⟩

/-- Who asks for the known head is told the tracked one. -/
theorem Deals.of_currentHead {k : Option BlockHead → Program}
    (hd : m.Deals t b b' a d (.ask .currentHead k) p') :
    d = .reply .currentHead (m.run b).tracker.head? ∧ p' = k (m.run b).tracker.head? := by
  cases hd with
  | reply _ hr =>
    cases hr
    exact ⟨rfl, rfl⟩

/-- The head that a task is told is the tracked one, or one below it if its own poll lagged. -/
theorem Learns.tracked (hl : m.Learns t b b' a h) :
    ∃ current, (m.run (b' ++ [a])).tracker.head? = some current ∧
      (h.number = current.number ∨ h.number < current.number ∧ (m.run b').Lags t h) := by
  obtain ⟨d, p, p', hd, htold⟩ := hl
  rw [run_concat]
  cases hd with
  | @reply c k a hold hr =>
    cases hr with
    | @known q a ha =>
      cases q with
      | latest =>
        cases htold
        have hnone : (m.run b).reported? (.step t) = none := by
          simp [reported?, endsPoll?, hold]
        refine ⟨h, ?_, .inl rfl⟩
        rw [head?_act_of_reported?_none hnone]
        exact Tracker.head?_of_answer? ha
      | _ => cases htold
    | _ => cases htold
  | @learn _ q k old a _ _ hold hlooks ha =>
    cases q with
    | latest =>
      cases htold
      have hnone : (m.run b').reported? (.step t) = none := by
        cases hlooks <;> simp [reported?, endsPoll?, hold]
      refine ⟨h, ?_, .inl rfl⟩
      rw [head?_act_of_reported?_none hnone]
      exact Tracker.head?_of_answer? ha
    | _ => cases htold
  | @report poll _ q k r _ _ hold =>
    -- The one way to be told another head than the tracked one.
    cases q with
    | latest =>
      have hr : Tracker.polledHead r = .ok h := Option.some.inj htold
      have hreported : (m.run b').reported? (.step t) = some h := by
        simp [reported?, endsPoll?, hold, hr, Except.toOption]
      rw [tracker_act_of_reported? hreported]
      obtain ⟨c, hc, hcases, -⟩ := (m.run b').tracker.observe_cases h (m.run b').now
      refine ⟨c, hc, ?_⟩
      rcases hcases with rfl | ⟨hhead, hle⟩
      · exact .inl rfl
      · rcases Nat.eq_or_lt_of_le hle with heq | hlt
        · exact .inl heq
        · exact .inr ⟨hlt, r, k, c, hold, hr, hhead, hlt⟩
    | _ => cases htold
  | _ => cases htold

theorem Learns.knows (hl : m.Learns t b b' a h) : (m.run (b' ++ [a])).Knows h.number := by
  obtain ⟨current, hhead, heq | ⟨hlt, -⟩⟩ := hl.tracked
  · exact ⟨current, hhead, Nat.le_of_eq heq⟩
  · exact ⟨current, hhead, Nat.le_of_lt hlt⟩

theorem Learns.isPrefix (hl : m.Learns t b b' a h) : b <+: b' := by
  obtain ⟨d, p, p', hd, -⟩ := hl
  exact hd.isPrefix

/-- Who asks when the tracked head has some number is told no lower one, unless its poll lags. -/
theorem Learns.le_of_knows {n : Nat} (hl : m.Learns t b b' a h) (hn : (m.run b).Knows n) :
    n ≤ h.number ∨ (m.run b').Lags t h := by
  obtain ⟨current, hhead, heq | ⟨-, hlags⟩⟩ := hl.tracked
  · obtain ⟨c, hc, hle⟩ := hn.of_isPrefix (hl.isPrefix.trans (List.prefix_append b' [a]))
    rw [hhead] at hc
    cases hc
    exact .inl (heq ▸ hle)
  · exact .inr hlags

end Latest

end Machine

end EthRpc
