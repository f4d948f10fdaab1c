-- SUMMARY: The moments of a task that reads through a cache: its lookup, the run that it shares, what it hears and keeps.
import EthRpc.Proofs.Machine.Lives
import EthRpc.Proofs.Program.Reads
import EthRpc.Proofs.Stage.Inflight

/-!
# Readers

A reader looks for its key at one moment of a run. If nothing was there, it goes
to the table of shared runs at a later moment, waits for the run that it joined
or started there, and may keep the value that it hears under the key. Between
these moments the other tasks may do anything.
-/

namespace EthRpc.Machine

/-! ## Moments -/

/-- Of two moments of a run, one is before the action after the other, or behind it. -/
theorem prefix_or_behind {b c actions : List Action} {a : Action} (hb : b ++ [a] <+: actions)
    (hc : c <+: actions) : c <+: b ∨ b ++ [a] <+: c := by
  rcases List.prefix_or_prefix_of_prefix hc hb with h | h
  · rcases List.prefix_concat_iff.1 h with rfl | h
    · exact .inr (List.prefix_refl _)
    · exact .inl h
  · exact .inr h

/-- Two tasks do not take the same step, and one does not take two at once. -/
theorem step_cases {b c actions : List Action} {t u : TaskId} (hb : b ++ [.step t] <+: actions)
    (hc : c ++ [.step u] <+: actions) :
    b = c ∧ t = u ∨ b ++ [.step t] <+: c ∨ c ++ [.step u] <+: b := by
  have hcb : c <+: actions := (List.prefix_append _ _).trans hc
  rcases prefix_or_behind hb hcb with h | h
  · rcases prefix_or_behind hc ((List.prefix_append b _).trans hb) with h' | h'
    · obtain rfl := h.eq_of_length_le h'.length_le
      have hstep := (List.prefix_of_prefix_length_le hb hc (by simp)).eq_of_length (by simp)
      exact .inl ⟨rfl, by simpa using hstep⟩
    · exact .inr (.inr h')
  · exact .inr (.inl h)

/-- A task that does not take its step stays where it is, or is taken down or away. -/
theorem running_of_not_step {m : Machine} {t : TaskId} {b actions : List Action} {p : Program}
    (hold : (m.run b).activity? t = some (.running p)) (hb : b <+: actions)
    (hnot : ∀ c, b <+: c → c ++ [.step t] <+: actions →
      (m.run c).activity? t ≠ some (.running p)) :
    (m.run actions).activity? t = some (.running p) ∨
      (m.run actions).activity? t = some .crashed ∨
        (m.run actions).activity? t = some .cancelled := by
  obtain ⟨rest, rfl⟩ := hb
  induction rest using List.reverseRecOn with
  | nil => exact .inl (by simpa using hold)
  | append_singleton rest a ih =>
    have hlast : b ++ rest ++ [a] = b ++ (rest ++ [a]) := List.append_assoc ..
    rw [← hlast] at hnot ⊢
    rw [run_concat]
    rcases ih fun c hbc hc => hnot c hbc (hc.trans (List.prefix_append _ _)) with h | h | h
    · obtain ⟨new, hnew, hmoves⟩ := movesTo_act _ a t _ h
      cases hmoves with
      | stay | stopped => exact .inl hnew
      | own => exact absurd h (hnot _ (List.prefix_append _ _) (List.prefix_refl _))
      | crashed => exact .inr (.inl hnew)
      | cancelled => exact .inr (.inr hnew)
    · exact .inr (.inl (activity?_act_of_isOver h rfl a))
    · exact .inr (.inr (activity?_act_of_isOver h rfl a))

/-! ## Entering a run -/

/-- After some actions, a task is about to join a run under a key or to start it. -/
def Enters (m : Machine) (t : TaskId) (b : List Action) (key : String) (u : TaskId)
    (k : Outcome → Program) : Prop :=
  ∃ run, (m.run b).activity? t = some (.running (.share 0 key run k)) ∧
    ((∃ e, (m.run b).sharedRun? 0 key = some e ∧ e.run = u) ∨
      (m.run b).sharedRun? 0 key = none ∧ (m.run b).tasks.size = u)

/-- The task that leads a run. -/
def leader? (m : Machine) (u : TaskId) : Option TaskId :=
  match m.role? u with
  | some (.run _ _ leader) => some leader
  | _ => none

theorem leader?_eq_some_iff {m : Machine} {t u : TaskId} :
    m.leader? u = some t ↔ ∃ i key, m.role? u = some (.run i key t) := by
  unfold leader?
  split <;> simp_all

section Enters

variable {m : Machine} {a : Action} {t u : TaskId} {b c actions : List Action} {old new : Activity}
  {key : String} {k : Outcome → Program}

theorem Enters.waits (h : m.Enters t b key u k) :
    ∃ wait lost, WaitsFor u k wait lost ∧ (m.run (b ++ [.step t])).activity? t = some wait := by
  obtain ⟨run, hold, hentered⟩ := h
  obtain ⟨-, new, hnew, hadvances⟩ := advancesTo_advance hold rfl
  rw [run_concat]
  cases hadvances with
  | join hs =>
    rcases hentered with ⟨e, he, rfl⟩ | ⟨hnone, -⟩
    · rw [hs] at he
      cases he
      exact ⟨_, _, .joined, hnew⟩
    · rw [hs] at hnone
      cases hnone
  | lead hs =>
    rcases hentered with ⟨e, he, -⟩ | ⟨-, rfl⟩
    · rw [hs] at he
      cases he
    · exact ⟨_, _, .leading, hnew⟩
  | learn hl _ | poll hl _ | give hl => cases hl

/-- Who shares a run under a key joins or starts one. -/
theorem exists_enters {run : Program}
    (hold : (m.run b).activity? t = some (.running (.share 0 key run k))) :
    ∃ u, m.Enters t b key u k := by
  cases hshared : (m.run b).sharedRun? 0 key with
  | some e => exact ⟨e.run, run, hold, .inl ⟨e, hshared, rfl⟩⟩
  | none => exact ⟨_, run, hold, .inr ⟨hshared, rfl⟩⟩

theorem Enters.eq {u' : TaskId} {k' : Outcome → Program} (h : m.Enters t b key u k)
    (h' : m.Enters t b key u' k') : u = u' := by
  obtain ⟨run, -, ⟨e, he, rfl⟩ | ⟨hnone, rfl⟩⟩ := h
  all_goals
    obtain ⟨run', -, ⟨e', he', rfl⟩ | ⟨hnone', rfl⟩⟩ := h'
    all_goals simp_all

theorem Enters.role? (h : m.Enters t b key u k) (hm : (m.run b).Orderly)
    (hc : b ++ [.step t] <+: c) : ∃ leader, (m.run c).role? u = some (.run 0 key leader) := by
  obtain ⟨run, hold, hentered⟩ := h
  obtain ⟨rest, rfl⟩ := hc
  rw [run_append, run_concat]
  rcases hentered with ⟨e, he, rfl⟩ | ⟨hnone, rfl⟩
  · obtain ⟨hlisted, rfl⟩ := hm.sharedRun?_eq_some_iff.1 he
    obtain ⟨⟨leader, hrole⟩, -⟩ := hm.listed hlisted
    exact ⟨leader, role?_run (role?_act hrole _) rest⟩
  · have hleads : m.Leads t b 0 key run k := ⟨hold, hnone⟩
    exact ⟨t, role?_run (role?_act_of_fresh hleads.spawned?) rest⟩

/-- A run that was entered is over, or else it is the one that can be joined. -/
theorem Enters.over_or_shared {settings : Tracker.Settings} {capacities : List Nat} {tables : Nat}
    (h : (start settings capacities (tables + 1)).Enters t b key u k) (hc : b ++ [.step t] <+: c) :
    (∃ old, ((start settings capacities (tables + 1)).run c).activity? u = some old ∧ old.isOver) ∨
      ∃ e, ((start settings capacities (tables + 1)).run c).sharedRun? 0 key = some e ∧
        e.run = u := by
  have horderly := fun now => (orderly_start settings capacities (tables + 1)).run now
  obtain ⟨leader, hrole⟩ := h.role? (horderly b) hc
  obtain ⟨old, hold⟩ := exists_activity? (lt_size_of_role? hrole)
  cases hover : old.isOver with
  | true => exact .inl ⟨old, hold, hover⟩
  | false =>
    have hsize : 0 < ((start settings capacities (tables + 1)).run c).tables.size := by
      simp [tables_size_run, start]
    obtain ⟨e, he, hkey, hrun⟩ := (horderly c).known hsize ⟨⟨leader, hrole⟩, old, hold, hover⟩
    exact .inr ⟨e, (horderly c).sharedRun?_eq_some_iff.2 ⟨he, hkey⟩, hrun⟩

/-- Who has heard a value under a key entered a run, which has returned the value. -/
theorem Deals.exists_enters {b' : List Action} {run p : Program} {v : Json}
    (h : m.Deals t b b' a (.outcome 0 key run (.ok v)) (.share 0 key run k) p) :
    ∃ u, m.Enters t b key u k ∧ b ++ [.step t] <+: b' ∧
      (m.run (b' ++ [a])).activity? u = some (.finished (.ok v)) := by
  rw [run_concat]
  cases h with
  | join hold hlater he _ hend =>
    refine ⟨_, ⟨run, hold, .inl ⟨_, he, rfl⟩⟩, hlater, ?_⟩
    rcases hend.activity? with ⟨hfinished, -⟩ | ⟨-, herror, -⟩
    · exact hfinished
    · cases herror
  | lead hold hlater hnone _ hend =>
    refine ⟨_, ⟨run, hold, .inr ⟨hnone, rfl⟩⟩, hlater, ?_⟩
    rcases hend.activity? with ⟨hfinished, rfl⟩ | ⟨-, -, herror⟩
    · exact hfinished
    · cases herror

/-- After a run is over, who entered it was taken away, or has come to go on with the outcome. -/
theorem Enters.of_finished {r : Outcome} (h : m.Enters t b key u k) (hm : (m.run actions).Orderly)
    (hb : b ++ [.step t] <+: actions) (hover : (m.run actions).activity? u = some (.finished r)) :
    (m.run actions).activity? t = some .cancelled ∨
      ∃ c, c <+: actions ∧ (m.run c).activity? t = some (.running (k r)) := by
  obtain ⟨wait, lost, hw, hwaits⟩ := h.waits
  obtain ⟨rest, rfl⟩ := hb
  rw [run_append] at hm hover ⊢
  rcases waits_run hw hwaits rest with hstill | hcancelled | ⟨pre, post, s, rfl, hgoes, hend⟩
  · obtain ⟨old, hold, hnot⟩ := hm.run_not_over hw hstill
    rw [hover] at hold
    cases hold
    cases hnot
  · exact .inl hcancelled
  · refine .inr ⟨b ++ [.step t] ++ pre, ?_, ?_⟩
    · exact (List.prefix_append_right_inj _).2 (List.prefix_append _ _)
    · rw [run_append] at hover ⊢
      rcases hend with hfinished | ⟨hcrashed, -⟩
      · rw [activity?_run_of_isOver hfinished rfl] at hover
        cases hover
        exact hgoes
      · rw [activity?_run_of_isOver hcrashed rfl] at hover
        cases hover

end Enters

/-! ## Coming to an end -/

/-- If nothing crashes then a run is over before its leader comes to an end. -/
theorem Leads.exists_finished {settings : Tracker.Settings} {capacities : List Nat} {tables i : Nat}
    {b actions : List Action} {leader : TaskId} {key : String} {run : Program}
    {k : Outcome → Program} {o : Outcome}
    (h : (start settings capacities tables).Leads leader b i key run k)
    (hb : b ++ [.step leader] <+: actions) (hcalm : Calm actions)
    (ho : ((start settings capacities tables).run actions).activity? leader = some (.finished o)) :
    ∃ r, ((start settings capacities tables).run actions).activity?
      ((start settings capacities tables).run b).tasks.size = some (.finished r) := by
  have hcrashed : ((start settings capacities tables).run actions).activity?
      ((start settings capacities tables).run b).tasks.size ≠ some .crashed := hcalm.not_crashed
  obtain ⟨rest, rfl⟩ := hb
  have hwaits := waits_run .leading h.waits rest
  rw [run_append] at ho hcrashed ⊢
  rcases hwaits with hstill | hcancelled | ⟨pre, post, r, rfl, -, hended⟩
  · rw [ho] at hstill
    cases hstill
  · rw [ho] at hcancelled
    cases hcancelled
  · rw [run_append] at hcrashed ⊢
    rcases hended with hfinished | ⟨hover, -⟩
    · exact ⟨r, activity?_run_of_isOver hfinished rfl post⟩
    · exact absurd (activity?_run_of_isOver hover rfl post) hcrashed

/-- A task is bound to end with an outcome, unless it is taken down or away. -/
inductive Activity.Returns (r : Outcome) : Activity → Prop where
  | concludes {key : String} {p : Program} : p.Concludes key r → Returns r (.running p)
  | finished : Returns r (.finished r)
  | crashed : Returns r .crashed
  | cancelled : Returns r .cancelled

theorem Activity.Returns.done {r : Outcome} : (running (.done r)).Returns r :=
  .concludes (.returns : Program.Concludes "" r _)

/-- A task ends with an outcome once it may take its last steps, if it has not been taken down or
away. -/
def Answered (m : Machine) (t : TaskId) (r : Outcome) : Prop :=
  m.activity? t = some .crashed ∨ m.activity? t = some .cancelled ∨
    ∃ n ≤ 2, (m.run (List.replicate n (.step t))).activity? t = some (.finished r)

section Returns

variable {m : Machine} {a : Action} {t : TaskId} {b actions : List Action} {old new : Activity}
  {r : Outcome}

theorem returns_of_moves (h : Moves m a t old new) (hold : old.Returns r) : new.Returns r := by
  cases hold with
  | concludes hp =>
    cases h with
    | stay | stopped => exact .concludes hp
    | own hadvances =>
      cases hp with
      | returns =>
        cases hadvances with
        | finish => exact .finished
        | learn hl _ | poll hl _ | give hl => cases hl
      | keeps _ hk =>
        cases hadvances with
        | reply =>
          rw [hk]
          exact .done
        | learn hl _ | poll hl _ | give hl => cases hl
    | crashed => exact .crashed
    | cancelled => exact .cancelled
  | finished | crashed | cancelled =>
    all_goals
      cases h with
      | stay | stopped => constructor
      | own hadvances =>
        cases hadvances with
        | learn hl _ | poll hl _ | give hl => cases hl
      | crashed => exact .crashed
      | cancelled => exact .cancelled

theorem Activity.Returns.run (hold : old.Returns r) (h : (m.run b).activity? t = some old)
    (hb : b <+: actions) : ∃ new, (m.run actions).activity? t = some new ∧ new.Returns r := by
  obtain ⟨rest, rfl⟩ := hb
  induction rest using List.reverseRecOn with
  | nil => exact ⟨old, by simpa using h, hold⟩
  | append_singleton rest a ih =>
    obtain ⟨mid, hmid, hreturns⟩ := ih
    obtain ⟨new, hnew, hmoves⟩ := movesTo_act _ a t mid hmid
    rw [← List.append_assoc, run_concat]
    exact ⟨new, hnew, returns_of_moves hmoves hreturns⟩

theorem activity?_step_of_done (h : m.activity? t = some (.running (.done r))) :
    (m.act (.step t)).activity? t = some (.finished r) := by
  obtain ⟨-, new, hnew, hadvances⟩ := advancesTo_advance h rfl
  cases hadvances with
  | finish => exact hnew
  | learn hl _ | poll hl _ | give hl => cases hl

theorem Activity.Returns.answered (hold : old.Returns r) (h : m.activity? t = some old) :
    m.Answered t r := by
  cases hold with
  | crashed => exact .inl h
  | cancelled => exact .inr (.inl h)
  | finished => exact .inr (.inr ⟨0, Nat.zero_le _, h⟩)
  | concludes hp =>
    cases hp with
    | returns => exact .inr (.inr ⟨1, by decide, activity?_step_of_done h⟩)
    | keeps _ hk =>
      obtain ⟨-, new, hnew, hadvances⟩ := advancesTo_advance h rfl
      cases hadvances with
      | reply =>
        rw [hk] at hnew
        exact .inr (.inr ⟨2, Nat.le_refl _, activity?_step_of_done hnew⟩)
      | learn hl _ | poll hl _ | give hl => cases hl

end Returns

/-! ## Readers -/

/-- A task whose program reads through a cache looks for a key at one moment of a run, and finds
this there. -/
structure Reader (m : Machine) (t : TaskId) (actions looked : List Action) (key : String)
    (found : Option Json) (k : Option Json → Program) : Prop where
  looks : looked ++ [.step t] <+: actions
  looking : (m.run looked).activity? t = some (.running (.ask (.lookup 0 key) k))
  finds : (m.run looked).Replies (.lookup 0 key) found
  goesOn : (m.run (looked ++ [.step t])).activity? t = some (.running (k found))
  reads : ∀ {now p}, now <+: actions → (m.run now).activity? t = some (.running p) → p.Reads

/-- A reader has heard from a run that it shared after its lookup. -/
def Heard (m : Machine) (t : TaskId) (looked now : List Action) (key : String) (r : Outcome) :
    Prop :=
  ∃ b b' a run k p, looked ++ [.step t] <+: b ∧ b' ++ [a] <+: now ∧
    m.Deals t b b' a (.outcome 0 key run r) (.share 0 key run k) p

theorem exists_reader {m : Machine} {t : TaskId} {actions looked : List Action} {i : Nat}
    {key : String} {k : Option Json → Program} (hlooks : looked ++ [.step t] <+: actions)
    (hlooking : (m.run looked).activity? t = some (.running (.ask (.lookup i key) k)))
    (hreads : ∀ {now p}, now <+: actions → (m.run now).activity? t = some (.running p) →
      p.Reads) : ∃ found, m.Reader t actions looked key found k := by
  obtain ⟨rfl, -⟩ := (hreads ((List.prefix_append _ _).trans hlooks) hlooking).of_lookup
  obtain ⟨-, new, hnew, hadvances⟩ := advancesTo_advance hlooking rfl
  cases hadvances with
  | @reply _ _ found hfinds =>
    refine ⟨found, hlooks, hlooking, hfinds, ?_, hreads⟩
    rw [run_concat]
    exact hnew
  | learn hl _ | poll hl _ | give hl => cases hl

namespace Reader

variable {m : Machine} {t : TaskId} {actions looked now : List Action} {key : String}
  {found : Option Json} {k : Option Json → Program} {p : Program}
  (hr : m.Reader t actions looked key found k)

include hr

theorem shape : (∀ v, k (some v) = .done (.ok v)) ∧ (k none).Fetches key :=
  (hr.reads ((List.prefix_append _ _).trans hr.looks) hr.looking).of_lookup.2

/-- Before its lookup, a reader is at a program that still looks for its key. -/
theorem not_late (hnow : now <+: looked) (h : (m.run now).activity? t = some (.running p)) :
    ¬p.Late :=
  fun hlate => (keeps_of_running h hnow hr.looking (fun _ _ => .of_goes) hlate).not_lookup

/-- What a reader can be running after its lookup. -/
theorem running_cases (hnow : now <+: actions)
    (h : (m.run now).activity? t = some (.running p)) (hlate : p.Late) :
    looked ++ [.step t] <+: now ∧
      ((∃ v, found = some v ∧ p = .done (.ok v)) ∨
        found = none ∧ (p = k none ∨ ∃ r, m.Heard t looked now key r ∧ p.Concludes key r)) := by
  have hbehind : looked ++ [.step t] <+: now := by
    rcases prefix_or_behind hr.looks hnow with hbefore | hbehind
    · exact absurd hlate (hr.not_late hbefore h)
    · exact hbehind
  refine ⟨hbehind, ?_⟩
  obtain ⟨ds, now', q, old, under, hfollows⟩ := exists_follows hr.goesOn hbehind
  obtain ⟨rfl, -⟩ := hfollows.of_running h
  have hcourse := hfollows.course
  cases hfound : found with
  | some v =>
    rw [hfound, hr.shape.1 v] at hcourse
    exact .inl ⟨v, rfl, hcourse.of_done.2⟩
  | none =>
    rw [hfound] at hcourse
    refine .inr ⟨rfl, ?_⟩
    have hfetches := hr.shape.2
    generalize k none = fetch at hcourse hfetches ⊢
    cases hfetches with
    | shares hk =>
      cases hcourse with
      | refl => exact .inl rfl
      | step hb hd hrest =>
        obtain ⟨r, rfl, rfl⟩ := hd.of_share
        exact .inr ⟨r, ⟨_, _, _, _, _, _, hb, hrest.isPrefix.trans hfollows.isPrefix, hd⟩,
          hrest.keeps (fun _ _ => .of_goes) (hk r)⟩

/-- A reader that goes to the table has found nothing. -/
theorem of_share (hnow : now <+: actions) {i : Nat} {key' : String} {run : Program}
    {k' : Outcome → Program}
    (h : (m.run now).activity? t = some (.running (.share i key' run k'))) :
    looked ++ [.step t] <+: now ∧ found = none ∧ i = 0 ∧ key' = key ∧
      ∀ r, (k' r).Concludes key r := by
  have hreads := hr.reads hnow h
  obtain ⟨rfl, hk⟩ := hreads.of_share
  obtain ⟨hbehind, ⟨v, -, hdone⟩ | ⟨hnone, hp | ⟨r, -, hp⟩⟩⟩ :=
    hr.running_cases hnow h hreads.late_of_share
  · cases hdone
  · have hfetches := hr.shape.2
    rw [← hp] at hfetches
    cases hfetches with
    | shares hk => exact ⟨hbehind, hnone, rfl, rfl, hk⟩
  · cases hp

/-- A reader keeps what it has heard, under its key. -/
theorem of_keeps (hnow : now <+: actions) {i : Nat} {key' : String} {v : Json}
    (h : (m.run now).Keeps t i key' v) :
    looked ++ [.step t] <+: now ∧ key' = key ∧ m.Heard t looked now key (.ok v) := by
  obtain ⟨k', h⟩ := h
  obtain ⟨hbehind, ⟨w, -, hdone⟩ | ⟨-, hp | ⟨r, hheard, hp⟩⟩⟩ :=
    hr.running_cases hnow h (hr.reads hnow h).late_of_keep
  · cases hdone
  · have hfetches := hr.shape.2
    rw [← hp] at hfetches
    cases hfetches
  · cases hp with
    | keeps hv _ =>
      cases hv
      exact ⟨hbehind, rfl, hheard⟩

/-- A reader goes to the table once. -/
theorem not_share_again {b c : List Action} {u : TaskId} {k' : Outcome → Program}
    (hb : b ++ [.step t] <+: c) (hc : c <+: actions) (hentered : m.Enters t b key u k') {i : Nat}
    {key' : String} {run : Program} {k'' : Outcome → Program} :
    (m.run c).activity? t ≠ some (.running (.share i key' run k'')) := by
  intro hshare
  obtain ⟨wait, lost, hw, hwaits⟩ := hentered.waits
  obtain ⟨run', hsharing, -⟩ := hentered
  have hbefore : b <+: actions := ((List.prefix_append _ _).trans hb).trans hc
  obtain ⟨-, -, -, -, hk⟩ := hr.of_share hbefore hsharing
  obtain ⟨rest, rfl⟩ := hb
  have hshare' := hshare
  rw [run_append] at hshare'
  rcases waits_run hw hwaits rest with hstill | hcancelled | ⟨pre, post, s, rfl, hgoes, -⟩
  · rw [hshare'] at hstill
    cases hstill
    cases hw
  · rw [hshare'] at hcancelled
    cases hcancelled
  · -- What it does with the outcome shares nothing.
    rw [← run_append] at hgoes
    have hlater : b ++ [.step t] ++ pre <+: b ++ [.step t] ++ (pre ++ post) :=
      (List.prefix_append_right_inj _).2 (List.prefix_append _ _)
    have hconcludes := keeps_of_running hgoes hlater hshare
      (fun _ _ => Program.Concludes.of_goes) (hk s)
    cases hconcludes

/-- The moment at which a reader goes to the table is the only one. -/
theorem eq_of_enters {b c : List Action} {u u' : TaskId} {k₁ k₂ : Outcome → Program}
    (hb : b ++ [.step t] <+: actions) (hc : c ++ [.step t] <+: actions)
    (hb' : m.Enters t b key u k₁) (hc' : m.Enters t c key u' k₂) : b = c := by
  have hbefore : b <+: actions := (List.prefix_append _ _).trans hb
  have hcbefore : c <+: actions := (List.prefix_append _ _).trans hc
  rcases step_cases hb hc with ⟨h, -⟩ | h | h
  · exact h
  · obtain ⟨run, hshare, -⟩ := hc'
    exact absurd hshare (hr.not_share_again h hcbefore hb')
  · obtain ⟨run, hshare, -⟩ := hb'
    exact absurd hshare (hr.not_share_again h hbefore hc')

/-- A reader has heard from the run that it entered. -/
theorem eq_of_heard {b : List Action} {u : TaskId} {k' : Outcome → Program} {v : Json}
    (hb : b ++ [.step t] <+: actions) (hentered : m.Enters t b key u k') (hnow : now <+: actions)
    (h : m.Heard t looked now key (.ok v)) :
    (m.run now).activity? u = some (.finished (.ok v)) := by
  obtain ⟨c, c', a, run, k₂, p, -, hnow', hd⟩ := h
  obtain ⟨u', hentered', hlater, hfinished⟩ := hd.exists_enters
  have hc : c ++ [.step t] <+: actions :=
    hlater.trans (((List.prefix_append _ _).trans hnow').trans hnow)
  obtain rfl := hr.eq_of_enters hb hc hentered hentered'
  obtain rfl := hentered.eq hentered'
  obtain ⟨rest, rfl⟩ := hnow'
  rw [run_append]
  exact activity?_run_of_isOver hfinished rfl rest

/-- A reader that has found a value returns it. -/
theorem answered_of_found {v : Json} (hfound : found = some v) :
    (m.run actions).Answered t (.ok v) := by
  have hgoes := hr.goesOn
  rw [hfound, hr.shape.1 v] at hgoes
  obtain ⟨new, hnew, hreturns⟩ := Activity.Returns.done.run hgoes hr.looks
  exact hreturns.answered hnew

/-- A reader returns the outcome of the run that it entered. -/
theorem answered_of_enters {b : List Action} {u : TaskId} {k' : Outcome → Program} {r : Outcome}
    (hm : (m.run actions).Orderly) (hb : b ++ [.step t] <+: actions)
    (hentered : m.Enters t b key u k')
    (hover : (m.run actions).activity? u = some (.finished r)) : (m.run actions).Answered t r := by
  have ⟨run, hsharing, _⟩ := hentered
  obtain ⟨-, -, -, -, hk⟩ := hr.of_share ((List.prefix_append _ _).trans hb) hsharing
  rcases hentered.of_finished hm hb hover with hcancelled | ⟨c, hc, hgoes⟩
  · exact .inr (.inl hcancelled)
  · obtain ⟨new, hnew, hreturns⟩ := (Activity.Returns.concludes (hk r)).run hgoes hc
    exact hreturns.answered hnew

/-- A reader that has found nothing and has not been to the table is about to go there, if it has
not been taken down or away. -/
theorem of_not_entered (hnone : found = none)
    (hnot : ∀ b u k', b ++ [.step t] <+: actions → ¬m.Enters t b key u k') :
    (∃ run k', (m.run actions).activity? t = some (.running (.share 0 key run k'))) ∨
      (m.run actions).activity? t = some .crashed ∨
        (m.run actions).activity? t = some .cancelled := by
  have hgoes := hr.goesOn
  have hfetches := hr.shape.2
  rw [hnone] at hgoes
  generalize k none = fetch at hgoes hfetches
  cases hfetches with
  | shares hk =>
    have hstays := running_of_not_step hgoes hr.looks fun b _ hb hsharing => by
      obtain ⟨u, hu⟩ := exists_enters hsharing
      exact hnot b u _ hb hu
    rcases hstays with h | h
    · exact .inl ⟨_, _, h⟩
    · exact .inr h

end Reader

end EthRpc.Machine
