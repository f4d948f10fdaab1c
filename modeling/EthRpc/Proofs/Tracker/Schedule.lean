-- SUMMARY: A poll loop asks for one timer after each of its polls, as long as its last polls call for, and waits for it.
import EthRpc.Proofs.Backoff
import EthRpc.Proofs.Machine.Tallies
import EthRpc.Proofs.Tracker.Consumers
import EthRpc.Proofs.Tracker.Polls

/-!
# The schedule of a poll loop

A poll loop goes round in laps: it sends a poll, is answered, takes note of the
result, and asks for a timer. How long the timer is depends on how many of its
last polls have failed, and on nothing that others have polled meanwhile. The
next lap does not begin before the timer has fired.
-/

namespace EthRpc

/-! ## Laps -/

namespace Tracker

/-- A poll with this answer has failed. -/
def fails (r : Outcome) : Bool :=
  match polledHead r with
  | .ok _ => false
  | .error _ => true

/-- How many of the last polls have failed in a row. The last one comes first. -/
def streak (polls : List Outcome) : Nat := (polls.takeWhile fails).length

/-- How long a poll loop waits when so many of its last polls have failed. -/
def Settings.wait (s : Settings) : Nat → Duration
  | 0 => s.pollInterval
  | earlier + 1 => s.backoff.waitAfter earlier

/-- The endpoint has failed, or what it says is not a block with a number and a hash. -/
theorem fails_iff {r : Outcome} :
    fails r ↔ (∃ e, r = .error e) ∨ ∃ v, r = .ok v ∧ BlockHead.ofBlock? v = none := by
  cases r with
  | error e => simp [fails, polledHead]
  | ok v => cases h : BlockHead.ofBlock? v <;> simp [fails, polledHead, h]

theorem streak_cons (r : Outcome) (polls : List Outcome) :
    streak (r :: polls) = if fails r then streak polls + 1 else 0 := by
  by_cases h : fails r <;> simp [streak, h]

end Tracker

namespace Machine

/-- The events of one lap of a poll loop, after polls with these answers. -/
def lap (settings : Tracker.Settings) (t : TaskId) (q : Request) (r : Outcome)
    (earlier : List Outcome) : List Event :=
  [.sent t true q, .answered t r, .polled t (Tracker.polledHead r),
    .timer t (settings.wait (Tracker.streak (r :: earlier)))]

/-- The events of a poll loop that has sent polls and got these answers. The last one comes first. -/
def laps (settings : Tracker.Settings) (t : TaskId) : List (Request × Outcome) → List Event
  | [] => []
  | (q, r) :: earlier =>
    laps settings t earlier ++ lap settings t q r (earlier.map (·.2))

/-- What happens in a lap before its poll comes to its end. -/
inductive Begun (t : TaskId) : List Event → Prop where
  | nothing : Begun t []
  | sent {q : Request} : Begun t [.sent t true q]
  | answered {q : Request} {r : Outcome} : Begun t [.sent t true q, .answered t r]

/-- What a poll loop does after polls with these answers, and what has happened in its lap so far. -/
inductive Rounds (o : Backoff.Options) (t : TaskId) (polls : List Outcome) :
    Activity → List Event → Prop where
  | wanting {b : Backoff} {stopped : Bool} {old : Activity} :
      b.Counts o (Tracker.streak polls) → old.Wants (.loop b stopped) → Rounds o t polls old []
  | polling {b : Backoff} {stopped : Bool} {q : Request} :
      b.Counts o (Tracker.streak polls) →
      Rounds o t polls (.polling q (.loop b stopped)) [.sent t true q]
  | polled {b : Backoff} {stopped : Bool} {q : Request} {r : Outcome} :
      b.Counts o (Tracker.streak polls) →
      Rounds o t polls (.polled r (.loop b stopped)) [.sent t true q, .answered t r]
  | pausing {b : Backoff} {stopped : Bool} {d : Duration} :
      b.Counts o (Tracker.streak polls) → polls ≠ [] →
      Rounds o t polls (.pausing d (.loop b stopped)) []
  | ended {old : Activity} {begun : List Event} :
      old.isOver → Begun t begun → Rounds o t polls old begun

section Rounds

variable {m : Machine} {a : Action} {o : Backoff.Options} {t : TaskId}
  {polls : List Outcome} {old new : Activity} {begun : List Event}

theorem Rounds.toBegun (h : Rounds o t polls old begun) : Begun t begun := by
  cases h with
  | wanting | pausing => exact .nothing
  | polling => exact .sent
  | polled => exact .answered
  | ended _ hbegun => exact hbegun

/-- Being told to stop makes no difference to the schedule. -/
theorem Rounds.stop (h : Rounds o t polls old begun) : Rounds o t polls old.stop begun := by
  cases h with
  | wanting hb hw =>
    cases hw with
    | seeking => exact .wanting hb .seeking
    | queued => exact .wanting hb .queued
    | admitted => exact .wanting hb .admitted
  | polling hb => exact .polling hb
  | polled hb => exact .polled hb
  | pausing hb hpolls => exact .pausing hb hpolls
  | ended hover hbegun => exact .ended (by rwa [Activity.isOver_stop]) hbegun

theorem pauseAfter_counts {b : Backoff}
    (hb : b.Counts m.tracker.settings.backoff (Tracker.streak polls))
    (hjitter : m.tracker.settings.backoff.maxJitter = 0)
    (hmax : m.tracker.settings.backoff.maxWait ≤ Duration.longest) (r : Outcome) :
    (m.pauseAfter b (Tracker.polledHead r)).1 =
        m.tracker.settings.wait (Tracker.streak (r :: polls)) ∧
      (m.pauseAfter b (Tracker.polledHead r)).2.Counts m.tracker.settings.backoff
        (Tracker.streak (r :: polls)) := by
  rw [Tracker.streak_cons]
  cases hhead : Tracker.polledHead r with
  | ok head =>
    have hsucceeds : Tracker.fails r = false := by simp [Tracker.fails, hhead]
    rw [hsucceeds]
    exact ⟨rfl, hb.reset⟩
  | error e =>
    have hfails : Tracker.fails r = true := by simp [Tracker.fails, hhead]
    rw [hfails]
    exact ⟨hb.wait hjitter 0, hb.next hmax 0⟩

/-- By an action, a poll loop goes on with its lap, or ends it by asking for a timer. -/
def Proceeds (m : Machine) (t : TaskId) (polls : List Outcome) (begun : List Event) (a : Action)
    (new : Activity) : Prop :=
  Rounds m.tracker.settings.backoff t polls new (begun ++ m.traced a t) ∨
    ∃ q r, begun ++ m.traced a t = lap m.tracker.settings t q r polls ∧
      Rounds m.tracker.settings.backoff t (r :: polls) new []

/-- What leaves nothing about a poll loop may still move it. -/
theorem Rounds.proceeds (h : Rounds m.tracker.settings.backoff t polls new begun)
    (hquiet : m.traced a t = []) : m.Proceeds t polls begun a new := by
  refine .inl ?_
  rwa [hquiet, List.append_nil]

theorem Rounds.advances (h : Rounds m.tracker.settings.backoff t polls old begun)
    (hjitter : m.tracker.settings.backoff.maxJitter = 0)
    (hmax : m.tracker.settings.backoff.maxWait ≤ Duration.longest)
    (hold : m.activity? t = some old) (hadv : m.Advances old new) :
    m.Proceeds t polls begun (.step t) new := by
  cases h with
  | @wanting b stopped _ hb hw =>
    have hlook : ∀ s, m.Looks old s → s = .loop b stopped := fun s hl => (hl.wants hw).symm
    cases hadv with
    | @wait s hbusy =>
      cases hw
      exact Rounds.proceeds (.wanting hb .queued) (by simp [traced, events, hold, hbusy])
    | poll hl hneeds =>
      cases hlook _ hl
      refine .inl ?_
      rw [traced_of_looks hold hl, if_pos hneeds]
      exact .polling hb
    | learn hl _ => cases hlook _ hl
    | give hl =>
      cases hlook _ hl
      refine Rounds.proceeds (.ended rfl .nothing) ?_
      rw [traced_of_looks hold hl]
      rfl
    | _ => cases hw
  | polling => cases hadv.canRun
  | ended hover =>
    have hrun := hadv.canRun
    rw [Activity.canRun_of_isOver hover] at hrun
    cases hrun
  | pausing =>
    cases hadv with
    | wake => exact Rounds.proceeds (.ended rfl .nothing) (by simp [traced, events, hold])
    | learn hl _ | poll hl _ | give hl => cases hl
  | @polled b stopped q r hb =>
    obtain ⟨hwait, hcounts⟩ := pauseAfter_counts hb hjitter hmax r
    cases hadv with
    | pause hpause =>
      refine .inr ⟨q, r, ?_, ?_⟩
      · rw [traced_of_polled hold, hwait]
        rfl
      · rw [hpause] at hcounts
        exact .pausing hcounts (List.cons_ne_nil _ _)
    | learn hl _ | poll hl _ | give hl => cases hl

theorem Rounds.answered (h : Rounds m.tracker.settings.backoff t polls old begun)
    (hold : m.activity? t = some old) (r : Outcome)
    (hnew : (m.act (.answer t r)).activity? t = some new) :
    m.Proceeds t polls begun (.answer t r) new := by
  by_cases hpolling : ∃ q s, old = .polling q s
  · obtain ⟨q, s, rfl⟩ := hpolling
    have hpolled : (m.act (.answer t r)).activity? t = some (.polled r s) := by
      simp only [act, hold]
      exact activity?_setActivity_self (m := m.record _) hold
    rw [hnew] at hpolled
    cases hpolled
    cases h with
    | wanting _ hw => cases hw
    | polling hb =>
      refine .inl ?_
      simpa [traced, events, hold, Event.task?] using Rounds.polled hb
    | ended hover => cases hover
  · simp only [not_exists] at hpolling
    have hcalling : ∀ q k, old ≠ .calling q k := by
      rintro q k rfl
      cases h with
      | wanting _ hw => cases hw
      | ended hover => cases hover
    have hsame := act_answer_of_deaf hold hcalling hpolling r
    rw [hsame, hold] at hnew
    cases hnew
    exact h.proceeds (traced_of_act_eq hsame t)

/-- What happens to a poll loop other than by its steps and answers. -/
theorem Rounds.moves (h : Rounds o t polls old begun) (hmoves : Moves m a t old new)
    (hstep : a ≠ .step t) (hanswer : ∀ r, a ≠ .answer t r) : Rounds o t polls new begun := by
  cases hmoves with
  | stay => exact h
  | own => exact absurd rfl hstep
  | answered | informed => exact absurd rfl (hanswer _)
  | crashed | cancelled => exact .ended rfl h.toBegun
  | stopped => exact h.stop
  | again =>
    cases h with
    | wanting _ hw => cases hw
    | pausing hb _ => exact .wanting hb .seeking
    | ended hover => cases hover
  | admitted =>
    cases h with
    | wanting hb hw =>
      cases hw
      exact .wanting hb .admitted
    | ended hover => cases hover
  | awake | heard | returned =>
    cases h with
    | wanting _ hw => cases hw
    | ended hover => cases hover

/-- Whatever happens, a poll loop goes on with its lap, or ends it by asking for a timer. -/
theorem Rounds.act (h : Rounds m.tracker.settings.backoff t polls old begun)
    (hjitter : m.tracker.settings.backoff.maxJitter = 0)
    (hmax : m.tracker.settings.backoff.maxWait ≤ Duration.longest)
    (hold : m.activity? t = some old) (hnew : (m.act a).activity? t = some new) :
    m.Proceeds t polls begun a new := by
  by_cases hstep : a = .step t
  · subst hstep
    cases hrun : old.canRun with
    | true => exact h.advances hjitter hmax hold (advances_of_act hold hrun hnew)
    | false =>
      have hsame := act_step_of_not_canRun hold hrun
      rw [hsame, hold] at hnew
      cases hnew
      exact h.proceeds (traced_of_act_eq hsame t)
  · by_cases hanswer : ∃ r, a = .answer t r
    · obtain ⟨r, rfl⟩ := hanswer
      exact h.answered hold r hnew
    · simp only [not_exists] at hanswer
      obtain ⟨new', hnew', hmoves⟩ := movesTo_act m a t old hold
      rw [hnew] at hnew'
      cases hnew'
      exact (h.moves hmoves hstep hanswer).proceeds (traced_of_other hstep hanswer)

end Rounds

/-! ## Timers -/

section Timers

variable {m : Machine} {t : TaskId} {b c : List Action} {d : Duration} {s : Seeker}

/-- Who waits for a timer goes on waiting until it fires, or is over. -/
theorem fired_or_pausing (h : (m.run b).activity? t = some (.pausing d s)) (hbc : b <+: c) :
    (∃ fired s', b <+: fired ∧ fired ++ [.fire t] <+: c ∧
      (m.run fired).activity? t = some (.pausing d s') ∧ d ≤ (m.run fired).now) ∨
    ∃ old, (m.run c).activity? t = some old ∧ (old.isOver ∨ ∃ s', old = .pausing d s') := by
  obtain ⟨rest, rfl⟩ := hbc
  induction rest using List.reverseRecOn with
  | nil =>
    rw [List.append_nil]
    exact .inr ⟨_, h, .inr ⟨s, rfl⟩⟩
  | append_singleton rest a ih =>
    rw [← List.append_assoc]
    rcases ih with ⟨fired, s', hb, hfired, hpausing, hdue⟩ | ⟨old, hold, hover | ⟨s', rfl⟩⟩
    · exact .inl ⟨fired, s', hb, hfired.trans (List.prefix_append _ _), hpausing, hdue⟩
    · rw [run_concat]
      exact .inr ⟨old, activity?_act_of_isOver hold hover a, .inl hover⟩
    · obtain ⟨new, hnew, hmoves⟩ := movesTo_act _ a t _ hold
      rw [run_concat]
      cases hmoves with
      | again hdue =>
        exact .inl ⟨b ++ rest, s', List.prefix_append _ _, List.prefix_refl _, hold, hdue⟩
      | stay => exact .inr ⟨_, hnew, .inr ⟨s', rfl⟩⟩
      | stopped => exact .inr ⟨_, hnew, .inr ⟨s'.stop, rfl⟩⟩
      | crashed | cancelled => exact .inr ⟨_, hnew, .inl rfl⟩
      | own hadv =>
        cases hadv with
        | wake => exact .inr ⟨_, hnew, .inl rfl⟩
        | learn hl _ | poll hl _ | give hl => cases hl

/-- When a timer fires that is due, the poll loop asks for the turn again. -/
theorem activity?_fire_of_pausing (h : m.activity? t = some (.pausing d s)) (hdue : d ≤ m.now) :
    (m.act (.fire t)).activity? t = some (.seeking s) := by
  simp only [act, h, if_pos hdue]
  exact activity?_setActivity_self h

/-- Who asks for a timer is a poll loop, and waits for it then. -/
theorem pausing_of_timer {a : Action} (h : .timer t d ∈ m.events a) :
    ∃ b stopped, (m.act a).activity? t = some (.pausing (m.now + d) (.loop b stopped)) := by
  generalize hevent : Event.timer t d = e at h
  cases emits_of_mem_events h with
  | @timer _ r b b' stopped _ hpolled hwait =>
    cases hevent
    refine ⟨b', stopped, ?_⟩
    obtain ⟨-, new, hnew, hadv⟩ := advancesTo_advance hpolled rfl
    rw [act, hnew]
    cases hadv with
    | pause hwait' =>
      rw [hwait] at hwait'
      cases hwait'
      rfl
    | learn hl _ | poll hl _ | give hl => cases hl
  | _ => cases hevent

/-- A poll loop that has asked for a timer sends no poll before the timer has fired. -/
theorem exists_fired {asked again : List Action} {a a' : Action} {q : Request}
    (hbefore : asked ++ [a] <+: again) (htimer : .timer t d ∈ (m.run asked).events a)
    (hsent : .sent t true q ∈ (m.run again).events a') :
    ∃ fired s, asked ++ [a] <+: fired ∧ fired ++ [.fire t] <+: again ∧
      (m.run fired).activity? t = some (.pausing ((m.run asked).now + d) s) ∧
      (m.run asked).now + d ≤ (m.run fired).now := by
  obtain ⟨b, stopped, hpausing⟩ := pausing_of_timer htimer
  rw [← run_concat] at hpausing
  obtain ⟨-, -, old, s, hold, hl, -⟩ := exists_of_sent_poll hsent
  rcases fired_or_pausing hpausing hbefore with hfired | ⟨old', hold', hwaits⟩
  · exact hfired
  · -- Who is about to poll is neither over nor waiting for a timer.
    rw [hold] at hold'
    cases hold'
    rcases hwaits with hover | ⟨s', rfl⟩
    · have hrun := hl.canRun
      rw [Activity.canRun_of_isOver hover] at hrun
      cases hrun
    · cases hl

end Timers

/-! ## Failures -/

section Failures

/-- The event is the end of a poll of a poll loop that has failed. -/
def losesPoll (m : Machine) : Event → Bool
  | .polled t (.error _) => m.role? t = some .pollLoop
  | _ => false

/-- How many polls of poll loops have failed. -/
def lostPolls (m : Machine) : Nat := m.log.countP (m.losesPoll ·.2)

variable {m : Machine} {a : Action}

theorem pollFailures_tallyAfter (m : Machine) (c : Option Counter) :
    (m.tallyAfter c).pollFailures =
      m.tally.pollFailures + if c = some .pollFailures then 1 else 0 := by
  cases c with
  | none => rfl
  | some c => cases c <;> rfl

/-- A failed poll is counted when a poll loop learns of it, or when a program says so. -/
theorem counted?_eq_pollFailures (h : m.counted? a = some .pollFailures) :
    ∃ t, a = .step t ∧
      ((∃ r b stopped e, m.activity? t = some (.polled r (.loop b stopped)) ∧
        Tracker.polledHead r = .error e) ∨
      ∃ k, m.activity? t = some (.running (.ask (.count .pollFailures) k))) := by
  cases a with
  | step t =>
    refine ⟨t, rfl, ?_⟩
    simp only [counted?] at h
    split at h
    next => split at h <;> cases h
    next c k hcount =>
      cases h
      exact .inr ⟨k, hcount⟩
    next => split at h <;> cases h
    next => split at h <;> cases h
    next => split at h <;> cases h
    next r b stopped hpolled =>
      split at h
      next => cases h
      next e hhead => exact .inl ⟨r, b, stopped, e, hpolled, hhead⟩
    next => cases h
  | _ => cases h

/-- Of what an action leaves, as many events are failures of poll loops as it counts. -/
theorem countP_losesPoll (hm : m.Orderly)
    (hloops : ∀ t old, m.role? t = some .pollLoop → m.activity? t = some old →
      old.isLoop ∨ old.isOver)
    (hquiet : ∀ t k, m.activity? t ≠ some (.running (.ask (.count .pollFailures) k))) :
    (m.events a).countP m.losesPoll = if m.counted? a = some .pollFailures then 1 else 0 := by
  by_cases hcount : m.counted? a = some .pollFailures
  · rw [if_pos hcount]
    obtain ⟨t, rfl, ⟨r, b, stopped, e, hpolled, hhead⟩ | ⟨k, hk⟩⟩ := counted?_eq_pollFailures hcount
    · have hrole := hm.loops hpolled ⟨b, stopped, rfl⟩
      simp [events, hpolled, timerEvents_loop, hhead, losesPoll, hrole]
    · exact absurd hk (hquiet t k)
  · rw [if_neg hcount, List.countP_eq_zero]
    intro e he hloses
    cases emits_of_mem_events he with
    | @polled t r s hpolled =>
      cases hhead : Tracker.polledHead r with
      | ok head => simp [losesPoll, hhead] at hloses
      | error err =>
        have hrole : m.role? t = some .pollLoop := by simpa [losesPoll, hhead] using hloses
        rcases hloops t _ hrole hpolled with ⟨b, stopped, hs⟩ | hover
        · cases hs
          simp [counted?, hpolled, hhead] at hcount
        · cases hover
    | _ => cases hloses

theorem lt_size_of_mem_events {t : TaskId} {e : Event} (he : e ∈ m.events a)
    (htask : e.task? = some t) : t < m.tasks.size := by
  by_contra hlt
  have htraced : e ∈ m.traced a t := by simpa [traced, htask] using he
  rw [traced_of_size_le (Nat.le_of_not_lt hlt)] at htraced
  cases htraced

/-- Who is there keeps its role, so what was a failure of a poll loop stays one. -/
theorem losesPoll_act (a : Action) {e : Event} (htask : ∀ t, e.task? = some t → t < m.tasks.size) :
    (m.act a).losesPoll e = m.losesPoll e := by
  cases e with
  | polled t r =>
    cases r with
    | ok h => rfl
    | error err => simp only [losesPoll, (effect_act m a).role t (htask t rfl)]
  | _ => rfl

theorem lostPolls_act (hlog : ∀ time e t, (time, e) ∈ m.log → e.task? = some t → t < m.tasks.size) :
    (m.act a).lostPolls = m.lostPolls + (m.events a).countP m.losesPoll := by
  have hold : m.log.countP ((m.act a).losesPoll ·.2) = m.lostPolls :=
    List.countP_congr fun x hmem => by rw [losesPoll_act a (hlog x.1 x.2 · hmem)]
  have hnew : (m.events a).countP (m.act a).losesPoll = (m.events a).countP m.losesPoll :=
    List.countP_congr fun e he => by rw [losesPoll_act a fun _ => lt_size_of_mem_events he]
  rw [lostPolls, (effect_act m a).log, List.countP_append, List.countP_map, hold, Nat.add_comm,
    ← hnew]
  rfl

end Failures

/-! ## Runs -/

section Runs

variable {settings : Tracker.Settings} {capacities : List Nat} {tables : Nat}
  {actions : List Action} {t : TaskId}

/-- Whatever happens, a poll loop keeps to its schedule. -/
theorem exists_laps (hjitter : settings.backoff.maxJitter = 0)
    (hmax : settings.backoff.maxWait ≤ Duration.longest)
    (hrole : ((start settings capacities tables).run actions).role? t = some .pollLoop) :
    ∃ polls begun old,
      ((start settings capacities tables).run actions).trace t = laps settings t polls ++ begun ∧
      ((start settings capacities tables).run actions).activity? t = some old ∧
      Rounds settings.backoff t (polls.map (·.2)) old begun := by
  obtain ⟨old, hold⟩ := exists_activity? (lt_size_of_role? hrole)
  induction actions using List.reverseRecOn generalizing old with
  | nil => cases hold
  | append_singleton actions a ih =>
    have hsettings := settings_run (start settings capacities tables) actions
    have hnone (hsize : ((start settings capacities tables).run actions).tasks.size ≤ t) :=
      trace_of_size_le settings capacities tables hsize
    rw [run_concat] at hrole hold ⊢
    generalize (start settings capacities tables).run actions = m at ih hrole hold hsettings hnone ⊢
    obtain rfl : m.tracker.settings = settings := hsettings
    rcases activity?_act_cases hold with ⟨old', hold', -⟩ | ⟨rfl, role, hs⟩
    · rw [(effect_act m a).role t (lt_size_of_activity? hold')] at hrole
      obtain ⟨polls, begun, old', htrace, hold', hrounds⟩ := ih hrole old' hold'
      rcases hrounds.act hjitter hmax hold' hold with hgoes | ⟨q, r, hlap, hgoes⟩
      · refine ⟨polls, _, old, ?_, hold, hgoes⟩
        rw [trace_act, htrace, List.append_assoc]
      · refine ⟨(q, r) :: polls, [], old, ?_, hold, hgoes⟩
        rw [trace_act, htrace, List.append_assoc, hlap, List.append_nil]
        rfl
    · rw [role?_act_of_fresh hs] at hrole
      refine ⟨[], [], old, ?_, hold, ?_⟩
      · rw [trace_act, hnone (Nat.le_refl _), traced_of_size_le (Nat.le_refl _)]
        rfl
      · cases spawns_of_spawned? hs with
        | caller | run => cases hrole
        | loop => exact .wanting (Backoff.counts_start _) .seeking

/-- A poll loop to which nothing has happened yet waits for nothing but the turn. -/
theorem wants_of_trace_eq_nil {old : Activity} (hjitter : settings.backoff.maxJitter = 0)
    (hmax : settings.backoff.maxWait ≤ Duration.longest)
    (hrole : ((start settings capacities tables).run actions).role? t = some .pollLoop)
    (hnone : ((start settings capacities tables).run actions).trace t = [])
    (hold : ((start settings capacities tables).run actions).activity? t = some old) :
    old.isOver ∨ ∃ b stopped, old.Wants (.loop b stopped) := by
  obtain ⟨polls, begun, old', htrace, hold', hrounds⟩ := exists_laps hjitter hmax hrole
  rw [hold] at hold'
  cases hold'
  obtain ⟨hlaps, rfl⟩ := List.append_eq_nil_iff.1 (htrace.symm.trans hnone)
  cases hrounds with
  | wanting _ hw => exact .inr ⟨_, _, hw⟩
  | ended hover => exact .inl hover
  | pausing _ hpolls =>
    match polls with
    | [] => exact absurd rfl hpolls
    | _ :: _ => simp [laps, lap] at hlaps

theorem lt_size_of_mem_log {time : Duration} {e : Event}
    (hmem : (time, e) ∈ ((start settings capacities tables).run actions).log)
    (htask : e.task? = some t) :
    t < ((start settings capacities tables).run actions).tasks.size := by
  by_contra hlt
  have hnone := trace_of_size_le settings capacities tables (Nat.le_of_not_lt hlt)
  have htrace := mem_trace_iff.2 ⟨htask, time, hmem⟩
  rw [hnone] at htrace
  cases htrace

/-- If programs count no failed polls then those of poll loops are counted, and nothing else. -/
theorem pollFailures_run
    (hquiet : ∀ now t k, now <+: actions →
      ((start settings capacities tables).run now).activity? t ≠
        some (.running (.ask (.count .pollFailures) k))) :
    ((start settings capacities tables).run actions).tally.pollFailures =
      ((start settings capacities tables).run actions).lostPolls := by
  induction actions using List.reverseRecOn with
  | nil => rfl
  | append_singleton actions a ih =>
    have hbefore := ih fun now t k hnow => hquiet now t k (hnow.trans (List.prefix_append _ _))
    have hloops (t : TaskId) (old : Activity) :=
      @isLoop_or_isOver_of_role settings capacities tables actions t old
    have hcounted := countP_losesPoll (a := a)
      ((orderly_start settings capacities tables).run actions) hloops
      fun t k => hquiet actions t k (List.prefix_append _ _)
    rw [run_concat, lostPolls_act fun _ _ _ => lt_size_of_mem_log, hcounted, tally_act,
      pollFailures_tallyAfter, hbefore]

end Runs

end Machine

end EthRpc
