-- SUMMARY: While there are subscriptions one poll loop goes on for them, and without any there is none.
import EthRpc.Proofs.Machine.Audience
import EthRpc.Proofs.Machine.Heads
import EthRpc.Proofs.Machine.Loops

/-!
# Consumers

The first subscription starts a poll loop and the end of the last one tells it to
stop. A loop that stops may still be at work when the next one starts, so there
may be many loops; but only one of them was not told to stop, and only this one
will poll again.
-/

namespace EthRpc.Machine

/-- How many subscriptions have not ended. -/
def live (m : Machine) : Nat := m.subscriptions.countP Option.isSome

/-- Subscriptions are counted, and as long as there are any, one loop goes on for them. -/
structure Tended (m : Machine) : Prop where
  counted : m.consumers = m.live
  running : m.loop = none ↔ m.consumers = 0
  loops : ∀ t, m.Loops t ↔ m.loop = some t

theorem tended_start (settings : Tracker.Settings) (capacities : List Nat) (tables : Nat) :
    (start settings capacities tables).Tended where
  counted := rfl
  running := ⟨fun _ => rfl, fun _ => rfl⟩
  loops t := by
    constructor
    · rintro ⟨a, h, -⟩
      cases h
    · rintro ⟨⟩

/-! ## Counting -/

section Counting

variable {m : Machine} {i : Nat}

theorem countP_modify {α : Type} {p : α → Bool} {xs : Array α} {f : α → α} {x : α}
    (h : xs[i]? = some x) :
    (xs.modify i f).countP p =
      xs.countP p - (if p x then 1 else 0) + if p (f x) then 1 else 0 := by
  obtain ⟨hi, rfl⟩ := Array.getElem?_eq_some_iff.1 h
  have hset : xs.modify i f = xs.set i (f xs[i]) := by
    apply Array.ext
    · simp
    · intro j hj hj'
      simp [Array.getElem_modify, Array.getElem_set]
      grind
  rw [hset, Array.countP_set]

theorem live_released {s : Subscription} (h : m.subscriptions[i]? = some (some s)) :
    (m.released i).live = m.live - 1 := by
  simp [live, released, countP_modify h]

/-- A subscription that has not ended is counted. -/
theorem live_pos {s : Subscription} (h : m.subscriptions[i]? = some (some s)) : 0 < m.live := by
  have hmem : some s ∈ m.subscriptions := Array.mem_of_getElem? h
  exact Array.countP_pos_iff.2 ⟨some s, hmem, rfl⟩

theorem live_moved {s s' : Subscription} (h : m.subscriptions[i]? = some (some s)) :
    (m.subscriptions.modify i fun _ => some s').countP Option.isSome = m.live := by
  have hpos := live_pos h
  simp only [countP_modify h, Option.isSome_some, if_true]
  exact Nat.sub_add_cancel hpos

end Counting

/-! ## One loop -/

section Loops

variable {m : Machine} {a : Action} {t : TaskId}

/-- Without crashes, loops go on until they are told to stop, and the first subscription brings a
new one. -/
theorem loops_act_iff (hm : m.Orderly) (hcalm : ∀ u, a ≠ .crash u)
    (hstay : ∀ i, a ≠ .unsubscribe i) :
    (m.act a).Loops t ↔ m.Loops t ∨ a = .subscribe ∧ m.consumers = 0 ∧ t = m.tasks.size := by
  constructor
  · rintro ⟨new, hnew, hgoes⟩
    rcases activity?_act_cases hnew with ⟨old, hold, hmoves⟩ | ⟨rfl, role, hs⟩
    · exact .inl ⟨old, hold, going_of_moves hmoves hgoes⟩
    · have hspawned := hs
      cases spawns_of_spawned? hs with
      | caller | run => cases hgoes
      | loop =>
        refine .inr ⟨rfl, ?_, rfl⟩
        by_contra hmore
        simp [spawned?, hmore] at hspawned
  · rintro (⟨old, hold, hgoes⟩ | ⟨rfl, hfirst, rfl⟩)
    · obtain ⟨new, hnew, hmoves⟩ := movesTo_act m a t old hold
      refine ⟨new, hnew, moves_of_going hmoves hgoes ?_ hcalm hstay⟩
      rw [hm.loops hold (Activity.isLoop_of_stopped? hgoes)]
      rintro ⟨⟩
    · have hspawned : m.spawned? .subscribe =
          some ⟨.pollLoop, .seeking (.loop (.start m.tracker.settings.backoff) false)⟩ := by
        simp [spawned?, hfirst]
      exact ⟨_, activity?_act_of_fresh hspawned, rfl⟩

/-- When the loop was told to stop, none goes on. -/
theorem not_loops_stopLoop (hm : ∀ u, m.Loops u → u = t) (u : TaskId) :
    ¬(m.stopLoop t).Loops u := by
  rintro ⟨new, hnew, hgoes⟩
  rw [activity?_stopLoop] at hnew
  split at hnew
  next htu =>
    obtain ⟨old, -, rfl⟩ := Option.map_eq_some_iff.1 hnew
    exact Activity.stopped?_stop_ne old hgoes
  next htu => exact htu (hm u ⟨new, hnew, hgoes⟩).symm

end Loops

/-! ## Every action keeps the count and the loop -/

namespace Tended

variable {m : Machine} (hm : m.Tended) (hordered : m.Orderly)

include hm

theorem first (h : m.consumers = 0) (t : TaskId) : ¬m.Loops t := by
  rw [hm.loops, hm.running.2 h]
  rintro ⟨⟩

include hordered in
theorem subscribe : m.subscribe.Tended := by
  have hloops : ∀ t, m.subscribe.Loops t ↔
      m.Loops t ∨ Action.subscribe = .subscribe ∧ m.consumers = 0 ∧ t = m.tasks.size :=
    fun t => loops_act_iff (a := .subscribe) hordered (by simp) (by simp)
  obtain ⟨hconsumers, hsubscriptions, hloop⟩ := m.subscribe_spec
  refine ⟨?counted, ?running, fun t => ?loops⟩
  case counted =>
    rw [hconsumers, live, hsubscriptions, Array.countP_push, hm.counted]
    rfl
  case running =>
    rw [hconsumers, hloop]
    have hrunning := hm.running
    split <;> simp_all
  case loops =>
    rw [hloops t, hloop]
    by_cases hfirst : m.consumers = 0
    · simp [hm.first hfirst t, hfirst, eq_comm]
    · simp [hfirst, hm.loops t]

theorem unsubscribe (i : Nat) : (m.unsubscribe i).Tended := by
  have hsame : ∀ t, (m.released i).Loops t ↔ m.Loops t := fun _ => Iff.rfl
  rcases m.unsubscribe_cases i with ⟨h, -⟩ | ⟨⟨s, hs⟩, hcases⟩
  · rw [h]
    exact hm
  · have hpos := live_pos hs
    have hcounted : (m.released i).consumers = (m.released i).live := by
      rw [live_released hs, ← hm.counted]
      rfl
    rw [← hm.counted] at hpos
    rcases hcases with ⟨hmore, h⟩ | ⟨hlast, ⟨hnone, h⟩ | ⟨t, ht, h⟩⟩
    · rw [h]
      refine ⟨hcounted, ?_, hm.loops⟩
      constructor
      · intro hnone
        rw [hm.running.1 hnone] at hpos
        cases hpos
      · exact fun hzero => absurd hzero hmore
    · rw [hm.running.1 hnone] at hpos
      cases hpos
    · rw [h]
      have hq := quiet_stopLoop (m.released i) t
      refine ⟨?counted, ?running, fun u => ?loops⟩
      case counted =>
        have hlive : ((m.released i).stopLoop t).live = (m.released i).live := by
          rw [live, hq.subscriptions, live]
        exact (hq.consumers.trans hcounted).trans hlive.symm
      case running =>
        have hzero : ((m.released i).stopLoop t).consumers = 0 := hq.consumers.trans hlast
        exact ⟨fun _ => hzero, fun _ => rfl⟩
      case loops =>
        have honly : ∀ v, (m.released i).Loops v → v = t := by
          intro v hv
          have hloop := (hm.loops v).1 hv
          rw [ht] at hloop
          exact (Option.some.inj hloop).symm
        constructor
        · exact fun hu => absurd hu (not_loops_stopLoop honly u)
        · rintro ⟨⟩

/-- What leaves the subscriptions alone and stops no loop keeps what holds of them. -/
theorem of_undisturbed {m' : Machine} (h : Undisturbed m m')
    (hloops : ∀ t, m'.Loops t ↔ m.Loops t) : m'.Tended := by
  refine ⟨?_, ?_, fun t => ?_⟩
  · rw [live, h.consumers, h.subscriptions]
    exact hm.counted
  · rw [h.loop, h.consumers]
    exact hm.running
  · rw [hloops, h.loop]
    exact hm.loops t

include hordered in
theorem act {a : Action} (hcalm : ∀ u, a ≠ .crash u) : (m.act a).Tended := by
  cases a with
  | subscribe => exact hm.subscribe hordered
  | unsubscribe i => exact hm.unsubscribe i
  | receive i =>
    rcases m.receive_cases i with h | ⟨s, s', hs, h⟩
    · rw [h]
      exact hm
    · rw [h]
      exact ⟨hm.counted.trans (live_moved hs).symm, hm.running, hm.loops⟩
  | pass d => exact ⟨hm.counted, hm.running, hm.loops⟩
  | _ =>
    refine hm.of_undisturbed (undisturbed_act rfl) fun t => ?_
    rw [loops_act_iff hordered hcalm (by simp)]
    simp

end Tended

theorem tended_run {m : Machine} {actions : List Action} (hm : m.Tended) (hordered : m.Orderly)
    (hcalm : Calm actions) : (m.run actions).Tended := by
  induction actions generalizing m with
  | nil => exact hm
  | cons a rest ih =>
    have hhead : ∀ u, a ≠ .crash u := by
      rintro u rfl
      exact hcalm u List.mem_cons_self
    refine ih (hm.act hordered hhead) (hordered.act a) fun t ht => ?_
    exact hcalm t (List.mem_cons_of_mem a ht)

/-! ## Runs -/

section Runs

variable {settings : Tracker.Settings} {capacities : List Nat} {tables : Nat}
  {actions : List Action} {t : TaskId}

/-- Who was created as a poll loop is one until it is over. -/
theorem isLoop_or_isOver_of_role {a : Activity}
    (hrole : ((start settings capacities tables).run actions).role? t = some .pollLoop)
    (ha : ((start settings capacities tables).run actions).activity? t = some a) :
    a.isLoop ∨ a.isOver := by
  induction actions using List.reverseRecOn generalizing a with
  | nil => cases ha
  | append_singleton actions b ih =>
    rw [run_concat] at hrole ha
    rcases activity?_act_cases ha with ⟨old, hold, hmoves⟩ | ⟨rfl, role, hs⟩
    · rw [(effect_act _ b).role t (lt_size_of_activity? hold)] at hrole
      rcases ih hrole hold with hloop | hover
      · exact isLoop_or_isOver_of_moves hmoves hloop
      · rw [activity?_act_of_isOver hold hover b] at ha
        cases ha
        exact .inr hover
    · rw [role?_act_of_fresh hs] at hrole
      cases spawns_of_spawned? hs with
      | caller | run => cases hrole
      | loop => exact .inl ⟨_, _, rfl⟩

/-- In some future the task sends another poll. -/
def PollsAgain (m : Machine) (t : TaskId) : Prop :=
  ∃ later es q, (m.run later).trace t = m.trace t ++ es ∧ .sent t true q ∈ es

/-- Only a loop that was not told to stop will poll again. -/
theorem PollsAgain.loops
    (h : ((start settings capacities tables).run actions).PollsAgain t)
    (hrole : ((start settings capacities tables).run actions).role? t = some .pollLoop) :
    ((start settings capacities tables).run actions).Loops t := by
  obtain ⟨later, es, q, htrace, hsent⟩ := h
  obtain ⟨old, hold⟩ := exists_activity? (lt_size_of_role? hrole)
  have hgoes : ¬(old.stopped? = some true ∨ old.isOver) := by
    intro hs
    obtain ⟨es', htrace', hremains⟩ := stopped_run hold hs later
    obtain rfl : es = es' := List.append_cancel_left (htrace.symm.trans htrace')
    exact hremains.not_sent q hsent
  rcases isLoop_or_isOver_of_role hrole hold with hloop | hover
  · obtain ⟨stopped, hs⟩ := Activity.exists_stopped?_of_isLoop hloop
    cases stopped with
    | false => exact ⟨old, hold, hs⟩
    | true => exact absurd (.inl hs) hgoes
  · exact absurd (.inr hover) hgoes

/-- In a run without crashes, subscriptions are counted, and exactly as long as there are any, one
poll loop goes on for them. A loop that was told to stop sends no more polls, wherever it was: at
most the poll that it had sent comes to its end, and what it reports is noted. So of all the loops
that are still at work, no two will poll again. -/
theorem one_loop_while_subscribed (hcalm : Calm actions) :
    let m := (start settings capacities tables).run actions
    m.consumers = m.live ∧ (m.loop.isSome ↔ 0 < m.live) ∧ (∀ t, m.loop = some t ↔ m.Loops t) ∧
    ((∃! t, m.Loops t) ↔ 0 < m.live) ∧
    (∀ t old, m.activity? t = some old → old.stopped? = some true → ∀ later,
      ∃ es, (m.run later).trace t = m.trace t ++ es ∧ Remains t old es ∧
        ∀ h, .polled t (.ok h) ∈ es → (m.run later).Knows h.number) ∧
    (∀ t r b, m.activity? t = some (.polled r (.loop b true)) →
      (m.act (.step t)).tracker = m.tracker.digest m.now (Tracker.polledHead r)) ∧
    ∀ t u, m.role? t = some .pollLoop → m.role? u = some .pollLoop → m.PollsAgain t →
      m.PollsAgain u → t = u := by
  intro m
  have htended : m.Tended :=
    tended_run (tended_start settings capacities tables) (orderly_start settings capacities tables)
      hcalm
  have hsome : m.loop.isSome ↔ 0 < m.live := by
    rw [← htended.counted, Nat.pos_iff_ne_zero, Option.isSome_iff_ne_none]
    exact htended.running.not
  refine ⟨htended.counted, hsome, fun t => (htended.loops t).symm, ?one, ?stopped, ?noted, ?two⟩
  case one =>
    rw [← hsome]
    constructor
    · rintro ⟨t, ht, -⟩
      rw [(htended.loops t).1 ht]
      rfl
    · intro hloop
      obtain ⟨t, ht⟩ := Option.isSome_iff_exists.1 hloop
      refine ⟨t, (htended.loops t).2 ht, fun u hu => ?_⟩
      have hloop := (htended.loops u).1 hu
      rw [ht] at hloop
      exact (Option.some.inj hloop).symm
  case stopped =>
    intro t old hold hs later
    obtain ⟨es, htrace, hremains⟩ := stopped_run hold (.inl hs) later
    refine ⟨es, htrace, hremains, fun h hmem => ?_⟩
    have hlog : .polled t (.ok h) ∈ (m.run later).trace t := by
      rw [htrace]
      exact List.mem_append_right _ hmem
    obtain ⟨-, time, hrecord⟩ := mem_trace_iff.1 hlog
    have hreported : (m.run later).Reported h := ⟨time, t, hrecord⟩
    rw [← run_append] at hreported ⊢
    exact hreported.knows
  case noted =>
    intro t r b hpolled
    have hend : m.endsPoll? (.step t) = some r := by simp [endsPoll?, hpolled]
    rw [(effect_act m _).tracker, trackerAfter, hend]
  case two =>
    intro t u ht hu hpolls hpolls'
    have hloop := (htended.loops t).1 (hpolls.loops ht)
    rw [(htended.loops u).1 (hpolls'.loops hu)] at hloop
    exact (Option.some.inj hloop).symm

end Runs

/-! ### A new loop beside one that stops -/

/-- The only subscription ends while its loop is polling, and another one begins at once: its loop
has to wait for the turn. -/
def resubscribed : List Action := [.subscribe, .step 0, .unsubscribe 0, .subscribe, .step 1]

/-- One loop goes on, and the other one will at most be told the result of its poll. -/
theorem one_loop_of_resubscribed :
    let m := (start .default [] 0).run resubscribed
    m.consumers = m.live ∧ (∃! t, m.Loops t) ∧
      ∃ q s, m.activity? 0 = some (.polling q s) ∧
        ∀ later, ∃ es, (m.run later).trace 0 = m.trace 0 ++ es ∧ Remains 0 (.polling q s) es := by
  intro m
  have hcalm : Calm resubscribed := by simp [Calm, resubscribed]
  obtain ⟨hcounted, -, -, hone, hstopped, -⟩ :=
    @one_loop_while_subscribed .default [] 0 resubscribed hcalm
  refine ⟨hcounted, hone.2 (by decide), _, _, rfl, fun later => ?_⟩
  obtain ⟨es, htrace, hremains, -⟩ := hstopped 0 _ rfl rfl later
  exact ⟨es, htrace, hremains⟩

end EthRpc.Machine
