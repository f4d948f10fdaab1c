-- SUMMARY: Polls are sent one at a time, each for a reason that holds when it is sent, so those who wait share one.
import EthRpc.Proofs.Machine.Audience
import EthRpc.Proofs.Machine.Heads
import EthRpc.Proofs.Machine.Turns

/-!
# Polls

A question is looked at twice, before its task asks for the turn and once it has
it, and what was true at first may not be true any more. What counts is the
second look: a poll is sent by the holder of the turn in a state that calls for
it. Whoever has waited while somebody else polled finds the answer there.
-/

namespace EthRpc.Machine

/-! ## Looking at the head -/

/-- What calls for a poll, for somebody who has the turn. -/
def Warrants (m : Machine) : Seeker → Prop
  | .query .latest _ =>
    m.tracker.observed = none ∨
      m.isRunning = false ∧ ∃ h at_, m.tracker.observed = some (h, at_) ∧
        m.tracker.settings.blockReset ≤ m.now - at_
  | .query .check _ => True
  | .query (.ifBehind n) _ => ∃ h, m.tracker.head? = some h ∧ h.number < n
  | .loop _ stopped => stopped = false

section Looking

variable {m : Machine} {t : TaskId} {a : Action} {old : Activity} {s : Seeker}

theorem warrants_of_needsPoll (h : m.needsPoll s) : m.Warrants s := by
  cases s with
  | loop b stopped => simpa [needsPoll, Warrants] using h
  | query q k =>
    have hnone : m.tracker.answer? m.isRunning m.now q = none := Option.isNone_iff_eq_none.1 h
    cases q with
    | check => trivial
    | latest =>
      have hstale : m.tracker.fresh? m.isRunning m.now = none := by
        simpa [Tracker.answer?] using hnone
      unfold Tracker.fresh? at hstale
      split at hstale
      next hobserved => exact .inl hobserved
      next head at_ hobserved =>
        split at hstale
        next => cases hstale
        next hlong =>
          simp only [not_or, Bool.not_eq_true, Nat.not_lt] at hlong
          exact .inr ⟨hlong.1, head, at_, hobserved, hlong.2⟩
    | ifBehind n =>
      have hbehind : m.tracker.isBehind n := by
        simpa [Tracker.answer?] using hnone
      unfold Tracker.isBehind at hbehind
      split at hbehind
      next => cases hbehind
      next head hhead => exact ⟨head, hhead, by simpa using hbehind⟩

theorem events_of_needsPoll {s : Seeker} (hold : m.activity? t = some old) (hl : m.Looks old s)
    (hneeds : m.needsPoll s) : m.events (.step t) = [.sent t true m.tracker.pollRequest] :=
  (events_of_looks hold hl).trans (if_pos hneeds)

/-- Who looks at the head and has to poll sends the poll. -/
theorem activity?_act_of_needsPoll (h : m.activity? t = some old) (hl : m.Looks old s)
    (hneeds : m.needsPoll s) :
    (m.act (.step t)).activity? t = some (.polling m.tracker.pollRequest s) := by
  obtain ⟨-, new, hnew, hadv⟩ := advancesTo_advance h hl.canRun
  rw [act, hnew]
  cases hadv with
  | poll hl' _ => cases hl <;> cases hl' <;> rfl
  | learn hl' ha => cases hl <;> cases hl' <;> simp [needsPoll, ha] at hneeds
  | give hl' => cases hl <;> cases hl' <;> cases hneeds
  | wait hbusy =>
    cases hl with
    | seeking hfree => exact absurd hfree hbusy
  | _ => cases hl

/-- Who looks at the head and finds the answer goes on with it, and no poll is sent. -/
theorem act_of_answer? {q : Query} {k : q.Answer → Program} {answer : q.Answer}
    (h : m.activity? t = some old) (hl : m.Looks old (.query q k))
    (ha : m.tracker.answer? m.isRunning m.now q = some answer) :
    (m.act (.step t)).activity? t = some (.running (k answer)) ∧
      (m.act (.step t)).log = m.log := by
  have hneeds : ¬m.needsPoll (.query q k) := by simp [needsPoll, ha]
  constructor
  · obtain ⟨-, new, hnew, hadv⟩ := advancesTo_advance h hl.canRun
    rw [act, hnew]
    cases hadv with
    | learn hl' ha' =>
      cases hl <;> cases hl' <;> simp_all
    | poll hl' hneeds' => cases hl <;> cases hl' <;> exact absurd hneeds' hneeds
    | give hl' => cases hl <;> cases hl'
    | wait hbusy =>
      cases hl with
      | seeking hfree => exact absurd hfree hbusy
    | _ => cases hl
  · have hevents : m.events (.step t) = [] := by
      cases hl <;> simp [events, h, pollEvents, hneeds]
    simp [(effect_act m (.step t)).log, hevents]

/-- A poll is sent by a step of a task that looks at the head and has to. -/
theorem exists_of_sent_poll {q : Request} (h : .sent t true q ∈ m.events a) :
    a = .step t ∧ q = m.tracker.pollRequest ∧
      ∃ old s, m.activity? t = some old ∧ m.Looks old s ∧ m.needsPoll s := by
  generalize hevent : Event.sent t true q = e at h
  cases emits_of_mem_events h with
  | asked hold hl hneeds =>
    cases hevent
    exact ⟨rfl, rfl, _, _, hold, hl, hneeds⟩
  | _ => cases hevent

end Looking

/-! ## Time -/

/-- The head was observed at some time or later. -/
def ObservedSince (m : Machine) (time : Duration) : Prop :=
  time ≤ m.now ∧ ∃ h at_, m.tracker.observed = some (h, at_) ∧ time ≤ at_

section Observed

variable {m : Machine} {a : Action} {time : Duration}

theorem observed_of_reported? {h : BlockHead} (ha : m.reported? a = some h) :
    ∃ head, (m.act a).tracker.observed = some (head, m.now) := by
  rw [tracker_act_of_reported? ha]
  unfold Tracker.observe
  split
  · split <;> exact ⟨_, rfl⟩
  · exact ⟨_, rfl⟩

theorem observedSince_of_reported? {h : BlockHead} (ha : m.reported? a = some h) :
    (m.act a).ObservedSince m.now := by
  obtain ⟨head, hobserved⟩ := observed_of_reported? ha
  exact ⟨now_le_act m a, head, m.now, hobserved, Nat.le_refl _⟩

theorem ObservedSince.act (hm : m.ObservedSince time) (a : Action) :
    (m.act a).ObservedSince time := by
  obtain ⟨hnow, head, at_, hobserved, hat⟩ := hm
  refine ⟨Nat.le_trans hnow (now_le_act m a), ?_⟩
  cases ha : m.reported? a with
  | none =>
    rw [(tracker_act_of_reported?_none ha).1]
    exact ⟨head, at_, hobserved, hat⟩
  | some h =>
    obtain ⟨head', hobserved'⟩ := observed_of_reported? ha
    exact ⟨head', m.now, hobserved', hnow⟩

theorem ObservedSince.run (hm : m.ObservedSince time) (actions : List Action) :
    (m.run actions).ObservedSince time := by
  induction actions generalizing m with
  | nil => exact hm
  | cons a rest ih => exact ih (hm.act a)

theorem settings_act (m : Machine) (a : Action) :
    (m.act a).tracker.settings = m.tracker.settings := by
  rw [(effect_act m a).tracker]
  unfold trackerAfter
  split
  · exact Tracker.digest_settings ..
  · split <;> rfl

theorem settings_run (m : Machine) (actions : List Action) :
    (m.run actions).tracker.settings = m.tracker.settings := by
  induction actions generalizing m with
  | nil => rfl
  | cons a rest ih => exact (ih (m.act a)).trans (settings_act m a)

/-- As long as the last observation is not too old, the latest head is the tracked one. -/
theorem ObservedSince.answer?_latest (hm : m.ObservedSince time)
    (hfresh : m.now - time < m.tracker.settings.blockReset) :
    ∃ head, m.tracker.head? = some head ∧
      m.tracker.answer? m.isRunning m.now .latest = some (.ok head) := by
  obtain ⟨-, head, at_, hobserved, hat⟩ := hm
  have hyoung : m.now - at_ < m.tracker.settings.blockReset :=
    Nat.lt_of_le_of_lt (Nat.sub_le_sub_left hat m.now) hfresh
  refine ⟨head, by simp [Tracker.head?, hobserved], ?_⟩
  simp [Tracker.answer?, Tracker.fresh?, hobserved, hyoung]

/-- Who knows a head of some number need not poll for it. -/
theorem Knows.answer?_ifBehind {n : Nat} (hm : m.Knows n) :
    m.tracker.answer? m.isRunning m.now (.ifBehind n) = some (.ok none) := by
  obtain ⟨head, hhead, hle⟩ := hm
  have hbehind : m.tracker.isBehind n = false := by
    simp [Tracker.isBehind, hhead, hle]
  simp [Tracker.answer?, hbehind]

end Observed

/-! ## Runs -/

/-- Over any run, at most one poll is on its way, and each is sent for a reason that holds at that
moment. So whoever gets the turn soon after a successful poll of somebody else, and wants the latest
head, is told the tracked one without a poll, and whoever wants to catch up with a number that the
tracked head has reached is told that there is nothing to do. -/
theorem polls_one_at_a_time (settings : Tracker.Settings) (capacities : List Nat) (tables : Nat)
    (actions : List Action) :
    let m := (start settings capacities tables).run actions
    (∀ t u q q' s s', m.activity? t = some (.polling q s) → m.activity? u = some (.polling q' s') →
      t = u) ∧
    (∀ a t q, .sent t true q ∈ m.events a →
      a = .step t ∧ (∃ old s, m.activity? t = some old ∧ m.Looks old s ∧ m.Warrants s ∧
        (m.act a).activity? t = some (.polling q s)) ∧
      ∀ u q' s', m.activity? u ≠ some (.polling q' s')) ∧
    (∀ before a h, before ++ [a] <+: actions →
      ((start settings capacities tables).run before).reported? a = some h →
      m.now - ((start settings capacities tables).run before).now < settings.blockReset →
      ∀ t old k, m.activity? t = some old → m.Looks old (.query .latest k) →
        ∃ head, m.tracker.head? = some head ∧
          (m.act (.step t)).activity? t = some (.running (k (.ok head))) ∧
          (m.act (.step t)).log = m.log) ∧
    ∀ before n, before <+: actions → ((start settings capacities tables).run before).Knows n →
      ∀ t old k, m.activity? t = some old → m.Looks old (.query (.ifBehind n) k) →
        (m.act (.step t)).activity? t = some (.running (k (.ok none))) ∧
          (m.act (.step t)).log = m.log := by
  intro m
  have hexclusive : m.Exclusive := (exclusive_start settings capacities tables).run actions
  refine ⟨?one, ?warranted, ?latest, ?behind⟩
  case one =>
    intro t u q q' s s' ht hu
    exact hexclusive.eq ht rfl hu rfl
  case warranted =>
    intro a t q hsent
    obtain ⟨rfl, rfl, old, s, hold, hl, hneeds⟩ := exists_of_sent_poll hsent
    refine ⟨rfl, ⟨old, s, hold, hl, warrants_of_needsPoll hneeds,
      activity?_act_of_needsPoll hold hl hneeds⟩, ?_⟩
    intro u q' s' hu
    have hholder := hexclusive u _ hu rfl
    cases hl with
    | seeking hfree =>
      rw [hholder] at hfree
      cases hfree
    | admitted =>
      obtain rfl := hexclusive.eq hold rfl hu rfl
      rw [hold] at hu
      cases hu
  case latest =>
    rintro before a h ⟨rest, rfl⟩ hreported hfresh t old k hold hl
    have hsince : m.ObservedSince ((start settings capacities tables).run before).now := by
      have hobserved := (observedSince_of_reported? hreported).run rest
      rwa [← run_concat, ← run_append] at hobserved
    have hsettings : m.tracker.settings = settings := settings_run _ _
    obtain ⟨head, hhead, hanswer⟩ := hsince.answer?_latest (by rwa [hsettings])
    exact ⟨head, hhead, act_of_answer? hold hl hanswer⟩
  case behind =>
    intro before n hbefore hknows t old k hold hl
    exact act_of_answer? hold hl (hknows.of_isPrefix hbefore).answer?_ifBehind

/-! ### Two who ask at once -/

/-- Ask for the latest head. -/
def askLatest : Program :=
  .ask (.query .latest) fun r => .done (r.map BlockHead.toJson)

/-- Two tasks ask when no head is known; the first one polls and the second one waits for it. -/
def askedTwice : List Action :=
  [.launch askLatest, .launch askLatest, .step 0, .step 1, .step 0, .step 1,
    .answer 0 (.ok (BlockHead.toJson ⟨16, .ofNat 7⟩)), .step 0]

/-- The second one is told the head that the first one has polled, and polls no more. -/
theorem second_of_askedTwice :
    let m := (start .default [] 0).run askedTwice
    ∃ head, m.tracker.head? = some head ∧
      (m.act (.step 1)).activity? 1 =
        some (.running (.done ((Except.ok head).map BlockHead.toJson))) ∧
      (m.act (.step 1)).log = m.log := by
  refine (polls_one_at_a_time .default [] 0 askedTwice).2.2.1 (askedTwice.take 7) (.step 0)
    ⟨16, .ofNat 7⟩ ⟨[], rfl⟩ rfl ?_ 1 _ (fun r => .done (r.map BlockHead.toJson)) rfl .admitted
  decide

end EthRpc.Machine
