-- SUMMARY: Every way in which an action can change what a task is doing.
import EthRpc.Proofs.Machine.Effect

/-!
# Moves

From one state to the next, a task goes on with its own step, gets an answer
from outside, hears of the end of a run, gets the turn, is told to stop, or
stays as it is. The relation lists these ways with their guards, so that what
holds of all tasks is proved by one case for each.
-/

namespace EthRpc.Machine

/-! ## The moves -/

/-- The machine replies to a command at once. -/
inductive Replies (m : Machine) : (c : Command) → c.Reply → Prop where
  | known {q : Query} {a : q.Answer} :
      m.tracker.answer? m.isRunning m.now q = some a → Replies m (.query q) a
  | currentHead : Replies m .currentHead m.tracker.head?
  | freshId : Replies m .freshId m.nextId
  | hit {i : Nat} {key : String} {v : Json} {cache : Lru Json} :
      m.caches[i]?.bind (·.get? key) = some (v, cache) → Replies m (.lookup i key) (some v)
  | miss {i : Nat} {key : String} :
      m.caches[i]?.bind (·.get? key) = none → Replies m (.lookup i key) none
  | kept {i : Nat} {key : String} {v : Json} : Replies m (.keep i key v) ()
  | counted {c : Counter} : Replies m (.count c) ()
  | marked {label : String} {entering : Bool} : Replies m (.mark label entering) ()

/-- A seeker takes the turn, or has it and looks at the head. -/
inductive Looks (m : Machine) : Activity → Seeker → Prop where
  | seeking {s : Seeker} : m.turn.holder = none → Looks m (.seeking s) s
  | admitted {s : Seeker} : Looks m (.admitted s) s

/-- How long a poll loop waits after a poll, and the backoff that it goes on with. -/
def pauseAfter (m : Machine) (b : Backoff) : Except RpcError BlockHead → Duration × Backoff
  | .ok _ => (m.tracker.settings.pollInterval, b.reset)
  | .error _ => b.next 0

/-- The step of a task of its own. -/
inductive Advances (m : Machine) : Activity → Activity → Prop where
  | finish {r : Outcome} : Advances m (.running (.done r)) (.finished r)
  | reply {c : Command} {k : c.Reply → Program} {a : c.Reply} :
      m.Replies c a → Advances m (.running (.ask c k)) (.running (k a))
  | send {q : Request} {k : Outcome → Program} :
      Advances m (.running (.ask (.send q) k)) (.calling q k)
  | sleep {d : Duration} {k : Unit → Program} :
      Advances m (.running (.ask (.sleep d) k)) (.sleeping (m.now + d) (k ()))
  | inquire {q : Query} {k : q.Answer → Program} :
      m.tracker.answer? m.isRunning m.now q = none →
      Advances m (.running (.ask (.query q) k)) (.seeking (.query q k))
  | join {i : Nat} {key : String} {run : Program} {k : Outcome → Program} {e : SharedRun} :
      m.sharedRun? i key = some e →
      Advances m (.running (.share i key run k)) (.joined e.run k)
  | lead {i : Nat} {key : String} {run : Program} {k : Outcome → Program} :
      m.sharedRun? i key = none →
      Advances m (.running (.share i key run k)) (.leading m.tasks.size k)
  | wait {s : Seeker} : m.turn.holder ≠ none → Advances m (.seeking s) (.queued s)
  | learn {old : Activity} {q : Query} {k : q.Answer → Program} {a : q.Answer} :
      m.Looks old (.query q k) → m.tracker.answer? m.isRunning m.now q = some a →
      Advances m old (.running (k a))
  | poll {old : Activity} {s : Seeker} :
      m.Looks old s → m.needsPoll s → Advances m old (.polling m.tracker.pollRequest s)
  | give {old : Activity} {b : Backoff} :
      m.Looks old (.loop b true) → Advances m old (.finished (.ok .null))
  | digest {r : Outcome} {q : Query} {k : q.Answer → Program} :
      Advances m (.polled r (.query q k)) (.running (k (q.report (Tracker.polledHead r))))
  | pause {r : Outcome} {b b' : Backoff} {stopped : Bool} {wait : Duration} :
      m.pauseAfter b (Tracker.polledHead r) = (wait, b') →
      Advances m (.polled r (.loop b stopped)) (.pausing (m.now + wait) (.loop b' stopped))
  | wake {d : Duration} {b : Backoff} :
      Advances m (.pausing d (.loop b true)) (.finished (.ok .null))

/-- An action ends a run with an outcome for those who joined it and one for its leader. -/
inductive EndsRun (m : Machine) : Action → TaskId → Outcome → Outcome → Prop where
  | finished {run : TaskId} {r : Outcome} :
      m.activity? run = some (.running (.done r)) → EndsRun m (.step run) run r r
  | crashed {run : TaskId} {old : Activity} :
      m.activity? run = some old → old.canFail →
      EndsRun m (.crash run) run (.error abandoned) (.error failedRun)

/-- What a task was doing before and after an action. -/
inductive Moves (m : Machine) : Action → TaskId → Activity → Activity → Prop where
  | stay {a : Action} {t : TaskId} {old : Activity} : Moves m a t old old
  | own {t : TaskId} {old new : Activity} : m.Advances old new → Moves m (.step t) t old new
  | answered {t : TaskId} {q : Request} {k : Outcome → Program} {r : Outcome} :
      Moves m (.answer t r) t (.calling q k) (.running (k r))
  | informed {t : TaskId} {q : Request} {s : Seeker} {r : Outcome} :
      Moves m (.answer t r) t (.polling q s) (.polled r s)
  | crashed {t : TaskId} {old : Activity} :
      m.activity? t = some old → old.canFail → Moves m (.crash t) t old .crashed
  | awake {t : TaskId} {d : Duration} {p : Program} :
      d ≤ m.now → Moves m (.fire t) t (.sleeping d p) (.running p)
  | again {t : TaskId} {d : Duration} {s : Seeker} :
      d ≤ m.now → Moves m (.fire t) t (.pausing d s) (.seeking s)
  | cancelled {t : TaskId} {old : Activity} :
      m.role? t = some .caller → old.isOver = false → Moves m (.abort t) t old .cancelled
  | admitted {a : Action} {t : TaskId} {s : Seeker} : Moves m a t (.queued s) (.admitted s)
  | stopped {i : Nat} {t : TaskId} {old : Activity} : Moves m (.unsubscribe i) t old old.stop
  | heard {a : Action} {t run : TaskId} {k : Outcome → Program} {r r' : Outcome} :
      m.EndsRun a run r r' → Moves m a t (.joined run k) (.running (k r))
  | returned {a : Action} {t run : TaskId} {k : Outcome → Program} {r r' : Outcome} :
      m.EndsRun a run r r' → Moves m a t (.leading run k) (.running (k r'))

/-! ## Every change is a move -/

/-- All tasks of `m` are there in `n`, after moves of an action. -/
def MovesTo (m : Machine) (a : Action) (n : Machine) : Prop :=
  ∀ u old, m.activity? u = some old → ∃ new, n.activity? u = some new ∧ Moves m a u old new

variable {m n : Machine} {a : Action} {t : TaskId} {old new : Activity}

theorem movesTo_of_eq (hn : ∀ u < m.tasks.size, n.activity? u = m.activity? u) :
    MovesTo m a n := by
  intro u old h
  have hu : u < m.tasks.size := by
    by_contra hlt
    simp [activity?, hlt] at h
  exact ⟨old, (hn u hu).trans h, .stay⟩

theorem movesTo_refl (m : Machine) (a : Action) : MovesTo m a m := movesTo_of_eq fun _ _ => rfl

theorem MovesTo.setActivity (hn : MovesTo m a n) (h : m.activity? t = some old)
    (hm : Moves m a t old new) : MovesTo m a (n.setActivity t new) := by
  intro u old' h'
  obtain ⟨new', hnew', hm'⟩ := hn u old' h'
  by_cases hu : t = u
  · subst hu
    rw [h] at h'
    cases h'
    exact ⟨new, activity?_setActivity_self hnew', hm⟩
  · exact ⟨new', (activity?_setActivity_of_ne hu).trans hnew', hm'⟩

theorem moves_enter (old : Activity) : Moves m a t old old.enter := by
  cases old with
  | queued s => exact .admitted
  | _ => exact .stay

theorem movesTo_passTurn (hn : ∀ u, n.activity? u = m.activity? u) : MovesTo m a n.passTurn := by
  intro u old h
  rw [activity?_passTurn, hn, h]
  split
  · exact ⟨_, rfl, moves_enter old⟩
  · exact ⟨_, rfl, .stay⟩

/-- A task that goes on and lets the turn pass does not get it again. -/
theorem movesTo_setActivity_passTurn (hn : ∀ u, n.activity? u = m.activity? u)
    (h : m.activity? t = some old) (hm : Moves m a t old new) (hnew : new.enter = new) :
    MovesTo m a (n.setActivity t new).passTurn := by
  intro u old' h'
  rw [activity?_passTurn]
  by_cases hu : t = u
  · subst hu
    rw [h] at h'
    cases h'
    rw [activity?_setActivity_self ((hn t).trans h)]
    exact ⟨new, by split <;> simp [hnew], hm⟩
  · rw [activity?_setActivity_of_ne hu, hn, h']
    split
    · exact ⟨_, rfl, moves_enter old'⟩
    · exact ⟨_, rfl, .stay⟩

/-- A task has advanced in `n`, and all others are there after moves of its step. -/
def AdvancesTo (m : Machine) (t : TaskId) (old : Activity) (n : Machine) : Prop :=
  MovesTo m (.step t) n ∧ ∃ new, n.activity? t = some new ∧ m.Advances old new

theorem MovesTo.advance (hn : MovesTo m (.step t) n) (h : m.activity? t = some old)
    (ha : m.Advances old new) : m.AdvancesTo t old (n.setActivity t new) := by
  obtain ⟨old', hold', -⟩ := hn t old h
  exact ⟨hn.setActivity h (.own ha), new, activity?_setActivity_self hold', ha⟩

/-- A task that advances and lets the turn pass does not get it again. -/
theorem advancesTo_passTurn (hn : ∀ u, n.activity? u = m.activity? u)
    (h : m.activity? t = some old) (ha : m.Advances old new) (hnew : new.enter = new) :
    m.AdvancesTo t old (n.setActivity t new).passTurn := by
  refine ⟨movesTo_setActivity_passTurn hn h (.own ha) hnew, new, ?_, ha⟩
  rw [activity?_passTurn, activity?_setActivity_self ((hn t).trans h)]
  split <;> simp [hnew]

/-- Who waits for no run does not notice the end of one. -/
theorem activity?_closeRun_of_deaf {u : TaskId} {r r' : Outcome} (h : n.activity? u = some old)
    (hj : old.hear t r = old) (hl : old.hearAsLeader t r' = old) :
    (n.closeRun t r r').activity? u = some old := by
  by_cases hrole : ∃ i key leader, n.role? t = some (.run i key leader)
  · obtain ⟨i, key, leader, hrole⟩ := hrole
    simp [activity?_closeRun u hrole, h, hj, hl]
  · simp only [not_exists] at hrole
    rw [closeRun_of_not_run hrole, h]

/-- The end of a run is a move for those who wait for it and for nobody else. -/
theorem moves_closeRun {u : TaskId} {r r' : Outcome} (he : m.EndsRun a t r r')
    (h : n.activity? u = some old) :
    ∃ new, (n.closeRun t r r').activity? u = some new ∧ Moves m a u old new := by
  by_cases hrole : ∃ i key leader, n.role? t = some (.run i key leader)
  · obtain ⟨i, key, leader, hrole⟩ := hrole
    rw [activity?_closeRun u hrole, h]
    cases old with
    | joined run k =>
      by_cases hr : run = t ∧ u ∈ n.joiners i key
      · obtain ⟨rfl, hj⟩ := hr
        exact ⟨.running (k r), by simp [hj, Activity.hear, Activity.hearAsLeader], .heard he⟩
      · refine ⟨.joined run k, ?_, .stay⟩
        by_cases hj : u ∈ n.joiners i key <;> simp_all [Activity.hear, Activity.hearAsLeader]
    | leading run k =>
      by_cases hr : run = t ∧ leader = u
      · obtain ⟨rfl, rfl⟩ := hr
        exact ⟨.running (k r'), by simp [Activity.hear, Activity.hearAsLeader], .returned he⟩
      · refine ⟨.leading run k, ?_, .stay⟩
        by_cases hl : leader = u <;> simp_all [Activity.hear, Activity.hearAsLeader]
    | _ => exact ⟨_, by simp [Activity.hear, Activity.hearAsLeader], .stay⟩
  · simp only [not_exists] at hrole
    rw [closeRun_of_not_run hrole]
    exact ⟨old, h, .stay⟩

/-! ### Steps of a task -/

theorem Looks.canRun {s : Seeker} (h : m.Looks old s) : old.canRun := by
  cases h <;> rfl

theorem Advances.canRun (h : m.Advances old new) : old.canRun := by
  cases h with
  | learn hl _ | poll hl _ | give hl => exact hl.canRun
  | _ => rfl

theorem advancesTo_finish {r : Outcome} (h : m.activity? t = some (.running (.done r))) :
    m.AdvancesTo t (.running (.done r)) (m.finish t r) := by
  have hself : ((m.setActivity t (.finished r)).record (.finished t r)).activity? t =
      some (.finished r) := activity?_setActivity_self h
  have hfinished : (m.finish t r).activity? t = some (.finished r) :=
    activity?_closeRun_of_deaf hself rfl rfl
  refine ⟨?_, .finished r, hfinished, .finish⟩
  intro u old hu
  by_cases htu : t = u
  · subst htu
    rw [h] at hu
    cases hu
    exact ⟨.finished r, hfinished, .own .finish⟩
  · exact moves_closeRun (.finished h) ((activity?_setActivity_of_ne htu).trans hu)

theorem advancesTo_perform {c : Command} {k : c.Reply → Program}
    (h : m.activity? t = some (.running (.ask c k))) :
    m.AdvancesTo t (.running (.ask c k)) (m.perform t c k) := by
  have hn : ∀ n : Machine, n.tasks = m.tasks → MovesTo m (.step t) n :=
    fun n hn => movesTo_of_eq fun u _ => by simp [activity?, hn]
  cases c with
  | send q => exact (hn _ rfl).advance h .send
  | query q =>
    simp only [perform, query]
    split
    next a ha => exact (hn _ rfl).advance h (.reply (.known ha))
    next ha => exact (hn _ rfl).advance h (.inquire ha)
  | currentHead => exact (hn _ rfl).advance h (.reply .currentHead)
  | freshId => exact MovesTo.advance (hn _ rfl) h (.reply .freshId)
  | sleep d => exact (hn _ rfl).advance h .sleep
  | lookup i key =>
    simp only [perform]
    split
    next v cache hc => exact (hn _ rfl).advance h (.reply (.hit hc))
    next hc => exact (hn _ rfl).advance h (.reply (.miss hc))
  | keep i key v => exact (hn _ rfl).advance h (.reply .kept)
  | count c => exact (hn _ rfl).advance h (.reply .counted)
  | mark label entering => exact (hn _ rfl).advance h (.reply .marked)

theorem movesTo_spawn (hn : n.tasks = m.tasks) (role : Role) (new : Activity) :
    MovesTo m a (n.spawn role new) :=
  movesTo_of_eq fun u hu => by
    simp [activity?, spawn, Array.getElem?_push, hn, Nat.ne_of_lt hu]

theorem advancesTo_share {i : Nat} {key : String} {run : Program} {k : Outcome → Program}
    (h : m.activity? t = some (.running (.share i key run k))) :
    m.AdvancesTo t (.running (.share i key run k)) (m.share t i key run k) := by
  unfold share
  split
  next e he => exact MovesTo.advance (movesTo_of_eq fun _ _ => rfl) h (.join he)
  next he =>
    have htasks : ((m.setTable i (m.table i ++ [⟨key, m.tasks.size, []⟩])).count .led).tasks =
        m.tasks := rfl
    exact (movesTo_spawn htasks _ _).advance h (.lead he)

/-- Only the turn may differ between the state before and the one with a look at the head. -/
theorem advancesTo_look {s : Seeker} (h : m.activity? t = some old) (hl : m.Looks old s)
    (turn : Turn) : m.AdvancesTo t old (({ m with turn := turn } : Machine).look t s) := by
  have hn : ∀ u, ({ m with turn := turn } : Machine).activity? u = m.activity? u := fun _ => rfl
  cases s with
  | query q k =>
    simp only [look]
    split
    next a ha => exact advancesTo_passTurn hn h (.learn hl ha) rfl
    next ha =>
      have hneeds : m.needsPoll (.query q k) := Option.isNone_iff_eq_none.2 ha
      exact MovesTo.advance (movesTo_of_eq fun _ _ => rfl) h (.poll hl hneeds)
  | loop b stopped =>
    simp only [look]
    cases stopped with
    | true => exact advancesTo_passTurn hn h (.give hl) rfl
    | false => exact MovesTo.advance (movesTo_of_eq fun _ _ => rfl) h (.poll hl rfl)

theorem advancesTo_seek {s : Seeker} (h : m.activity? t = some (.seeking s)) :
    m.AdvancesTo t (.seeking s) (m.seek t s) := by
  unfold seek
  dsimp only
  split
  next hf => exact advancesTo_look h (.seeking (by simpa using hf)) _
  next hf =>
    exact MovesTo.advance (movesTo_of_eq fun _ _ => rfl) h (.wait (by simpa using hf))

theorem advancesTo_digest {r : Outcome} {s : Seeker} (h : m.activity? t = some (.polled r s)) :
    m.AdvancesTo t (.polled r s) (m.digest t r s) := by
  have hended : MovesTo m (.step t) (m.endedPoll t (Tracker.polledHead r)) :=
    movesTo_passTurn fun _ => rfl
  have hnow : (m.endedPoll t (Tracker.polledHead r)).now = m.now := (quiet_passTurn _).now
  cases s with
  | query q k => exact hended.advance h .digest
  | loop b stopped =>
    have hpause : ∀ (n : Machine) (wait : Duration) (b' : Backoff), MovesTo m (.step t) n →
        n.now = m.now → m.pauseAfter b (Tracker.polledHead r) = (wait, b') →
        m.AdvancesTo t (.polled r (.loop b stopped)) (n.pause t wait b' stopped) := by
      intro n wait b' hn hnow hwait
      have hrecord : MovesTo m (.step t) (n.record (.timer t wait)) := hn
      simp only [pause, hnow]
      exact hrecord.advance h (.pause hwait)
    cases hd : Tracker.polledHead r with
    | ok head =>
      have hsettings : (m.endedPoll t (.ok head)).tracker.settings = m.tracker.settings :=
        (congrArg _ (quiet_passTurn _).tracker).trans (Tracker.digest_settings ..)
      have hwait : m.pauseAfter b (.ok head) =
          ((m.endedPoll t (.ok head)).tracker.settings.pollInterval, b.reset) := by
        rw [hsettings]
        rfl
      rw [hd] at hended hnow hpause
      simp only [digest, hd]
      exact hpause _ _ _ hended hnow hwait
    | error e =>
      rw [hd] at hended hnow hpause
      simp only [digest, hd]
      exact hpause ((m.endedPoll t (.error e)).count .pollFailures) _ _ hended hnow rfl

/-- A task that can run advances by its own step. -/
theorem advancesTo_advance (h : m.activity? t = some old) (hrun : old.canRun) :
    m.AdvancesTo t old (m.advance t) := by
  simp only [advance, h]
  cases old with
  | running p =>
    cases p with
    | done r => exact advancesTo_finish h
    | ask c k => exact advancesTo_perform h
    | share i key run k => exact advancesTo_share h
  | seeking s => exact advancesTo_seek h
  | admitted s => exact advancesTo_look h .admitted m.turn
  | polled r s => exact advancesTo_digest h
  | pausing d s =>
    cases s with
    | query q k => cases hrun
    | loop b stopped =>
      cases stopped with
      | true => exact (movesTo_refl m _).advance h .wake
      | false => cases hrun
  | _ => cases hrun

theorem advances_of_act (h : m.activity? t = some old) (hrun : old.canRun)
    (hnew : (m.act (.step t)).activity? t = some new) : m.Advances old new := by
  obtain ⟨-, new', hnew', ha⟩ := advancesTo_advance h hrun
  rw [act, hnew'] at hnew
  cases hnew
  exact ha

/-- Nothing happens by the step of a task that cannot run. -/
theorem act_step_of_not_canRun (h : m.activity? t = some old) (hrun : old.canRun = false) :
    m.act (.step t) = m := by
  simp only [act, advance, h]
  cases old with
  | running | seeking | admitted | polled => cases hrun
  | pausing d s =>
    cases s with
    | query q k => rfl
    | loop b stopped =>
      cases stopped with
      | true => cases hrun
      | false => rfl
  | _ => rfl

theorem movesTo_advance (m : Machine) (t : TaskId) : MovesTo m (.step t) (m.advance t) := by
  cases h : m.activity? t with
  | none =>
    have hsame : m.advance t = m := by simp only [advance, h]
    rw [hsame]
    exact movesTo_refl m _
  | some old =>
    cases hrun : old.canRun with
    | true => exact (advancesTo_advance h hrun).1
    | false =>
      have hsame : m.advance t = m := act_step_of_not_canRun h hrun
      rw [hsame]
      exact movesTo_refl m _

/-! ### Events from outside -/

theorem movesTo_drop (h : m.activity? t = some old) (hm : Moves m a t old new)
    (hnew : new.enter = new) : MovesTo m a (m.drop t new) := by
  intro u old' h'
  rw [activity?_drop m t u h hnew]
  by_cases hu : t = u
  · subst hu
    rw [h] at h'
    cases h'
    exact ⟨new, by simp, hm⟩
  · rw [if_neg hu, h']
    split
    · exact ⟨_, rfl, moves_enter old'⟩
    · exact ⟨_, rfl, .stay⟩

theorem movesTo_crash (h : m.activity? t = some old) (hfail : old.canFail) :
    MovesTo m (.crash t)
      ((m.drop t .crashed).closeRun t (.error abandoned) (.error failedRun)) := by
  have he : m.EndsRun (.crash t) t (.error abandoned) (.error failedRun) := .crashed h hfail
  intro u old' h'
  have hdrop := activity?_drop m t u (a := .crashed) h rfl
  by_cases hu : t = u
  · subst hu
    rw [if_pos rfl] at hdrop
    rw [h] at h'
    cases h'
    exact ⟨.crashed, activity?_closeRun_of_deaf hdrop rfl rfl, .crashed h hfail⟩
  · rw [if_neg hu, h'] at hdrop
    split at hdrop
    · -- The turn may pass to a task, which then waits for no run.
      cases old' with
      | queued s => exact ⟨.admitted s, activity?_closeRun_of_deaf hdrop rfl rfl, .admitted⟩
      | _ => exact moves_closeRun he hdrop
    · exact moves_closeRun he hdrop

theorem movesTo_stopLoop (hn : ∀ u, n.activity? u = m.activity? u) (i : Nat) :
    MovesTo m (.unsubscribe i) (n.stopLoop t) := by
  intro u old h
  rw [activity?_stopLoop, hn, h]
  split
  · exact ⟨_, rfl, .stopped⟩
  · exact ⟨_, rfl, .stay⟩

theorem movesTo_answer (m : Machine) (t : TaskId) (r : Outcome) :
    MovesTo m (.answer t r) (m.act (.answer t r)) := by
  simp only [act]
  split
  next q k h => exact MovesTo.setActivity (movesTo_of_eq fun _ _ => rfl) h .answered
  next q s h => exact MovesTo.setActivity (movesTo_of_eq fun _ _ => rfl) h .informed
  next => exact movesTo_refl m _

theorem movesTo_fire (m : Machine) (t : TaskId) : MovesTo m (.fire t) (m.act (.fire t)) := by
  simp only [act]
  split
  next d p h =>
    split
    next hd => exact (movesTo_refl m _).setActivity h (.awake hd)
    next => exact movesTo_refl m _
  next d s h =>
    split
    next hd => exact (movesTo_refl m _).setActivity h (.again hd)
    next => exact movesTo_refl m _
  next => exact movesTo_refl m _

theorem movesTo_abort (m : Machine) (t : TaskId) : MovesTo m (.abort t) (m.act (.abort t)) := by
  simp only [act]
  split
  next old h =>
    split
    next => exact movesTo_refl m _
    next hover =>
      have hold : m.activity? t = some old := by simp [activity?, h]
      refine movesTo_drop hold (.cancelled ?_ ?_) rfl
      · simp [role?, h]
      · simpa using hover
  next => exact movesTo_refl m _

theorem movesTo_subscribe (m : Machine) : MovesTo m .subscribe m.subscribe := by
  simp only [subscribe]
  split
  next => exact fun u old h => movesTo_spawn (a := .subscribe) rfl _ _ u old h
  next => exact movesTo_of_eq fun _ _ => rfl

theorem movesTo_unsubscribe (m : Machine) (i : Nat) :
    MovesTo m (.unsubscribe i) (m.unsubscribe i) := by
  simp only [unsubscribe]
  split
  next =>
    split
    next =>
      split
      next t _ =>
        let n : Machine := { m with
          subscriptions := m.subscriptions.modify i fun _ => none
          consumers := m.consumers - 1 }
        have hn : ∀ u, n.activity? u = m.activity? u := fun _ => rfl
        exact fun u old h => movesTo_stopLoop (t := t) hn i u old h
      next => exact movesTo_of_eq fun _ _ => rfl
    next => exact movesTo_of_eq fun _ _ => rfl
  next => exact movesTo_refl m _

theorem movesTo_receive (m : Machine) (i : Nat) :
    MovesTo m (.receive i) (m.act (.receive i)) := by
  simp only [act, receive]
  split
  next s _ => cases s.next? m.tracker <;> exact movesTo_of_eq fun _ _ => rfl
  next => exact movesTo_refl m _

/-- Whatever the action, every task that was there makes a move. -/
theorem movesTo_act (m : Machine) (a : Action) : MovesTo m a (m.act a) := by
  cases a with
  | launch p => exact movesTo_spawn rfl _ _
  | step t => exact movesTo_advance m t
  | answer t r => exact movesTo_answer m t r
  | crash t =>
    simp only [act]
    split
    next old h =>
      split
      next hfail => exact movesTo_crash h hfail
      next => exact movesTo_refl m _
    next => exact movesTo_refl m _
  | fire t => exact movesTo_fire m t
  | abort t => exact movesTo_abort m t
  | subscribe => exact movesTo_subscribe m
  | unsubscribe i => exact movesTo_unsubscribe m i
  | receive i => exact movesTo_receive m i
  | pass d => exact movesTo_of_eq fun _ _ => rfl

end EthRpc.Machine
