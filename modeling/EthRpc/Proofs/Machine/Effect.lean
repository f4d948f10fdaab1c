-- SUMMARY: What an action does to each part of a machine other than the activities of its tasks.
import EthRpc.Proofs.Machine.Frame

/-!
# Effects

An action leaves a record, may start or end a poll, may read or write a cache,
may open or close a shared run, and may create a task. Each of these is read off
the action and the activity of the task that takes it. That nothing else happens
is the one theorem of this file.
-/

namespace EthRpc.Machine

variable (m : Machine)

/-! ## Polls -/

/-- A seeker that has the turn finds that it has to poll. -/
def needsPoll : Seeker → Bool
  | .query q _ => (m.tracker.answer? m.isRunning m.now q).isNone
  | .loop _ stopped => !stopped

/-- The task that starts a poll. -/
def startsPoll? : Action → Option TaskId
  | .step t =>
    match m.activity? t with
    | some (.seeking s) => if m.turn.holder.isNone ∧ m.needsPoll s then some t else none
    | some (.admitted s) => if m.needsPoll s then some t else none
    | _ => none
  | _ => none

/-- The result of the poll that comes to its end. -/
def endsPoll? : Action → Option Outcome
  | .step t =>
    match m.activity? t with
    | some (.polled r _) => some r
    | _ => none
  | _ => none

def trackerAfter (a : Action) : Tracker :=
  match m.endsPoll? a with
  | some r => m.tracker.digest m.now (Tracker.polledHead r)
  | none =>
    if (m.startsPoll? a).isSome then { m.tracker with nextId := m.tracker.nextId + 1 }
    else m.tracker

/-! ## The record -/

def pollEvents (t : TaskId) (s : Seeker) : List Event :=
  if m.needsPoll s then [.sent t true m.tracker.pollRequest] else []

/-- A poll loop asks for a timer after each of its polls. -/
def timerEvents (t : TaskId) (head : Except RpcError BlockHead) : Seeker → List Event
  | .query _ _ => []
  | .loop b _ =>
    match head with
    | .ok _ => [.timer t m.tracker.settings.pollInterval]
    | .error _ => [.timer t (b.next 0).1]

def commandEvents (t : TaskId) : Command → List Event
  | .send q => [.sent t false q]
  | .lookup i key =>
    match m.caches[i]?.bind (·.get? key) with
    | some (v, _) => [.recalled t i key v]
    | none => []
  | .keep i key v => [.stored t i key v]
  | .mark label entering => [.marked label entering]
  | _ => []

/-- What an action adds to the record, last first. -/
def events : Action → List Event
  | .step t =>
    match m.activity? t with
    | some (.running (.done r)) => [.finished t r]
    | some (.running (.ask c _)) => m.commandEvents t c
    | some (.seeking s) => if m.turn.holder.isNone then m.pollEvents t s else []
    | some (.admitted s) => m.pollEvents t s
    | some (.polled r s) =>
      m.timerEvents t (Tracker.polledHead r) s ++ [.polled t (Tracker.polledHead r)]
    | _ => []
  | .answer t r =>
    match m.activity? t with
    | some (.calling _ _) | some (.polling _ _) => [.answered t r]
    | _ => []
  | _ => []

/-! ## Caches, tables and tasks -/

def cachesAfter : Action → Array (Lru Json)
  | .step t =>
    match m.activity? t with
    | some (.running (.ask (.lookup i key) _)) =>
      match m.caches[i]?.bind (·.get? key) with
      | some (_, cache) => m.caches.modify i fun _ => cache
      | none => m.caches
    | some (.running (.ask (.keep i key v) _)) =>
      m.caches.modify i fun cache => (cache.insert key v).2
    | _ => m.caches
  | _ => m.caches

/-- Take note of who joins the run under a key. -/
def SharedRun.join (key : String) (t : TaskId) (e : SharedRun) : SharedRun :=
  if e.key = key then { e with joiners := e.joiners ++ [t] } else e

/-- The run under a key that can be joined. -/
def sharedRun? (i : Nat) (key : String) : Option SharedRun := (m.table i).find? (·.key = key)

def tablesAfter : Action → Array (List SharedRun)
  | .step t =>
    match m.activity? t with
    | some (.running (.done _)) => m.closedTables t
    | some (.running (.share i key _ _)) =>
      m.tables.modify i fun _ =>
        match m.sharedRun? i key with
        | some _ => (m.table i).map (.join key t)
        | none => m.table i ++ [⟨key, m.tasks.size, []⟩]
    | _ => m.tables
  | .crash t =>
    match m.activity? t with
    | some a => if a.canFail then m.closedTables t else m.tables
    | none => m.tables
  | _ => m.tables

/-- The task that an action creates. -/
def spawned? : Action → Option Task
  | .launch p => some ⟨.caller, .running p⟩
  | .step t =>
    match m.activity? t with
    | some (.running (.share i key run _)) =>
      match m.sharedRun? i key with
      | some _ => none
      | none => some ⟨.run i key t, .running run⟩
    | _ => none
  | .subscribe =>
    if m.consumers = 0 then
      some ⟨.pollLoop, .seeking (.loop (.start m.tracker.settings.backoff) false)⟩
    else none
  | _ => none

/-! ## All effects -/

/-- `m'` has all parts as they are after an action, activities apart. -/
structure Effect (a : Action) (m' : Machine) : Prop where
  tracker : m'.tracker = m.trackerAfter a
  log : m'.log = (m.events a).map (m.now, ·) ++ m.log
  caches : m'.caches = m.cachesAfter a
  tables : m'.tables = m.tablesAfter a
  size : m'.tasks.size = m.tasks.size + (m.spawned? a).toList.length
  role : ∀ u < m.tasks.size, m'.role? u = m.role? u
  fresh : m'.tasks[m.tasks.size]? = m.spawned? a

namespace Effect

variable {m} {a : Action} {m₁ m' : Machine}

/-- Without a new task, what comes after the effects may be quiet. -/
theorem of_quiet (h : Quiet m₁ m') (hs : m.spawned? a = none)
    (size : m₁.tasks.size = m.tasks.size) (role : ∀ u, m₁.role? u = m.role? u)
    (tracker : m₁.tracker = m.trackerAfter a)
    (log : m₁.log = (m.events a).map (m.now, ·) ++ m.log)
    (caches : m₁.caches = m.cachesAfter a) (tables : m₁.tables = m.tablesAfter a) :
    Effect m a m' where
  tracker := h.tracker.trans tracker
  log := h.log.trans log
  caches := h.caches.trans caches
  tables := h.tables.trans tables
  size := by simp [hs, h.size, size]
  role u _ := (h.role u).trans (role u)
  fresh := by simp [hs, h.size, size]

/-- An action that is quiet altogether. -/
theorem of_silent (h : Quiet m m') (hs : m.spawned? a = none) (ht : m.trackerAfter a = m.tracker)
    (he : m.events a = []) (hc : m.cachesAfter a = m.caches) (hb : m.tablesAfter a = m.tables) :
    Effect m a m' :=
  of_quiet h hs rfl (fun _ => rfl) ht.symm (by simp [he]) hc.symm hb.symm

end Effect

@[simp] theorem tasks_size_setActivity (t : TaskId) (a : Activity) :
    (m.setActivity t a).tasks.size = m.tasks.size := (quiet_setActivity m t a).size

@[simp] theorem closedTables_record (e : Event) (t : TaskId) :
    (m.record e).closedTables t = m.closedTables t := rfl

@[simp] theorem closedTables_setActivity (t u : TaskId) (a : Activity) :
    (m.setActivity t a).closedTables u = m.closedTables u := by
  unfold closedTables
  rw [role?_setActivity]
  rfl

@[simp] theorem Tracker.digest_settings (t : Tracker) (now : Duration)
    (r : Except RpcError BlockHead) : (t.digest now r).settings = t.settings := by
  cases r with
  | error e => rfl
  | ok h =>
    simp only [Tracker.digest, Tracker.observe]
    split
    · split <;> rfl
    · rfl

/-! ### Steps of a task -/

variable {m} {t : TaskId}

theorem effect_finish {r : Outcome} (h : m.activity? t = some (.running (.done r))) :
    Effect m (.step t) (m.finish t r) := by
  apply Effect.of_quiet (quiet_closeRun _ t r r)
  case role => exact role?_setActivity m t _
  case size => exact tasks_size_setActivity m t _
  case tables => simp [tablesAfter, h]
  all_goals simp [trackerAfter, endsPoll?, startsPoll?, events, cachesAfter, spawned?, h]
  all_goals rfl

theorem effect_perform {c : Command} {k : c.Reply → Program}
    (h : m.activity? t = some (.running (.ask c k))) :
    Effect m (.step t) (m.perform t c k) := by
  cases c with
  | lookup i key =>
    simp only [perform]
    split
    all_goals
      next hc =>
        apply Effect.of_quiet (quiet_setActivity _ t _)
        case role => exact fun _ => rfl
        case size => rfl
        all_goals simp [trackerAfter, endsPoll?, startsPoll?, events, commandEvents, cachesAfter,
          tablesAfter, spawned?, h, hc]
        all_goals rfl
  | query q =>
    have hq : Quiet m (m.query t q k) := by
      unfold query
      split <;> exact quiet_setActivity _ _ _
    apply Effect.of_silent hq
    all_goals simp [trackerAfter, endsPoll?, startsPoll?, events, commandEvents, cachesAfter,
      tablesAfter, spawned?, h]
  | _ =>
    apply Effect.of_quiet (quiet_setActivity _ t _)
    case role => exact fun _ => rfl
    case size => rfl
    all_goals simp [trackerAfter, endsPoll?, startsPoll?, events, commandEvents, cachesAfter,
      tablesAfter, spawned?, h]
    all_goals rfl

theorem effect_share {i : Nat} {key : String} {run : Program} {k : Outcome → Program}
    (h : m.activity? t = some (.running (.share i key run k))) :
    Effect m (.step t) (m.share t i key run k) := by
  unfold share
  split
  next e he =>
    apply Effect.of_quiet (quiet_setActivity _ t _)
    case role => exact fun _ => rfl
    case size => rfl
    case tables => simp [tablesAfter, h, sharedRun?, he, count, setTable]; rfl
    all_goals simp [trackerAfter, endsPoll?, startsPoll?, events, cachesAfter, spawned?,
      sharedRun?, h, he]
    all_goals rfl
  next he =>
    have ht : t < m.tasks.size := by
      by_contra hlt
      simp [activity?, hlt] at h
    have hs : m.spawned? (.step t) = some ⟨.run i key t, .running run⟩ := by
      simp [spawned?, h, sharedRun?, he]
    constructor
    case size => simp [hs, spawn, setTable, count]
    case fresh =>
      rw [hs]
      simp only [setActivity, spawn, setTable, count]
      rw [Array.getElem?_modify, if_neg (Nat.ne_of_lt ht), Array.getElem?_push_size]
    case role =>
      intro u hu
      rw [role?_setActivity]
      simp [role?, spawn, setTable, count, Array.getElem?_push, Nat.ne_of_lt hu]
    case tables => simp [tablesAfter, h, sharedRun?, he, count, setTable, spawn, setActivity]
    all_goals simp [trackerAfter, endsPoll?, startsPoll?, events, cachesAfter, h]
    all_goals rfl

/-- The machine once a poll is on its way, before the task that sent it takes note. -/
def sentPoll (m : Machine) (t : TaskId) : Machine :=
  ({ m with tracker := { m.tracker with nextId := m.tracker.nextId + 1 } }.count .polls).record
    (.sent t true m.tracker.pollRequest)

theorem quiet_look_of_needsPoll {s : Seeker} (h : m.needsPoll s) :
    Quiet (m.sentPoll t) (m.look t s) := by
  cases s with
  | query q k =>
    simp only [needsPoll, Option.isNone_iff_eq_none] at h
    simp only [look]
    split
    next a ha => simp [ha] at h
    next => exact quiet_setActivity _ t _
  | loop b stopped =>
    simp only [needsPoll, Bool.not_eq_true'] at h
    simp only [look, h]
    exact quiet_setActivity _ t _

theorem quiet_look_of_not_needsPoll {s : Seeker} (h : ¬m.needsPoll s) :
    Quiet m (m.look t s) := by
  cases s with
  | query q k =>
    simp only [needsPoll, Option.isNone_iff_eq_none] at h
    simp only [look]
    split
    next => exact (quiet_setActivity m t _).trans (quiet_passTurn _)
    next ha => exact absurd ha h
  | loop b stopped =>
    simp only [needsPoll, Bool.not_eq_true', Bool.not_eq_false] at h
    simp only [look, h]
    exact (quiet_setActivity m t _).trans (quiet_passTurn _)

theorem effect_look {s : Seeker} (h : m.activity? t = some (.admitted s)) :
    Effect m (.step t) (m.look t s) := by
  by_cases hp : m.needsPoll s
  · apply Effect.of_quiet (quiet_look_of_needsPoll hp)
    case role => exact fun _ => rfl
    case size => rfl
    all_goals simp [trackerAfter, endsPoll?, startsPoll?, events, pollEvents, cachesAfter,
      tablesAfter, spawned?, h, hp]
    all_goals rfl
  · apply Effect.of_silent (quiet_look_of_not_needsPoll hp)
    all_goals simp [trackerAfter, endsPoll?, startsPoll?, events, pollEvents, cachesAfter,
      tablesAfter, spawned?, h, hp]

theorem effect_seek {s : Seeker} (h : m.activity? t = some (.seeking s)) :
    Effect m (.step t) (m.seek t s) := by
  have hturn := quiet_turn m (m.turn.ask t)
  have hneeds : ({ m with turn := m.turn.ask t } : Machine).needsPoll s = m.needsPoll s := by
    cases s <;> rfl
  unfold seek
  by_cases hf : m.turn.holder.isNone
  · simp only [if_pos hf]
    by_cases hp : m.needsPoll s
    · apply Effect.of_quiet (quiet_look_of_needsPoll (hneeds.trans hp))
      case role => exact fun _ => rfl
      case size => rfl
      all_goals simp [trackerAfter, endsPoll?, startsPoll?, events, pollEvents, cachesAfter,
        tablesAfter, spawned?, h, hp, hf]
      all_goals rfl
    · apply Effect.of_silent (hturn.trans (quiet_look_of_not_needsPoll (by rwa [hneeds])))
      all_goals simp [trackerAfter, endsPoll?, startsPoll?, events, pollEvents, cachesAfter,
        tablesAfter, spawned?, h, hp]
  · simp only [if_neg hf]
    apply Effect.of_silent (hturn.trans (quiet_setActivity _ t _))
    all_goals simp [trackerAfter, endsPoll?, startsPoll?, events, cachesAfter, tablesAfter,
      spawned?, h, hf]

theorem quiet_pause (m : Machine) (t : TaskId) (wait : Duration) (b : Backoff) (stopped : Bool) :
    Quiet (m.record (.timer t wait)) (m.pause t wait b stopped) :=
  quiet_setActivity _ t _

/-- The machine once a poll has ended and the turn has passed on. -/
def endedPoll (m : Machine) (t : TaskId) (head : Except RpcError BlockHead) : Machine :=
  ({ m with tracker := m.tracker.digest m.now head }.record (.polled t head)).passTurn

theorem effect_digest {r : Outcome} {s : Seeker} (h : m.activity? t = some (.polled r s)) :
    Effect m (.step t) (m.digest t r s) := by
  have hq : Quiet _ (m.endedPoll t (Tracker.polledHead r)) := quiet_passTurn _
  have hlog : (m.endedPoll t (Tracker.polledHead r)).log =
      (m.now, .polled t (Tracker.polledHead r)) :: m.log := hq.log
  have hsettings : (m.endedPoll t (Tracker.polledHead r)).tracker.settings =
      m.tracker.settings := by
    rw [hq.tracker]
    exact Tracker.digest_settings ..
  have hspawned : m.spawned? (.step t) = none := by simp [spawned?, h]
  have htracker : m.trackerAfter (.step t) = m.tracker.digest m.now (Tracker.polledHead r) := by
    simp [trackerAfter, endsPoll?, h]
  have hcaches : m.cachesAfter (.step t) = m.caches := by simp [cachesAfter, h]
  have htables : m.tablesAfter (.step t) = m.tables := by simp [tablesAfter, h]
  have hevents : m.events (.step t) =
      m.timerEvents t (Tracker.polledHead r) s ++ [.polled t (Tracker.polledHead r)] := by
    simp [events, h]
  cases s with
  | query q k =>
    exact .of_quiet (hq.trans (quiet_setActivity _ t _)) hspawned rfl (fun _ => rfl)
      htracker.symm (by rw [hevents]; rfl) hcaches.symm htables.symm
  | loop b stopped =>
    -- The timer is asked for after the turn has passed on.
    cases hd : Tracker.polledHead r with
    | ok head =>
      rw [hd] at hq hlog hsettings hevents htracker
      have he : m.digest t r (.loop b stopped) = (m.endedPoll t (.ok head)).pause t
          m.tracker.settings.pollInterval b.reset stopped := by
        rw [← hsettings]
        simp [digest, endedPoll, hd]
      rw [he]
      exact .of_quiet (quiet_pause _ _ _ _ _) hspawned hq.size hq.role
        (hq.tracker.trans htracker.symm)
        (by simp [record, timerEvents, hevents, hlog, hq.now]) (hq.caches.trans hcaches.symm)
        (hq.tables.trans htables.symm)
    | error e =>
      rw [hd] at hq hlog hevents htracker
      have he : m.digest t r (.loop b stopped) = ((m.endedPoll t (.error e)).count
          .pollFailures).pause t (b.next 0).1 (b.next 0).2 stopped := by
        simp [digest, endedPoll, hd]
      rw [he]
      exact .of_quiet (quiet_pause _ _ _ _ _) hspawned hq.size hq.role
        (hq.tracker.trans htracker.symm)
        (by simp [record, count, timerEvents, hevents, hlog, hq.now]) (hq.caches.trans hcaches.symm)
        (hq.tables.trans htables.symm)

theorem effect_step (m : Machine) (t : TaskId) : Effect m (.step t) (m.advance t) := by
  unfold advance
  split
  next r h => exact effect_finish h
  next c k h => exact effect_perform h
  next i key run k h => exact effect_share h
  next s h => exact effect_seek h
  next s h => exact effect_look h
  next r s h => exact effect_digest h
  next d b h =>
    apply Effect.of_silent (quiet_setActivity m t _)
    all_goals simp [trackerAfter, endsPoll?, startsPoll?, events, cachesAfter, tablesAfter,
      spawned?, h]
  next h1 h2 h3 h4 h5 h6 h7 =>
    apply Effect.of_silent (.refl m)
    all_goals simp only [trackerAfter, endsPoll?, startsPoll?, events, cachesAfter, tablesAfter,
      spawned?]
    all_goals grind

/-! ### Events from outside -/

theorem effect_launch (m : Machine) (p : Program) :
    Effect m (.launch p) (m.spawn .caller (.running p)) := by
  constructor
  case size => simp [spawn, spawned?]
  case fresh => simp [spawn, spawned?]
  case role =>
    intro u hu
    simp [role?, spawn, Array.getElem?_push, Nat.ne_of_lt hu]
  all_goals simp [trackerAfter, endsPoll?, startsPoll?, events, cachesAfter, tablesAfter]
  all_goals rfl

theorem effect_subscribe (m : Machine) : Effect m .subscribe m.subscribe := by
  unfold subscribe
  by_cases hc : m.consumers = 0
  · simp only [hc, Nat.zero_add, if_true]
    constructor
    case size => simp [spawn, spawned?, hc]
    case fresh => simp [spawn, spawned?, hc]
    case role =>
      intro u hu
      simp [role?, spawn, Array.getElem?_push, Nat.ne_of_lt hu]
    all_goals simp [trackerAfter, endsPoll?, startsPoll?, events, cachesAfter, tablesAfter]
    all_goals rfl
  · simp only [Nat.add_eq_right, hc, if_false]
    constructor
    case role => exact fun _ _ => rfl
    all_goals simp [trackerAfter, endsPoll?, startsPoll?, events, cachesAfter, tablesAfter,
      spawned?, hc]

theorem effect_unsubscribe (m : Machine) (i : Nat) :
    Effect m (.unsubscribe i) (m.unsubscribe i) := by
  have hloop : ∀ n n' : Machine, Quiet n n' →
      Quiet { n with loop := none } { n' with loop := none } :=
    fun _ _ h => ⟨h.now, h.size, h.role, h.tracker, rfl, h.consumers, h.subscriptions, h.caches,
      h.tables, h.nextId, h.tally, h.log⟩
  unfold unsubscribe
  split
  next =>
    dsimp only
    split
    next =>
      split
      next t _ =>
        exact .of_quiet (hloop _ _ (quiet_stopLoop _ t)) rfl rfl (fun _ => rfl) rfl rfl rfl rfl
      next => exact .of_quiet (.refl _) rfl rfl (fun _ => rfl) rfl rfl rfl rfl
    next => exact .of_quiet (.refl _) rfl rfl (fun _ => rfl) rfl rfl rfl rfl
  next => exact .of_silent (.refl m) rfl rfl rfl rfl rfl

theorem effect_receive (m : Machine) (i : Nat) :
    Effect m (.receive i) (((m.receive i).map (·.2)).getD m) := by
  unfold receive
  split
  next s _ =>
    cases s.next? m.tracker with
    | none => exact .of_silent (.refl m) rfl rfl rfl rfl rfl
    | some p => exact .of_quiet (.refl _) rfl rfl (fun _ => rfl) rfl rfl rfl rfl
  next => exact .of_silent (.refl m) rfl rfl rfl rfl rfl

theorem closedTables_of_quiet {m' : Machine} (h : Quiet m m') (t : TaskId) :
    m'.closedTables t = m.closedTables t := by
  unfold closedTables table
  rw [h.role, h.tables]

/-- A run that dies leaves its table as one that ends does. -/
theorem effect_crash (h : m.tablesAfter (.crash t) = m.closedTables t) :
    Effect m (.crash t)
      ((m.drop t .crashed).closeRun t (.error abandoned) (.error failedRun)) := by
  have hdrop := quiet_drop m t .crashed
  have htables := (closedTables_of_quiet hdrop t).trans h.symm
  exact .of_quiet (a := .crash t) (quiet_closeRun _ t _ _) rfl hdrop.size hdrop.role hdrop.tracker
    hdrop.log hdrop.caches htables

/-- Everything that an action does, but for what becomes of the tasks that were there. -/
theorem effect_act (m : Machine) (a : Action) : Effect m a (m.act a) := by
  cases a with
  | launch p => exact effect_launch m p
  | step t => exact effect_step m t
  | answer t r =>
    simp only [act]
    split
    next q k h =>
      exact .of_quiet (quiet_wake _ t _) rfl rfl (fun _ => rfl) rfl (by simp [events, h]; rfl)
        rfl rfl
    next q s h =>
      exact .of_quiet (quiet_wake _ t _) rfl rfl (fun _ => rfl) rfl (by simp [events, h]; rfl)
        rfl rfl
    next h1 h2 =>
      refine .of_silent (.refl m) rfl rfl ?_ rfl rfl
      unfold events
      grind
  | crash t =>
    simp only [act]
    split
    next old h =>
      split
      next hfail => exact effect_crash (by simp [tablesAfter, h, hfail])
      next hfail => exact .of_silent (.refl m) rfl rfl rfl rfl (by simp [tablesAfter, h, hfail])
    next h => exact .of_silent (.refl m) rfl rfl rfl rfl (by simp [tablesAfter, h])
  | fire t =>
    simp only [act]
    split
    · split
      · exact .of_silent (quiet_wake m t _) rfl rfl rfl rfl rfl
      · exact .of_silent (.refl m) rfl rfl rfl rfl rfl
    · split
      · exact .of_silent (quiet_wake m t _) rfl rfl rfl rfl rfl
      · exact .of_silent (.refl m) rfl rfl rfl rfl rfl
    · exact .of_silent (.refl m) rfl rfl rfl rfl rfl
  | abort t =>
    simp only [act]
    split
    · split
      · exact .of_silent (.refl m) rfl rfl rfl rfl rfl
      · exact .of_silent (quiet_drop m t _) rfl rfl rfl rfl rfl
    · exact .of_silent (.refl m) rfl rfl rfl rfl rfl
  | subscribe => exact effect_subscribe m
  | unsubscribe i => exact effect_unsubscribe m i
  | receive i => exact effect_receive m i
  | pass d => exact .of_quiet (.refl _) rfl rfl (fun _ => rfl) rfl rfl rfl rfl

end EthRpc.Machine
