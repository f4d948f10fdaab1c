-- SUMMARY: Every task with a program was created with it, and has followed a course of it ever since.
import EthRpc.Proofs.Machine.Courses
import EthRpc.Proofs.Machine.Obedience
import EthRpc.Proofs.Program.Within

/-!
# Lives

A task is created by one action of a run, with a program. After any more actions
it has come to some program of this course, and the record of the run about it is
what the course left. So what bounds the program it was created with bounds all
that it ever does, and what it returns is as pledged for what it was told.
-/

namespace EthRpc.Machine

/-! ## Births -/

/-- In a run from `m`, the action after some others creates a task that is to run a program. -/
structure Born (m : Machine) (t : TaskId) (b : List Action) (a : Action) (p : Program) : Prop where
  size : (m.run b).tasks.size = t
  spawned : ∃ role, (m.run b).spawned? a = some ⟨role, .running p⟩

section Born

variable {m : Machine} {t : TaskId} {b actions : List Action} {a : Action} {p : Program}

theorem Launches.born (h : m.Launches actions t p) :
    ∃ b, b ++ [.launch p] <+: actions ∧ m.Born t b (.launch p) p := by
  obtain ⟨before, after, rfl, hsize⟩ := h
  exact ⟨before, ⟨after, by simp⟩, hsize, _, rfl⟩

/-! ### Poll loops -/

theorem Activity.isLoop_stop {old : Activity} (h : old.isLoop) : old.stop.isLoop := by
  obtain ⟨backoff, stopped, hs⟩ := h
  refine ⟨backoff, true, ?_⟩
  cases old <;> simp_all [seeker?, stop, Seeker.stop]

theorem Activity.not_isLoop_of_query {old : Activity} {q : Query} {k : q.Answer → Program}
    (h : old.seeker? = some (.query q k)) : ¬old.isLoop := by
  rintro ⟨backoff, stopped, hl⟩
  rw [h] at hl
  cases hl

/-- A poll loop stays one until it is over. -/
theorem isLoop_or_isOver_of_moves {old new : Activity} (h : Moves m a t old new)
    (hold : old.isLoop) : new.isLoop ∨ new.isOver := by
  cases h with
  | stay => exact .inl hold
  | own h =>
    cases h with
    | finish | give | wake => exact .inr rfl
    | wait => exact .inl hold
    | learn hl _ => cases hl <;> exact absurd hold (Activity.not_isLoop_of_query rfl)
    | poll hl _ => cases hl <;> exact .inl hold
    | pause => exact .inl ⟨_, _, rfl⟩
    | digest => exact absurd hold (Activity.not_isLoop_of_query rfl)
    | _ =>
      obtain ⟨backoff, stopped, hs⟩ := hold
      cases hs
  | informed | again _ | admitted => exact .inl hold
  | crashed | cancelled => exact .inr rfl
  | stopped => exact .inl (Activity.isLoop_stop hold)
  | _ =>
    obtain ⟨backoff, stopped, hs⟩ := hold
    cases hs

/-- A task that is not over is a poll loop, or was created with a program. -/
theorem exists_born {settings : Tracker.Settings} {capacities : List Nat} {tables : Nat}
    {old : Activity}
    (hold : ((start settings capacities tables).run actions).activity? t = some old)
    (hnot : old.isOver = false) :
    old.isLoop ∨
      ∃ b a p, b ++ [a] <+: actions ∧ (start settings capacities tables).Born t b a p := by
  induction actions using List.reverseRecOn generalizing old with
  | nil => cases hold
  | append_singleton actions a ih =>
    rw [run_concat] at hold
    rcases activity?_act_cases hold with ⟨old', hold', hmoves⟩ | ⟨hsize, role, hspawned⟩
    · have hnot' : old'.isOver = false := by
        cases hover : old'.isOver with
        | false => rfl
        | true =>
          rw [activity?_act_of_isOver hold' hover a] at hold
          cases hold
          rw [hover] at hnot
          cases hnot
      rcases ih hold' hnot' with hloop | ⟨b, a', p, hb, hborn⟩
      · rcases isLoop_or_isOver_of_moves hmoves hloop with hloop | hover
        · exact .inl hloop
        · rw [hnot] at hover
          cases hover
      · exact .inr ⟨b, a', p, hb.trans (List.prefix_append _ _), hborn⟩
    · cases spawns_of_spawned? hspawned with
      | caller => exact .inr ⟨_, _, _, List.prefix_refl _, hsize.symm, _, hspawned⟩
      | run => exact .inr ⟨_, _, _, List.prefix_refl _, hsize.symm, _, hspawned⟩
      | loop => exact .inl ⟨_, _, rfl⟩

end Born

/-! ## How far a task has come -/

/-- After some actions, a task that was created before has been told these things, has come to
this program, and does this with it. -/
structure Came (m : Machine) (t : TaskId) (b : List Action) (a : Action) (p : Program)
    (actions : List Action) (ds : List Told) (now : List Action) (q : Program) (old : Activity)
    (under : List Event) : Prop where
  activity : (m.run actions).activity? t = some old
  course : m.Course t (b ++ [a]) p ds now q
  isPrefix : now <+: actions
  stands : m.Stands t now actions old q under
  trace : (m.run actions).trace t = ds.flatMap (·.events t) ++ under

/-- The same of a task that could go on with a program after some of the actions. -/
structure Follows (m : Machine) (t : TaskId) (b : List Action) (p : Program) (actions : List Action)
    (ds : List Told) (now : List Action) (q : Program) (old : Activity) (under : List Event) :
    Prop where
  activity : (m.run actions).activity? t = some old
  course : m.Course t b p ds now q
  isPrefix : now <+: actions
  stands : m.Stands t now actions old q under
  trace : (m.run actions).trace t =
    (m.run b).trace t ++ (ds.flatMap (·.events t) ++ under)

section Came

variable {m : Machine} {t : TaskId} {b actions : List Action} {a : Action} {p : Program}

theorem traced_of_size_le (h : m.tasks.size ≤ t) (a : Action) : m.traced a t = [] := by
  have hnone : m.activity? t = none := by simp [activity?, h]
  refine traced_eq_nil fun e he htask => ?_
  rcases (emits_of_mem_events he).eq_of_task htask with rfl | ⟨r, rfl⟩ <;>
    simp [events, hnone] at he

theorem size_le_size_run (m : Machine) (actions : List Action) :
    m.tasks.size ≤ (m.run actions).tasks.size := by
  induction actions generalizing m with
  | nil => exact Nat.le_refl _
  | cons a rest ih => exact Nat.le_trans (size_le_size_act m a) (ih (m.act a))

/-- A task that is there at some moment is there at the end. -/
theorem lt_size_of_isPrefix {now : List Action} (ht : t < (m.run now).tasks.size)
    (hnow : now <+: actions) : t < (m.run actions).tasks.size := by
  obtain ⟨rest, rfl⟩ := hnow
  rw [run_append]
  exact Nat.lt_of_lt_of_le ht (size_le_size_run _ rest)

section

variable {ds : List Told} {now : List Action} {q : Program} {old : Activity} {under : List Event}
  (hc : m.Came t b a p actions ds now q old under)

include hc

/-- A task that can go on with a program has come to it. -/
theorem Came.of_running {p' : Program}
    (h : (m.run actions).activity? t = some (.running p')) : q = p' ∧ under = [] := by
  have hactivity := hc.activity
  rw [h] at hactivity
  cases hactivity
  exact hc.stands.of_running

theorem Came.of_finished {r : Outcome}
    (h : (m.run actions).activity? t = some (.finished r)) :
    q = .done r ∧ under = [.finished t r] := by
  have hactivity := hc.activity
  rw [h] at hactivity
  cases hactivity
  exact hc.stands.of_finished

end

/-- A task that is there was launched by then, if it was launched. -/
theorem Launches.of_isPrefix {now : List Action} (h : m.Launches actions t p)
    (hnow : now <+: actions) (ht : t < (m.run now).tasks.size) : m.Launches now t p := by
  obtain ⟨before, after, rfl, hsize⟩ := h
  have hlaunch : before ++ [.launch p] <+: before ++ .launch p :: after := ⟨after, by simp⟩
  have hnow' : before ++ [.launch p] <+: now := by
    rcases List.prefix_or_prefix_of_prefix hnow hlaunch with h | h
    · rcases List.prefix_concat_iff.1 h with rfl | ⟨rest, rfl⟩
      · exact List.prefix_refl _
      · have hle := size_le_size_run (m.run now) rest
        rw [← run_append, hsize] at hle
        exact absurd ht (Nat.not_lt.2 hle)
    · exact h
  obtain ⟨rest, rfl⟩ := hnow'
  exact ⟨before, rest, by simp, hsize⟩

/-- Nothing happened to a task that is not there yet. -/
theorem trace_of_size_le (settings : Tracker.Settings) (capacities : List Nat) (tables : Nat)
    (h : ((start settings capacities tables).run actions).tasks.size ≤ t) :
    ((start settings capacities tables).run actions).trace t = [] := by
  induction actions using List.reverseRecOn with
  | nil => rfl
  | append_singleton actions a ih =>
    rw [run_concat] at h ⊢
    have hle := Nat.le_trans (size_le_size_act _ a) h
    rw [trace_act, ih hle, traced_of_size_le hle, List.nil_append]

/-- By one more action, a task that follows a course goes on waiting, or is told one thing more. -/
theorem Follows.goesOn {ds : List Told} {now : List Action} {q : Program} {old : Activity}
    {under : List Event} (h : m.Follows t b p actions ds now q old under) (x : Action) :
    ∃ ds' now' q' old' under', m.Follows t b p (actions ++ [x]) ds' now' q' old' under' ∧
      (ds' = ds ∨ ∃ c d, m.Deals t c actions x d q q' ∧ ds' = ds ++ [d]) := by
  obtain ⟨hactivity, hcourse, hnow, hstands, htrace⟩ := h
  obtain ⟨new, hact, -⟩ := movesTo_act _ x t old hactivity
  have htrace' : (m.run (actions ++ [x])).trace t = (m.run b).trace t ++
      (ds.flatMap (·.events t) ++ (under ++ (m.run actions).traced x t)) := by
    rw [run_concat, trace_act, htrace, List.append_assoc, List.append_assoc]
  have hact' : (m.run (actions ++ [x])).activity? t = some new := by
    rw [run_concat]
    exact hact
  rcases hstands.act hnow hactivity hact with hstands | ⟨c, d, q', hc, hdeals, hevents, hstands⟩
  · have hlater := hnow.trans (List.prefix_append _ [x])
    exact ⟨ds, now, q, new, _, ⟨hact', hcourse, hlater, hstands, htrace'⟩, .inl rfl⟩
  · refine ⟨ds ++ [d], actions ++ [x], q', new, [], ?_, .inr ⟨c, d, hdeals, rfl⟩⟩
    refine ⟨hact', hcourse.snoc hc hdeals, List.prefix_refl _, hstands, ?_⟩
    rw [htrace', ← hevents]
    simp

/-- A task that can go on with a program follows a course of it from the start. -/
theorem follows_refl (hrunning : (m.run b).activity? t = some (.running p)) :
    m.Follows t b p b [] b p (.running p) [] :=
  ⟨hrunning, .refl, List.prefix_refl _, .running, by simp⟩

/-- A task that can go on with a program follows a course of it, whatever happens. -/
theorem exists_follows (hrunning : (m.run b).activity? t = some (.running p))
    (hb : b <+: actions) : ∃ ds now q old under, m.Follows t b p actions ds now q old under := by
  obtain ⟨rest, rfl⟩ := hb
  induction rest using List.reverseRecOn with
  | nil =>
    rw [List.append_nil]
    exact ⟨[], b, p, .running p, [], follows_refl hrunning⟩
  | append_singleton rest x ih =>
    obtain ⟨ds, now, q, old, under, hfollows⟩ := ih
    obtain ⟨ds', now', q', old', under', hgoes, -⟩ := hfollows.goesOn x
    rw [← List.append_assoc]
    exact ⟨ds', now', q', old', under', hgoes⟩

theorem Follows.of_running {ds : List Told} {now : List Action} {q p' : Program} {old : Activity}
    {under : List Event} (h : m.Follows t b p actions ds now q old under)
    (hrunning : (m.run actions).activity? t = some (.running p')) : q = p' ∧ under = [] := by
  have hactivity := h.activity
  rw [hrunning] at hactivity
  cases hactivity
  exact h.stands.of_running

/-- A task that is created with a program can go on with it. -/
theorem Born.running (h : m.Born t b a p) :
    (m.run (b ++ [a])).activity? t = some (.running p) := by
  obtain ⟨rfl, role, hspawned⟩ := h
  rw [run_concat]
  exact activity?_act_of_fresh hspawned

/-- Nothing has happened to a task before it has followed the course of its program. -/
theorem Follows.came {settings : Tracker.Settings} {capacities : List Nat} {tables : Nat}
    {ds : List Told} {now : List Action} {q : Program} {old : Activity} {under : List Event}
    (h : (start settings capacities tables).Follows t (b ++ [a]) p actions ds now q old under)
    (hborn : (start settings capacities tables).Born t b a p) :
    (start settings capacities tables).Came t b a p actions ds now q old under := by
  have hsize := Nat.le_of_eq hborn.size
  have hnew := trace_of_size_le settings capacities tables hsize
  refine ⟨h.activity, h.course, h.isPrefix, h.stands, ?_⟩
  rw [h.trace, run_concat, trace_act, hnew, traced_of_size_le hsize]
  rfl

/-- A task that was created with a program follows a course of it, whatever happens. -/
theorem Born.exists_came {settings : Tracker.Settings} {capacities : List Nat} {tables : Nat}
    (hborn : (start settings capacities tables).Born t b a p) (hb : b ++ [a] <+: actions) :
    ∃ ds now q old under,
      (start settings capacities tables).Came t b a p actions ds now q old under := by
  obtain ⟨ds, now, q, old, under, hfollows⟩ := exists_follows hborn.running hb
  exact ⟨ds, now, q, old, under, hfollows.came hborn⟩

end Came

/-! ## What holds along a course -/

/-- What a task is told is the reply to a command, or the outcome of a run, within some bounds. -/
def Told.Within (C : Command → Prop) (S : Nat → String → Program → Prop) : Told → Prop
  | reply c _ => C c
  | report q _ _ => C (.query q)
  | outcome i key run _ => S i key run

/-- What a task is told is among some facts. -/
def Told.Allowed (F : Facts) : Told → Prop
  | reply c a => F.Allows c a
  | report q _ r => F.Allows (.query q) (q.report (Tracker.polledHead r))
  | outcome i key _ r => F.Shares i key r

section Along

variable {m : Machine} {t : TaskId} {now now' b b' : List Action} {a : Action} {d : Told}
  {ds : List Told} {p p' : Program} {C : Command → Prop} {S : Nat → String → Program → Prop}
  {F : Facts} {P : Pledge}

theorem Deals.within (h : m.Deals t b b' a d p p') (hp : p.Within C S) :
    d.Within C S ∧ p'.Within C S := by
  cases h <;> exact ⟨hp.1, hp.2 _⟩

/-- A task stays within the bounds of the program that it comes from. -/
theorem Course.within (h : m.Course t now p ds now' p') (hp : p.Within C S) :
    (∀ d ∈ ds, d.Within C S) ∧ p'.Within C S := by
  induction h with
  | refl => exact ⟨nofun, hp⟩
  | step _ hd _ ih =>
    obtain ⟨htold, hp'⟩ := hd.within hp
    obtain ⟨hrest, hend⟩ := ih hp'
    exact ⟨List.forall_mem_cons.2 ⟨htold, hrest⟩, hend⟩

theorem Deals.obeys (h : m.Deals t b b' a d p p') (hp : p.Obeys F P) (ha : d.Allowed F) :
    p'.Obeys F P := by
  cases h <;> exact hp.2 _ ha

/-- A task that is told no more than a program reckons with keeps the pledge of the program. -/
theorem Course.obeys (h : m.Course t now p ds now' p') (hp : p.Obeys F P)
    (ha : ∀ d ∈ ds, d.Allowed F) : p'.Obeys F P := by
  induction h with
  | refl => exact hp
  | step _ hd _ ih =>
    obtain ⟨hfirst, hrest⟩ := List.forall_mem_cons.1 ha
    exact ih (hd.obeys hp hfirst) hrest

/-- Told things have their moments. -/
theorem Course.exists_deals (h : m.Course t now p ds now' p') (hd : d ∈ ds) :
    ∃ b b' a q q', now <+: b ∧ b' ++ [a] <+: now' ∧ m.Deals t b b' a d q q' := by
  induction h with
  | refl => cases hd
  | step hb hdeals hrest ih =>
    rcases List.mem_cons.1 hd with rfl | hd
    · exact ⟨_, _, _, _, _, hb, hrest.isPrefix, hdeals⟩
    · obtain ⟨b, b', a, q, q', hlater, hend, hdeals'⟩ := ih hd
      have hbefore := (hb.trans hdeals.isPrefix).trans ((List.prefix_append _ _).trans hlater)
      exact ⟨b, b', a, q, q', hbefore, hend, hdeals'⟩

end Along

/-! ## Going on -/

section Going

variable {m : Machine} {t : TaskId} {now now' b b' : List Action} {a : Action} {d : Told}
  {ds : List Told} {p p' : Program} {P : Program → Prop}

theorem Deals.goes (h : m.Deals t b b' a d p p') : p.Goes p' := by
  cases h <;> constructor

/-- What is kept from one program to the next is kept along a course. -/
theorem Course.keeps (h : m.Course t now p ds now' p') (hP : ∀ p p', p.Goes p' → P p → P p')
    (hp : P p) : P p' := by
  induction h with
  | refl => exact hp
  | step _ hd _ ih => exact ih (hP _ _ hd.goes hp)

/-- The same of whatever a task is running from then on. -/
theorem keeps_of_running (hold : (m.run b).activity? t = some (.running p)) (hb : b <+: b')
    (hnew : (m.run b').activity? t = some (.running p')) (hP : ∀ p p', p.Goes p' → P p → P p')
    (hp : P p) : P p' := by
  obtain ⟨ds, now, q, old, under, hfollows⟩ := exists_follows hold hb
  obtain ⟨rfl, -⟩ := hfollows.of_running hnew
  exact hfollows.course.keeps hP hp

end Going

/-! ## Hearing from a run -/

/-- After some actions, a task is about to join a run. -/
def Joins (m : Machine) (t : TaskId) (b : List Action) (run : TaskId) : Prop :=
  ∃ i key p k e, (m.run b).activity? t = some (.running (.share i key p k)) ∧
    (m.run b).sharedRun? i key = some e ∧ e.run = run

/-- After some actions, a task waits for a run that the next action ends with this outcome for it. -/
def Hears (m : Machine) (t : TaskId) (b : List Action) (a : Action) (run : TaskId) (r : Outcome) :
    Prop :=
  ∃ k r', (m.run b).activity? t = some (.joined run k) ∧ (m.run b).EndsRun a run r r' ∨
    (m.run b).activity? t = some (.leading run k) ∧ (m.run b).EndsRun a run r' r

section Runs

variable {m : Machine} {t u : TaskId} {b b' : List Action} {a : Action} {p p' : Program}

/-- The outcome of a run comes from one that the task joined, or that it started itself. -/
theorem Deals.exists_hears {i : Nat} {key : String} {run : Program} {r : Outcome}
    (hd : m.Deals t b b' a (.outcome i key run r) p p') :
    ∃ u, m.Hears t b' a u r ∧ b ++ [.step t] <+: b' ∧
      (m.Joins t b u ∨ m.Born u b (.step t) run) := by
  cases hd with
  | join hold hlater he hjoined hend =>
    exact ⟨_, ⟨_, _, .inl ⟨hjoined, hend⟩⟩, hlater, .inl ⟨_, _, _, _, _, hold, he, rfl⟩⟩
  | lead hold hlater hnone hleading hend =>
    have hspawned : (m.run b).spawned? (.step t) = some ⟨.run i key t, .running run⟩ := by
      simp [spawned?, hold, hnone]
    exact ⟨_, ⟨_, _, .inr ⟨hleading, hend⟩⟩, hlater, .inr ⟨rfl, _, hspawned⟩⟩

/-- A run that is heard of is done with what is heard, or crashes and is heard of by an error. -/
theorem Hears.ended {r : Outcome} (h : m.Hears t b a u r) :
    a = .step u ∧ (m.run b).activity? u = some (.running (.done r)) ∨
      a = .crash u ∧ ∃ e, r = .error e := by
  obtain ⟨k, r', ⟨-, hend⟩ | ⟨-, hend⟩⟩ := h
  all_goals
    cases hend with
    | finished hrunning => exact .inl ⟨rfl, hrunning⟩
    | crashed => exact .inr ⟨rfl, _, rfl⟩

/-- A run that is heard to have returned a value is done with it. -/
theorem Hears.running_of_ok {v : Json} (h : m.Hears t b a u (.ok v)) :
    (m.run b).activity? u = some (.running (.done (.ok v))) := by
  rcases h.ended with ⟨-, hrunning⟩ | ⟨-, e, he⟩
  · exact hrunning
  · cases he

/-- No task crashes. -/
def Calm (actions : List Action) : Prop := ∀ t, .crash t ∉ actions

/-- If nothing crashes then a run that is heard of ends with what is heard. -/
theorem Hears.of_calm {actions : List Action} {r : Outcome} (h : m.Hears t b a u r)
    (hb : b ++ [a] <+: actions) (hcalm : Calm actions) :
    (m.run b).activity? u = some (.running (.done r)) ∧
      (m.run (b ++ [a])).activity? u = some (.finished r) := by
  rcases h.ended with ⟨rfl, hrunning⟩ | ⟨rfl, -⟩
  · refine ⟨hrunning, ?_⟩
    rw [run_concat]
    simp only [act, advance, hrunning]
    exact activity?_finish hrunning
  · exact absurd (hb.subset (List.mem_append_right _ (List.mem_singleton_self _))) (hcalm u)

/-- If nothing crashes then nobody is found to have crashed. -/
theorem Calm.not_crashed {settings : Tracker.Settings} {capacities : List Nat} {tables : Nat}
    {actions : List Action} (hcalm : Calm actions) :
    ((start settings capacities tables).run actions).activity? t ≠ some .crashed := by
  induction actions using List.reverseRecOn with
  | nil => exact nofun
  | append_singleton actions a ih =>
    have hbefore := ih fun t h => hcalm t (List.mem_append_left _ h)
    intro hcrashed
    rw [run_concat] at hcrashed
    rcases activity?_act_cases hcrashed with ⟨old, hold, hmoves⟩ | ⟨rfl, role, hspawned⟩
    · generalize hnew : Activity.crashed = new at hmoves
      cases hmoves with
      | stay =>
        subst hnew
        exact hbefore hold
      | own hadvances => cases hadvances <;> cases hnew
      | crashed => exact hcalm t (List.mem_append_right _ (List.mem_singleton_self _))
      | stopped =>
        cases old with
        | crashed => exact hbefore hold
        | _ => cases hnew
      | _ => cases hnew
    · cases spawns_of_spawned? hspawned

end Runs

/-! ## Runs and their leaders -/

/-- After some actions, a task is about to start a run under a key. -/
structure Leads (m : Machine) (t : TaskId) (b : List Action) (i : Nat) (key : String)
    (run : Program) (k : Outcome → Program) : Prop where
  activity : (m.run b).activity? t = some (.running (.share i key run k))
  unshared : (m.run b).sharedRun? i key = none

section Leads

variable {m : Machine} {t u : TaskId} {b : List Action} {i : Nat} {key : String} {run : Program}
  {k : Outcome → Program}

theorem Leads.spawned? (h : m.Leads t b i key run k) :
    (m.run b).spawned? (.step t) = some ⟨.run i key t, .running run⟩ := by
  simp [Machine.spawned?, h.activity, h.unshared]

theorem Leads.born (h : m.Leads t b i key run k) :
    m.Born (m.run b).tasks.size b (.step t) run := ⟨rfl, _, h.spawned?⟩

/-- Who starts a run waits for it. -/
theorem Leads.waits (h : m.Leads t b i key run k) :
    (m.run (b ++ [.step t])).activity? t = some (.leading (m.run b).tasks.size k) := by
  obtain ⟨-, new, hnew, hadvances⟩ := advancesTo_advance h.activity rfl
  rw [run_concat]
  cases hadvances with
  | join hs =>
    rw [h.unshared] at hs
    cases hs
  | lead => exact hnew
  | learn hl _ | poll hl _ | give hl => cases hl

/-- A caller came with a program. -/
theorem exists_launches_of_role {settings : Tracker.Settings} {capacities : List Nat} {tables : Nat}
    {actions : List Action}
    (hrole : ((start settings capacities tables).run actions).role? t = some .caller) :
    ∃ p, (start settings capacities tables).Launches actions t p := by
  induction actions using List.reverseRecOn with
  | nil => cases hrole
  | append_singleton actions a ih =>
    rw [run_concat] at hrole
    by_cases ht : t < ((start settings capacities tables).run actions).tasks.size
    · rw [(effect_act _ a).role t ht] at hrole
      obtain ⟨p, before, after, rfl, hsize⟩ := ih hrole
      exact ⟨p, before, after ++ [a], by simp, hsize⟩
    · obtain ⟨old, hnew⟩ := exists_activity? (lt_size_of_role? hrole)
      rcases activity?_act_cases hnew with ⟨old', hold', -⟩ | ⟨rfl, role, hspawned⟩
      · exact absurd (lt_size_of_activity? hold') ht
      · rw [role?_act_of_fresh hspawned] at hrole
        cases hrole
        cases spawns_of_spawned? hspawned with
        | caller => exact ⟨_, actions, [], rfl, rfl⟩

/-- A task that is a shared run was started by its leader. -/
theorem exists_leads_of_role {settings : Tracker.Settings} {capacities : List Nat} {tables : Nat}
    {actions : List Action} {leader : TaskId}
    (hrole : ((start settings capacities tables).run actions).role? u = some (.run i key leader)) :
    ∃ b run k, b ++ [.step leader] <+: actions ∧
      ((start settings capacities tables).run b).tasks.size = u ∧
      (start settings capacities tables).Leads leader b i key run k := by
  induction actions using List.reverseRecOn with
  | nil => cases hrole
  | append_singleton actions a ih =>
    rw [run_concat] at hrole
    by_cases ht : u < ((start settings capacities tables).run actions).tasks.size
    · rw [(effect_act _ a).role u ht] at hrole
      obtain ⟨b, run, k, hb, hleads⟩ := ih hrole
      exact ⟨b, run, k, hb.trans (List.prefix_append _ _), hleads⟩
    · obtain ⟨old, hnew⟩ := exists_activity? (lt_size_of_role? hrole)
      rcases activity?_act_cases hnew with ⟨old', hold', -⟩ | ⟨rfl, role, hspawned⟩
      · exact absurd (lt_size_of_activity? hold') ht
      · rw [role?_act_of_fresh hspawned] at hrole
        cases hrole
        cases spawns_of_spawned? hspawned with
        | run hleader hnone =>
          exact ⟨actions, _, _, List.prefix_refl _, rfl, hleader, hnone⟩

end Leads

/-! ## What no task goes beyond -/

section Bounds

variable {settings : Tracker.Settings} {capacities : List Nat} {tables : Nat}
  {actions : List Action} {t : TaskId} {p : Program} {C : Command → Prop}
  {S : Nat → String → Program → Prop} (hlaunch : ∀ p, .launch p ∈ actions → p.Within C S)
  (hruns : ∀ i key run, S i key run → run.Within C S)

include hlaunch hruns

/-- If the programs of all callers stay within some bounds, and so do the runs that these allow to
start, then so does whatever any task is running. -/
theorem within_of_running
    (hold : ((start settings capacities tables).run actions).activity? t = some (.running p)) :
    p.Within C S := by
  -- Whoever starts a run was running before the run was created.
  induction hlength : actions.length using Nat.strongRecOn generalizing actions t p with
  | ind n ih =>
    rcases exists_born hold rfl with hloop | ⟨b, a, p₀, hb, hborn⟩
    · obtain ⟨backoff, stopped, hs⟩ := hloop
      cases hs
    have hbefore : b <+: actions := (List.prefix_append _ _).trans hb
    have hshorter : b.length < n := by
      have hle := hb.length_le
      simp only [List.length_append, List.length_singleton] at hle
      omega
    have hp₀ : p₀.Within C S := by
      obtain ⟨-, role, hspawned⟩ := hborn
      have hspawns := spawns_of_spawned? hspawned
      generalize htask : (⟨role, .running p₀⟩ : Task) = task at hspawns
      cases hspawns with
      | caller =>
        cases htask
        exact hlaunch p₀ (hb.subset (List.mem_append_right _ (List.mem_singleton_self _)))
      | loop => cases htask
      | @run u i key run k hleader _ =>
        cases htask
        have hshare := ih b.length hshorter (fun p hp => hlaunch p (hbefore.subset hp)) hleader rfl
        exact hruns i key p₀ hshare.1
    obtain ⟨ds, now, q, old, under, hcame⟩ := hborn.exists_came hb
    obtain ⟨rfl, -⟩ := hcame.of_running hold
    exact (hcame.course.within hp₀).2

/-- A task that is a shared run was created by its leader with a program within the bounds. -/
theorem exists_born_of_role {i : Nat} {key : String} {leader : TaskId}
    (hrole : ((start settings capacities tables).run actions).role? t = some (.run i key leader)) :
    ∃ b p, b ++ [.step leader] <+: actions ∧
      (start settings capacities tables).Born t b (.step leader) p ∧ S i key p := by
  obtain ⟨b, run, k, hb, rfl, hleads⟩ := exists_leads_of_role hrole
  have hbefore : b <+: actions := (List.prefix_append _ _).trans hb
  have hrunning := hleads.activity
  exact ⟨b, run, hb, hleads.born,
    (within_of_running (fun p hp => hlaunch p (hbefore.subset hp)) hruns hrunning).1⟩

end Bounds

end EthRpc.Machine
