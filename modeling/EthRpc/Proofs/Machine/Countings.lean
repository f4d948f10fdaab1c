-- SUMMARY: Who counts what in a run: the tally is the sum of what the tasks count, and a task counts the retries it is told of.
import Mathlib.Algebra.BigOperators.Group.Finset.Piecewise
import EthRpc.Proofs.Machine.Readers
import EthRpc.Proofs.Machine.Tallies
import EthRpc.Proofs.Program.Plays

/-!
# Countings

The tally says how far each counter has come, but not by whom. The countings of a
run do: they list every step that counts, with the task that takes it. So the
tally can be split into the shares of the tasks, and the share of a task can be
compared with what it was told on its course.
-/

namespace EthRpc

namespace Machine

/-! ## The countings of a run -/

/-- How far a counter has come. -/
def Tally.read (t : Tally) : Counter → Nat
  | .hits => t.hits
  | .misses => t.misses
  | .led => t.led
  | .joined => t.joined
  | .retries => t.retries
  | .exhausted => t.exhausted
  | .polls => t.polls
  | .pollFailures => t.pollFailures

theorem Tally.read_bump (t : Tally) (c c' : Counter) :
    (t.bump c).read c' = t.read c' + if c = c' then 1 else 0 := by
  cases c <;> cases c' <;> rfl

/-- What an action counts, and the task whose step it is. -/
def counting? (m : Machine) : Action → Option (TaskId × Counter)
  | .step t => (m.counted? (.step t)).map (t, ·)
  | _ => none

/-- All that a run counts, in order. -/
def countings (m : Machine) : List Action → List (TaskId × Counter)
  | [] => []
  | a :: rest => (m.counting? a).toList ++ (m.act a).countings rest

section Countings

variable {m : Machine} {a : Action} {actions rest : List Action} {t : TaskId} {c : Counter}

theorem countings_append (m : Machine) (actions rest : List Action) :
    m.countings (actions ++ rest) = m.countings actions ++ (m.run actions).countings rest := by
  induction actions generalizing m with
  | nil => rfl
  | cons a actions ih => exact (congrArg _ (ih (m.act a))).trans (List.append_assoc ..).symm

theorem countings_concat (m : Machine) (actions : List Action) (a : Action) :
    m.countings (actions ++ [a]) = m.countings actions ++ ((m.run actions).counting? a).toList := by
  rw [countings_append]
  exact congrArg _ (List.append_nil _)

theorem counting?_eq_some_iff :
    m.counting? a = some (t, c) ↔ a = .step t ∧ m.counted? a = some c := by
  cases a with
  | step u => simp [counting?, and_comm]
  | _ => simp [counting?]

theorem map_counting? (m : Machine) (a : Action) : (m.counting? a).map (·.2) = m.counted? a := by
  cases a with
  | step t => simp [counting?, Function.comp_def]
  | _ => rfl

/-- A counter goes up by what is counted for it. -/
theorem read_act (m : Machine) (a : Action) (c : Counter) :
    (m.act a).tally.read c = m.tally.read c + (m.counting? a).toList.countP (·.2 = c) := by
  rw [tally_act, ← map_counting?]
  cases m.counting? a with
  | none => rfl
  | some x => simp [tallyAfter, Tally.read_bump]

theorem read_run (m : Machine) (actions : List Action) (c : Counter) :
    (m.run actions).tally.read c = m.tally.read c + (m.countings actions).countP (·.2 = c) := by
  induction actions generalizing m with
  | nil => rfl
  | cons a rest ih =>
    have hrest := ih (m.act a)
    rw [read_act] at hrest
    rw [countings, List.countP_append, ← Nat.add_assoc, ← hrest]
    rfl

/-- Only tasks that are there count. -/
theorem lt_size_of_counting? (h : m.counting? a = some (t, c)) : t < m.tasks.size := by
  obtain ⟨rfl, hcounted⟩ := counting?_eq_some_iff.1 h
  by_contra hlt
  have hnone : m.activity? t = none := by simp [activity?, Nat.le_of_not_lt hlt]
  simp [counted?, hnone] at hcounted

/-- What is counted is counted by some action. -/
theorem exists_counting {x : TaskId × Counter} (h : x ∈ m.countings actions) :
    ∃ b a, b ++ [a] <+: actions ∧ (m.run b).counting? a = some x := by
  induction actions using List.reverseRecOn with
  | nil => cases h
  | append_singleton actions a ih =>
    rw [countings_concat, List.mem_append, Option.mem_toList] at h
    rcases h with h | h
    · obtain ⟨b, a', hb, hcounting⟩ := ih h
      exact ⟨b, a', hb.trans (List.prefix_append _ _), hcounting⟩
    · exact ⟨actions, a, List.prefix_refl _, h⟩

theorem lt_size_of_mem_countings (h : (t, c) ∈ m.countings actions) :
    t < (m.run actions).tasks.size := by
  obtain ⟨b, a, hb, hcounting⟩ := exists_counting h
  exact lt_size_of_isPrefix (lt_size_of_counting? hcounting) ((List.prefix_append _ _).trans hb)

end Countings

/-! ## Retries -/

section Retries

variable {m : Machine} {a : Action} {t : TaskId}

/-- Retries are counted by command only. -/
theorem counting?_eq_retries_iff : m.counting? a = some (t, .retries) ↔
    a = .step t ∧ ∃ k, m.activity? t = some (.running (.ask (.count .retries) k)) := by
  rw [counting?_eq_some_iff]
  refine and_congr_right ?_
  rintro rfl
  constructor
  · intro h
    unfold counted? at h
    grind
  · rintro ⟨k, hk⟩
    simp [counted?, hk]

theorem Deals.counting?_eq {b b' : List Action} {u : (Command.count .retries).Reply} {p p' : Program}
    (h : m.Deals t b b' a (.reply (.count .retries) u) p p') :
    (m.run b').counting? a = some (t, .retries) := by
  cases h with
  | reply hold _ => exact counting?_eq_retries_iff.2 ⟨rfl, _, hold⟩

end Retries

/-- What a task is told of, as far as it is to be balanced: a request of its own, or a retry that it
has counted. -/
inductive Posting where
  | request
  | retry
  deriving DecidableEq

def Told.posting? : Told → Option Posting
  | .reply (.send _) _ => some .request
  | .reply (.count .retries) _ => some .retry
  | _ => none

def postings (ds : List Told) : List Posting := ds.filterMap Told.posting?

section Postings

variable {m : Machine} {t : TaskId} {d : Told} {ds es : List Told}

theorem postings_append (ds es : List Told) : postings (ds ++ es) = postings ds ++ postings es :=
  List.filterMap_append ..

theorem Told.posting?_eq_retry (h : d.posting? = some .retry) :
    ∃ u, d = .reply (.count .retries) u := by
  unfold posting? at h
  split at h
  next => cases h
  next u => exact ⟨u, rfl⟩
  next => cases h

theorem Told.posting?_plain (d : Told) : d.plain.posting? = d.posting? := by
  cases d <;> rfl

/-- What is told with a poll of the task's own is no posting. -/
theorem postings_plain (ds : List Told) : postings (ds.map Told.plain) = postings ds := by
  simp only [postings, List.filterMap_map, Function.comp_def, Told.posting?_plain]

/-- What is told leaves a request for each answer of the endpoint. -/
theorem Told.requests_of_events (t : TaskId) (d : Told) :
    ((d.events t).filterMap Event.request?).length = (postings [d]).count .request := by
  cases d with
  | reply c a =>
    cases c with
    | count c => cases c <;> rfl
    | lookup i key => cases a <;> rfl
    | _ => rfl
  | _ => rfl

/-- The requests of a task are those that it was told the answers of. -/
theorem requests_of_told (t : TaskId) (ds : List Told) :
    ((ds.flatMap (·.events t)).filterMap Event.request?).length = (postings ds).count .request := by
  induction ds with
  | nil => rfl
  | cons d ds ih =>
    have hsplit : postings (d :: ds) = postings [d] ++ postings ds := postings_append [d] ds
    rw [List.flatMap_cons, List.filterMap_append, List.length_append, ih, hsplit,
      List.count_append, Told.requests_of_events]

end Postings

/-! ### A task and its retries -/

/-- A task that has come some way has counted the retries that it was told of. -/
structure Books (m : Machine) (t : TaskId) (b : List Action) (a : Action) (p : Program)
    (actions : List Action) (ds : List Told) (now : List Action) (q : Program) (old : Activity)
    (under : List Event) : Prop extends m.Came t b a p actions ds now q old under where
  retries : (m.countings actions).count (t, .retries) = (postings ds).count .retry

section Books

variable {m : Machine} {t : TaskId} {b actions rest : List Action} {a : Action} {p : Program}

/-- A task that counts a retry goes on at once. -/
theorem Follows.counts {ds : List Told} {now : List Action} {q : Program} {old : Activity}
    {under : List Event} {k : Unit → Program} (h : m.Follows t b p actions ds now q old under)
    (hold : (m.run actions).activity? t = some (.running (.ask (.count .retries) k))) :
    m.Follows t b p (actions ++ [.step t]) (ds ++ [.reply (.count .retries) ()])
      (actions ++ [.step t]) (k ()) (.running (k ())) [] := by
  obtain ⟨rfl, rfl⟩ := h.of_running hold
  have hdeals : m.Deals t actions actions (.step t) (.reply (.count .retries) ()) _ (k ()) :=
    .reply hold .counted
  have hquiet : (m.run actions).traced (.step t) t = [] := traced_of_replies hold .counted
  refine ⟨?activity, h.course.snoc h.isPrefix hdeals, List.prefix_refl _, .running, ?trace⟩
  case activity =>
    rw [run_concat]
    simp only [act, advance, hold]
    exact activity?_setActivity_self (m := (m.run actions).count _) hold
  case trace =>
    rw [run_concat, trace_act, h.trace, hquiet]
    simp [Told.events, Command.leaves]

/-- A task follows a course on which it is told of the retries that it counts. -/
theorem exists_follows_counting (hrunning : (m.run b).activity? t = some (.running p))
    (rest : List Action) : ∃ ds now q old under, m.Follows t b p (b ++ rest) ds now q old under ∧
      ((m.run b).countings rest).count (t, .retries) = (postings ds).count .retry := by
  induction rest using List.reverseRecOn with
  | nil =>
    rw [List.append_nil]
    exact ⟨[], b, p, _, [], follows_refl hrunning, rfl⟩
  | append_singleton rest x ih =>
    obtain ⟨ds, now, q, old, under, hfollows, hcount⟩ := ih
    rw [← List.append_assoc, countings_concat, List.count_append, hcount, ← run_append]
    by_cases hcounting : (m.run (b ++ rest)).counting? x = some (t, .retries)
    · obtain ⟨rfl, k, hold⟩ := counting?_eq_retries_iff.1 hcounting
      refine ⟨_, _, _, _, _, hfollows.counts hold, ?_⟩
      rw [hcounting, postings_append, List.count_append]
      simp [postings, Told.posting?]
    · have hnone : ((m.run (b ++ rest)).counting? x).toList.count (t, .retries) = 0 := by
        rw [List.count_eq_zero, Option.mem_toList]
        exact hcounting
      obtain ⟨ds', now', q', old', under', hgoes, rfl | ⟨c, d, hdeals, rfl⟩⟩ := hfollows.goesOn x
      · exact ⟨ds', now', q', old', under', hgoes, by rw [hnone, Nat.add_zero]⟩
      · have hd : d.posting? ≠ some .retry := by
          intro hretry
          obtain ⟨u, rfl⟩ := Told.posting?_eq_retry hretry
          exact hcounting hdeals.counting?_eq
        refine ⟨_, now', q', old', under', hgoes, ?_⟩
        have hlast : (postings [d]).count .retry = 0 := by
          rw [List.count_eq_zero]
          simpa [postings] using hd
        rw [hnone, postings_append, List.count_append, hlast]

/-- A task that was created with a program has counted the retries that it was told of. -/
theorem Born.exists_books {settings : Tracker.Settings} {capacities : List Nat} {tables : Nat}
    (hborn : (start settings capacities tables).Born t b a p) (hb : b ++ [a] <+: actions) :
    ∃ ds now q old under,
      (start settings capacities tables).Books t b a p actions ds now q old under := by
  obtain ⟨rest, rfl⟩ := hb
  obtain ⟨ds, now, q, old, under, hfollows, hcount⟩ :=
    exists_follows_counting hborn.running rest
  refine ⟨ds, now, q, old, under, hfollows.came hborn, ?_⟩
  have hbefore : ((start settings capacities tables).countings (b ++ [a])).count (t, .retries) = 0 := by
    rw [List.count_eq_zero, countings_concat, List.mem_append, Option.mem_toList]
    rintro (hmem | hmem)
    · exact absurd (lt_size_of_mem_countings hmem) (Nat.not_lt.2 (Nat.le_of_eq hborn.size))
    · exact absurd (lt_size_of_counting? hmem) (Nat.not_lt.2 (Nat.le_of_eq hborn.size))
  rw [countings_append, List.count_append, hbefore, Nat.zero_add, hcount]

theorem Born.size_concat (h : m.Born t b a p) : (m.run (b ++ [a])).tasks.size = t + 1 := by
  obtain ⟨rfl, role, hspawned⟩ := h
  rw [run_concat, (effect_act _ a).size, hspawned]
  rfl

theorem Born.isPrefix {b' : List Action} {a' : Action} {p' : Program} (h : m.Born t b a p)
    (hb : b ++ [a] <+: actions) (h' : m.Born t b' a' p') (hb' : b' ++ [a'] <+: actions) :
    b' <+: b := by
  rcases prefix_or_behind hb ((List.prefix_append _ _).trans hb') with hbefore | ⟨rest, rfl⟩
  · exact hbefore
  · have hle := size_le_size_run (m.run (b ++ [a])) rest
    rw [← run_append, h'.size, h.size_concat] at hle
    exact absurd hle (Nat.not_succ_le_self t)

/-- A task was created once, with one program. -/
theorem Born.unique {b' : List Action} {a' : Action} {p' : Program} (h : m.Born t b a p)
    (hb : b ++ [a] <+: actions) (h' : m.Born t b' a' p') (hb' : b' ++ [a'] <+: actions) :
    p = p' := by
  obtain rfl := (h'.isPrefix hb' h hb).eq_of_length_le (h.isPrefix hb h' hb').length_le
  have ha := (List.prefix_of_prefix_length_le hb hb' (by simp)).eq_of_length (by simp)
  obtain rfl : a = a' := by simpa using ha
  obtain ⟨-, role, hspawned⟩ := h
  obtain ⟨-, role', hspawned'⟩ := h'
  rw [hspawned] at hspawned'
  cases hspawned'
  rfl

/-- The requests of a task that has come to its end are those that it was told the answers of. -/
theorem Came.requests {ds : List Told} {now : List Action} {q : Program} {r : Outcome}
    {under : List Event} (h : m.Came t b a p actions ds now q (.finished r) under) :
    ((m.run actions).requests.filter (·.1 = t)).length = (postings ds).count .request := by
  obtain ⟨-, rfl⟩ := h.of_finished h.activity
  rw [requests_of_task, h.trace, List.filterMap_append, List.length_append, requests_of_told]
  rfl

end Books

/-! ## Shares of the tasks -/

/-- There are as many of some things as there are for each task. -/
theorem length_eq_sum_countP {α : Type} (f : α → TaskId) {n : Nat} {xs : List α}
    (h : ∀ x ∈ xs, f x < n) : xs.length = ∑ u ∈ Finset.range n, xs.countP (f · = u) := by
  induction xs with
  | nil => simp
  | cons x xs ih =>
    obtain ⟨hx, hxs⟩ := List.forall_mem_cons.1 h
    have hone : ∑ u ∈ Finset.range n, (if f x = u then 1 else 0) = 1 := by
      rw [Finset.sum_ite_eq, if_pos (Finset.mem_range.2 hx)]
    simp only [List.countP_cons, decide_eq_true_eq, Finset.sum_add_distrib, hone, ← ih hxs,
      List.length_cons]

/-- The list has each task with some property once, and no other. -/
structure Enumerates (ts : List TaskId) (P : TaskId → Prop) : Prop where
  nodup : ts.Nodup
  mem_iff : ∀ t, t ∈ ts ↔ P t

theorem Enumerates.count_eq {ts : List TaskId} {P : TaskId → Prop} [DecidablePred P]
    (h : Enumerates ts P) (t : TaskId) : ts.count t = if P t then 1 else 0 := by
  rw [h.nodup.count]
  simp only [h.mem_iff]

/-- The tasks of a run that have some property can be enumerated, and they are as many as there are
for each task. -/
theorem exists_enumerates {P : TaskId → Prop} {n : Nat} (h : ∀ t, P t → t < n)
    [DecidablePred P] :
    ∃ ts, Enumerates ts P ∧ ts.length = ∑ u ∈ Finset.range n, if P u then 1 else 0 := by
  refine ⟨(List.range n).filter P, ⟨List.nodup_range.filter _, ?_⟩, ?_⟩
  · intro t
    simpa using h t
  · rw [← Finset.card_filter]
    rfl

section Shares

variable {settings : Tracker.Settings} {capacities : List Nat} {tables : Nat}
  {actions : List Action}

/-- The requests of a run are those of its tasks. -/
theorem requests_eq_sum :
    ((start settings capacities tables).run actions).requests.length =
      ∑ u ∈ Finset.range ((start settings capacities tables).run actions).tasks.size,
        (((start settings capacities tables).run actions).requests.filter (·.1 = u)).length := by
  simp only [← List.countP_eq_length_filter]
  refine length_eq_sum_countP Prod.fst ?_
  rintro ⟨t, q⟩ hq
  obtain ⟨b, k, hb, hsending⟩ := exists_sends hq
  exact lt_size_of_isPrefix (lt_size_of_activity? hsending) ((List.prefix_append _ _).trans hb)

/-- The retries of a run are those of its tasks. -/
theorem retries_eq_sum :
    ((start settings capacities tables).run actions).tally.retries =
      ∑ u ∈ Finset.range ((start settings capacities tables).run actions).tasks.size,
        ((start settings capacities tables).countings actions).count (u, .retries) := by
  have hread := read_run (start settings capacities tables) actions .retries
  have htally : ((start settings capacities tables).run actions).tally.retries =
      (((start settings capacities tables).countings actions).filter (·.2 = .retries)).length := by
    rw [← List.countP_eq_length_filter]
    exact hread.trans (Nat.zero_add _)
  have hthere : ∀ x ∈ ((start settings capacities tables).countings actions).filter
      (·.2 = .retries), x.1 < ((start settings capacities tables).run actions).tasks.size :=
    fun x hx => lt_size_of_mem_countings (List.mem_of_mem_filter hx)
  rw [htally, length_eq_sum_countP Prod.fst hthere]
  refine Finset.sum_congr rfl fun u _ => ?_
  rw [List.countP_filter, List.count]
  refine List.countP_congr fun x _ => ?_
  simp [Prod.ext_iff]

/-- A run is a task that somebody leads. -/
theorem isSome_leader?_iff {m : Machine} {u : TaskId} :
    (m.leader? u).isSome ↔ ∃ i key leader, m.role? u = some (.run i key leader) := by
  simp only [Option.isSome_iff_exists, leader?_eq_some_iff]
  grind

/-- Unless a program counts runs itself, a run is counted when it is started. -/
theorem counted?_eq_led_iff {m : Machine} {a : Action}
    (hquiet : ∀ t k, m.activity? t ≠ some (.running (.ask (.count .led) k))) :
    m.counted? a = some .led ↔
      ∃ i key leader p, m.spawned? a = some ⟨.run i key leader, p⟩ := by
  constructor
  · intro h
    cases a with
    | step t =>
      obtain ⟨i, key, run, k, hold, hnone⟩ : ∃ i key run k,
          m.activity? t = some (.running (.share i key run k)) ∧ m.sharedRun? i key = none := by
        specialize hquiet t
        unfold counted? at h
        grind
      exact ⟨i, key, t, .running run, by simp only [spawned?, hold, hnone]⟩
    | _ => cases h
  · rintro ⟨i, key, leader, p, hspawned⟩
    cases spawns_of_spawned? hspawned with
    | run hold hnone => simp [counted?, hold, hnone]

/-- Who leads the tasks that are there stays the same. -/
theorem leader?_act {m : Machine} {u : TaskId} (hu : u < m.tasks.size) (a : Action) :
    (m.act a).leader? u = m.leader? u := by
  unfold leader?
  rw [(effect_act m a).role u hu]

/-- If programs do not count runs themselves then the runs that are counted are those that are
there. -/
theorem led_eq_sum
    (hquiet : ∀ now t k, now <+: actions →
      ((start settings capacities tables).run now).activity? t ≠
        some (.running (.ask (.count .led) k))) :
    ((start settings capacities tables).run actions).tally.led =
      ∑ u ∈ Finset.range ((start settings capacities tables).run actions).tasks.size,
        if (((start settings capacities tables).run actions).leader? u).isSome then 1 else 0 := by
  induction actions using List.reverseRecOn with
  | nil => rfl
  | append_singleton actions a ih =>
    have hbefore := ih fun now t k hnow => hquiet now t k (hnow.trans (List.prefix_append _ _))
    have hcounted := counted?_eq_led_iff (a := a) fun t k =>
      hquiet actions t k (List.prefix_append _ _)
    rw [run_concat]
    generalize (start settings capacities tables).run actions = m at hbefore hcounted ⊢
    have hthere : ∑ u ∈ Finset.range m.tasks.size, (if ((m.act a).leader? u).isSome then 1 else 0) =
        m.tally.led := by
      rw [hbefore]
      refine Finset.sum_congr rfl fun u hu => ?_
      rw [leader?_act (Finset.mem_range.1 hu)]
    have hread : (m.act a).tally.led = m.tally.led + if m.counted? a = some .led then 1 else 0 := by
      have hread := read_act m a .led
      rw [tally_act]
      cases m.counted? a with
      | none => rfl
      | some c => cases c <;> rfl
    cases hspawned : m.spawned? a with
    | none =>
      have hsize : (m.act a).tasks.size = m.tasks.size := by simp [(effect_act m a).size, hspawned]
      have hnot : m.counted? a ≠ some .led := by simp [hcounted, hspawned]
      rw [hread, if_neg hnot, hsize, hthere, Nat.add_zero]
    | some task =>
      have hsize : (m.act a).tasks.size = m.tasks.size + 1 := by
        simp [(effect_act m a).size, hspawned]
      have hlast : ((m.act a).leader? m.tasks.size).isSome ↔ m.counted? a = some .led := by
        rw [hcounted, hspawned, isSome_leader?_iff, role?_act_of_fresh hspawned]
        cases task
        simp
      rw [hread, hsize, Finset.sum_range_succ, hthere]
      simp only [hlast]

end Shares

end Machine

end EthRpc
