-- SUMMARY: The gauge of open requests shows those that tasks wait for and those that were left behind.
import EthRpc.Http.Ledger
import EthRpc.Proofs.Machine.Countings
import EthRpc.Proofs.Machine.Exchanges

/-!
# Open requests

A request is open from when it is sent until it is answered, and the gauge follows
this as long as somebody waits for the answer. If the task that waits is taken
down or goes away then nobody lowers the gauge any more. So what it shows is the
number of requests that are waited for, and of all that were ever left behind.
-/

namespace EthRpc.Http

open Machine (Action Activity Enumerates Event TaskId)

/-! ## Reading the ledger -/

/-- The number under a key, where nothing is counted under a key that is missing. -/
def level (key : String) (d : Dict Nat) : Nat := (Dict.get? key d).getD 0

/-- All labels of outcomes. -/
def labels : Finset String :=
  {"success", "parse_error", "invalid_request", "method_not_found", "invalid_params",
    "internal_error", "server_error", "other", "http_4xx", "http_5xx", "timeout", "transport",
    "malformed", "internal"}

/-- How many answers to requests of a method are counted, under whatever label. -/
def Ledger.answers (l : Ledger) (method : String) : Nat :=
  ∑ s ∈ labels, level s ((Dict.get? method l.statuses).getD [])

section Reading

variable {l : Ledger} {method : String} {key : String} {d : Dict Nat}

theorem level_increment (key k : String) (d : Dict Nat) :
    level k (Ledger.increment key d) = level k d + if k = key then 1 else 0 := by
  unfold level Ledger.increment Dict.update
  rw [Dict.get?_insert]
  split
  next h => simp [h]
  next => simp

theorem level_decrement (key k : String) (d : Dict Nat) :
    level k (Ledger.decrement key d) = level k d - if k = key then 1 else 0 := by
  unfold level Ledger.decrement Dict.update
  rw [Dict.get?_insert]
  split
  next h => simp [h]
  next => simp

theorem label_mem_labels (r : Outcome) : label r ∈ labels := by
  unfold label
  split
  case h_2 => split_ifs <;> simp [labels]
  case h_3 => split <;> simp [labels]
  all_goals simp [labels]

theorem answers_note_closed (l : Ledger) (method k : String) (r : Outcome) :
    (l.note (.closed method r)).answers k = l.answers k + if k = method then 1 else 0 := by
  have hone : ∑ s ∈ labels, (if s = label r then 1 else 0) = 1 := by
    rw [Finset.sum_ite_eq', if_pos (label_mem_labels r)]
  simp only [Ledger.answers, Ledger.note, Dict.update, Dict.get?_insert]
  split
  next h =>
    subst h
    simp only [Option.getD_some, level_increment, Finset.sum_add_distrib, hone]
  next => rw [Nat.add_zero]

end Reading

/-! ### Requests under way -/

/-- A ledger shows some requests, given with their tasks, as those that are not answered. -/
structure Ledger.Covers (l : Ledger) (calls : List (TaskId × String)) : Prop where
  gauge : ∀ method, level method l.openRequests = calls.countP (·.2 = method)
  requests : ∀ method,
    level method l.requests = l.answers method + calls.countP (·.2 = method)

section Covers

variable {l : Ledger} {calls : List (TaskId × String)} {t : TaskId} {method : String}

theorem Ledger.covers_nil : ({} : Ledger).Covers [] :=
  ⟨fun _ => rfl, fun _ => by simp [level, Ledger.answers]⟩

theorem countP_cons_method (k : String) : ((t, method) :: calls).countP (·.2 = k) =
    calls.countP (·.2 = k) + if k = method then 1 else 0 := by
  rw [List.countP_cons]
  by_cases h : k = method
  · simp [h]
  · simp [h, Ne.symm h]

theorem Ledger.Covers.opened (h : l.Covers calls) (t : TaskId) (method : String) :
    (l.note (.opened method)).Covers ((t, method) :: calls) := by
  constructor
  · intro k
    rw [countP_cons_method, ← h.gauge]
    exact level_increment method k l.openRequests
  · intro k
    rw [countP_cons_method, ← Nat.add_assoc]
    have hanswers : (l.note (.opened method)).answers k = l.answers k := rfl
    rw [hanswers, ← h.requests]
    exact level_increment method k l.requests

theorem Ledger.Covers.closed (h : l.Covers calls) (hmem : (t, method) ∈ calls) (r : Outcome) :
    (l.note (.closed method r)).Covers (calls.erase (t, method)) := by
  have hcount (k : String) : calls.countP (·.2 = k) =
      (calls.erase (t, method)).countP (·.2 = k) + if k = method then 1 else 0 := by
    rw [(List.perm_cons_erase hmem).countP_eq, countP_cons_method]
  constructor
  · intro k
    have hlower := level_decrement method k l.openRequests
    rw [h.gauge, hcount k, Nat.add_sub_cancel] at hlower
    exact hlower
  · intro k
    have hrequests : level k l.requests = _ := h.requests k
    rw [hcount k] at hrequests
    rw [answers_note_closed, Nat.add_assoc, Nat.add_comm (ite _ _ _)]
    exact hrequests

end Covers

/-! ## The ledger of a run -/

/-- What the record of a client has made of its requests so far. -/
def noted (m : Machine) : Open := (m.log.reverse.map (·.2)).foldl noteEvent ([], [])

/-- The ledger of a client. -/
def ledgerOf (m : Machine) : Ledger := Ledger.ofEntries (entriesOf m)

section Noted

variable {m : Machine} {a : Action} {t : TaskId} {method : String}

theorem noted_act (m : Machine) (a : Action) :
    noted (m.act a) = (m.events a).reverse.foldl noteEvent (noted m) := by
  simp [noted, (Machine.effect_act m a).log, Function.comp_def, ← List.map_reverse]

theorem noted_act_of_sent {poll : Bool} {q : Request} (h : m.events a = [.sent t poll q]) :
    noted (m.act a) = ((t, q.method) :: (noted m).1, .opened q.method :: (noted m).2) := by
  rw [noted_act, h]
  rfl

theorem noted_act_of_answered {r : Outcome} (h : m.events a = [.answered t r])
    (hmethod : (noted m).1.lookup t = some method) :
    noted (m.act a) = ((noted m).1, .closed method r :: (noted m).2) := by
  rw [noted_act, h]
  simp only [List.reverse_singleton, List.foldl_cons, List.foldl_nil, noteEvent, hmethod]

theorem noted_act_of_other (hsent : ∀ t poll q, .sent t poll q ∉ m.events a)
    (hanswered : ∀ t r, .answered t r ∉ m.events a) : noted (m.act a) = noted m := by
  rw [noted_act]
  refine List.foldlRecOn (motive := fun s => s = noted m) _ _ rfl ?_
  rintro s rfl e he
  rw [List.mem_reverse] at he
  cases e with
  | sent t poll q => exact absurd he (hsent t poll q)
  | answered t r => exact absurd he (hanswered t r)
  | _ => rfl

theorem ledgerOf_of_noted {s : List (TaskId × String)} {e : Entry} {n : Machine}
    (h : noted n = (s, e :: (noted m).2)) : ledgerOf n = (ledgerOf m).note e := by
  have hentries : entriesOf n = entriesOf m ++ [e] :=
    (congrArg (·.2.reverse) h).trans List.reverse_cons
  rw [ledgerOf, hentries, Ledger.ofEntries, List.foldl_append]
  rfl

end Noted

/-! ### Accounts -/

/-- After a run from `m`, these are the requests without an answer, and the ledger shows them. -/
structure Accounts (m : Machine) (actions : List Action) (calls : List (TaskId × String)) :
    Prop where
  nodup : calls.Nodup
  mem_iff : ∀ t method, (t, method) ∈ calls ↔ m.Lacks actions method t
  lookup : ∀ t method, (t, method) ∈ calls → (noted (m.run actions)).1.lookup t = some method
  covers : (ledgerOf (m.run actions)).Covers calls

section Accounts

variable {m : Machine} {actions : List Action} {a : Action} {calls : List (TaskId × String)}
  {t : TaskId}

theorem Accounts.sent (h : Accounts m actions calls) {poll : Bool} {q : Request}
    (hsent : .sent t poll q ∈ (m.run actions).events a) :
    Accounts m (actions ++ [a]) ((t, q.method) :: calls) := by
  have hevents := (Machine.exists_of_sent hsent).1
  have hnoted := noted_act_of_sent hevents
  rw [← Machine.run_concat] at hnoted
  have hfresh (method : String) : (t, method) ∉ calls := by
    rw [h.mem_iff]
    exact (Machine.lacks_of_sent hsent).1
  refine ⟨List.nodup_cons.2 ⟨hfresh _, h.nodup⟩, fun u method => ?_, fun u method hmem => ?_, ?_⟩
  · by_cases hu : u = t
    · subst hu
      rw [(Machine.lacks_of_sent hsent).2, List.mem_cons, Prod.mk.injEq, eq_comm (a := method)]
      simp [hfresh method]
    · rw [List.mem_cons, Prod.mk.injEq, h.mem_iff, Machine.lacks_concat_iff]
      · simp [hu]
      · intro poll' q'
        simp [hevents, hu]
      · intro r
        simp [hevents]
  · rw [hnoted]
    rcases List.mem_cons.1 hmem with heq | hold
    · cases heq
      exact List.lookup_cons_self
    · have hu : (u == t) = false := by
        rw [beq_eq_false_iff_ne]
        rintro rfl
        exact hfresh method hold
      rw [List.lookup_cons, hu]
      exact h.lookup u method hold
  · rw [ledgerOf_of_noted hnoted]
    exact h.covers.opened t q.method

theorem Accounts.answered (h : Accounts m actions calls) {r : Outcome}
    (hanswered : .answered t r ∈ (m.run actions).events a) :
    ∃ method, Accounts m (actions ++ [a]) (calls.erase (t, method)) := by
  have hevents := (Machine.exists_of_answered hanswered).1
  obtain ⟨⟨method, hlacks⟩, hno⟩ := Machine.lacks_of_answered hanswered
  have hmem : (t, method) ∈ calls := (h.mem_iff t method).2 hlacks
  have hlookup := h.lookup t method hmem
  have hnoted := noted_act_of_answered hevents hlookup
  rw [← Machine.run_concat] at hnoted
  refine ⟨method, h.nodup.erase _, fun u k => ?_, fun u k hk => ?_, ?_⟩
  · rw [h.nodup.mem_erase_iff]
    by_cases hu : u = t
    · subst hu
      refine iff_of_false ?_ (hno k)
      rintro ⟨hne, hk⟩
      -- A task has one request at a time.
      have hsame := h.lookup u k hk
      rw [hlookup] at hsame
      cases hsame
      exact hne rfl
    · rw [h.mem_iff, Machine.lacks_concat_iff]
      · simp [hu]
      · intro poll q
        simp [hevents]
      · intro r'
        simp [hevents, hu]
  · rw [hnoted]
    exact h.lookup u k (List.mem_of_mem_erase hk)
  · rw [ledgerOf_of_noted hnoted]
    exact h.covers.closed hmem r

theorem Accounts.other (h : Accounts m actions calls)
    (hsent : ∀ t poll q, .sent t poll q ∉ (m.run actions).events a)
    (hanswered : ∀ t r, .answered t r ∉ (m.run actions).events a) :
    Accounts m (actions ++ [a]) calls := by
  have hnoted := noted_act_of_other hsent hanswered
  rw [← Machine.run_concat] at hnoted
  have hledger : ledgerOf (m.run (actions ++ [a])) = ledgerOf (m.run actions) :=
    congrArg (fun s : Open => Ledger.ofEntries s.2.reverse) hnoted
  refine ⟨h.nodup, fun t method => ?_, fun t method hmem => ?_, hledger ▸ h.covers⟩
  · rw [h.mem_iff, Machine.lacks_concat_iff (hsent t) (hanswered t)]
  · rw [hnoted]
    exact h.lookup t method hmem

end Accounts

theorem exists_accounts (settings : Tracker.Settings) (capacities : List Nat) (tables : Nat)
    (actions : List Action) :
    ∃ calls, Accounts (.start settings capacities tables) actions calls := by
  induction actions using List.reverseRecOn with
  | nil =>
    refine ⟨[], List.nodup_nil, fun t method => iff_of_false List.not_mem_nil ?_, nofun,
      Ledger.covers_nil⟩
    rintro (⟨old, q, hold, -⟩ | ⟨b, a, gone, hb, -⟩)
    · cases hold
    · exact absurd (List.prefix_nil.1 hb) (by simp)
  | append_singleton actions a ih =>
    obtain ⟨calls, h⟩ := ih
    let m := (Machine.start settings capacities tables).run actions
    by_cases hsent : ∃ t poll q, .sent t poll q ∈ m.events a
    · obtain ⟨t, poll, q, hsent⟩ := hsent
      exact ⟨_, h.sent hsent⟩
    by_cases hanswered : ∃ t r, .answered t r ∈ m.events a
    · obtain ⟨t, r, hanswered⟩ := hanswered
      obtain ⟨method, hafter⟩ := h.answered hanswered
      exact ⟨_, hafter⟩
    simp only [not_exists] at hsent hanswered
    exact ⟨calls, h.other hsent hanswered⟩

/-- Of the requests of a method without an answer, some are waited for and the others were left
behind. -/
theorem Accounts.exists_enumerates {m : Machine} {actions : List Action}
    {calls : List (TaskId × String)} (h : Accounts m actions calls) (method : String) :
    ∃ waiting dropped, Enumerates waiting ((m.run actions).Waits method) ∧
      Enumerates dropped (m.Drops actions method) ∧
      calls.countP (·.2 = method) = waiting.length + dropped.length := by
  classical
  let those := (calls.filter (·.2 = method)).map (·.1)
  have hmem (t : TaskId) : t ∈ those ↔ m.Lacks actions method t := by
    rw [← h.mem_iff]
    simp [those]
  have hnodup : those.Nodup := by
    refine (h.nodup.filter _).map_on fun x hx y hy hxy => ?_
    have hx : x.2 = method := by simpa using (List.mem_filter.1 hx).2
    have hy : y.2 = method := by simpa using (List.mem_filter.1 hy).2
    exact Prod.ext hxy (hx.trans hy.symm)
  have hexclusive (t : TaskId) (hdrops : m.Drops actions method t) :
      ¬(m.run actions).Waits method t := by
    intro hwaits
    obtain ⟨gone, hgone, hisGone⟩ := hdrops.activity?
    obtain ⟨q, hq, -⟩ := hwaits.request? hgone
    rw [hisGone.request?] at hq
    cases hq
  refine ⟨those.filter fun t => decide ((m.run actions).Waits method t),
    those.filter fun t => !decide ((m.run actions).Waits method t),
    ⟨hnodup.filter _, fun t => ?_⟩, ⟨hnodup.filter _, fun t => ?_⟩, ?_⟩
  · simp only [List.mem_filter, hmem, decide_eq_true_eq, and_iff_right_iff_imp]
    exact .inl
  · simp only [List.mem_filter, hmem, Bool.not_eq_true', decide_eq_false_iff_not]
    refine ⟨fun ⟨hlacks, hnot⟩ => hlacks.resolve_left hnot, fun hdrops => ?_⟩
    exact ⟨.inr hdrops, hexclusive t hdrops⟩
  · rw [← List.length_eq_length_filter_add, List.length_map, List.countP_eq_length_filter]

/-- At any moment of a run and for any method, the gauge shows the requests that tasks wait for and
those that were left behind since their tasks were taken down or went away, and all requests are
those that are counted as answered under some label, and these. -/
theorem open_requests (settings : Tracker.Settings) (capacities : List Nat) (tables : Nat)
    (actions : List Action) (method : String) :
    let m := (Machine.start settings capacities tables).run actions
    let l := Ledger.ofEntries (entriesOf m)
    ∃ waiting dropped, Enumerates waiting (m.Waits method) ∧
      Enumerates dropped ((Machine.start settings capacities tables).Drops actions method) ∧
      level method l.openRequests = waiting.length + dropped.length ∧
      level method l.requests = l.answers method + waiting.length + dropped.length := by
  intro m l
  obtain ⟨calls, h⟩ := exists_accounts settings capacities tables actions
  obtain ⟨waiting, dropped, hwaiting, hdropped, hcount⟩ := h.exists_enumerates method
  refine ⟨waiting, dropped, hwaiting, hdropped, (h.covers.gauge method).trans hcount, ?_⟩
  rw [Nat.add_assoc, ← hcount]
  exact h.covers.requests method

/-- A caller sends a request and goes away before it is answered. -/
def goesAway : List Action :=
  [.launch (.send ⟨.number 1, "eth_call", []⟩), .step 0, .abort 0]

/-- Nobody waits for an answer any more, and the gauge still shows a request. -/
theorem gauge_of_goesAway :
    let m := (Machine.start .default [] 0).run goesAway
    (∀ t, ¬m.Waits "eth_call" t) ∧
      level "eth_call" (Ledger.ofEntries (entriesOf m)).openRequests = 1 := by
  refine ⟨?_, rfl⟩
  rintro t ⟨old, q, hold, hq, -⟩
  match t with
  | 0 =>
    cases hold
    cases hq
  | t + 1 => cases hold

end EthRpc.Http
