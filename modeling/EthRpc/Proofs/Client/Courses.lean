-- SUMMARY: What the tasks of a client go through: callers through all stages, shared runs through those behind the table.
import EthRpc.Proofs.Client.Obedience
import EthRpc.Proofs.Machine.Heads
import EthRpc.Proofs.Stage.Keys

/-!
# Courses of a client

The tasks of a client are callers, whose work comes down to one request that goes
through all stages, and runs, which go through the stages behind the table under
the fingerprint of some request. A run keeps nothing and starts no other run, and
a value that it returns is the answer to a request that it has sent itself.
-/

namespace EthRpc

/-! ## Reading a course -/

namespace Machine

section Told

variable {t : TaskId} {d : Told} {i : Nat} {key : String} {v : Json}

theorem Told.eq_of_recalled (h : .recalled t i key v ∈ d.events t) :
    d = .reply (.lookup i key) (some v) := by
  cases d with
  | reply c a =>
    cases c with
    | lookup j key' =>
      cases a with
      | none => cases h
      | some w =>
        cases List.mem_singleton.1 h
        rfl
    | _ => simp [events, Command.leaves] at h
  | _ => simp [events] at h

theorem Told.eq_of_stored (h : .stored t i key v ∈ d.events t) :
    d = .reply (.keep i key v) () := by
  cases d with
  | reply c a =>
    cases c with
    | keep j key' w =>
      cases List.mem_singleton.1 h
      rfl
    | lookup j key' => cases a <;> simp [events, Command.leaves] at h
    | _ => simp [events, Command.leaves] at h
  | _ => simp [events] at h

variable {m : Machine} {now actions : List Action} {old : Activity} {p : Program}
  {under : List Event} {e : Event}

/-- What is recorded of a task that waits for a reply is no use of a cache. -/
theorem Stands.not_cached (h : m.Stands t now actions old p under) (he : e ∈ under) :
    e ≠ .recalled t i key v ∧ e ≠ .stored t i key v := by
  induction h with
  | crashed _ ih | cancelled _ ih => exact ih he
  | polled =>
    simp only [List.mem_cons, List.not_mem_nil, or_false] at he
    rcases he with rfl | rfl <;> simp
  | _ => simp_all

section Came

variable {a : Action} {b : List Action} {q : Program} {ds : List Told}
  (hc : m.Came t b a p actions ds now q old under)

include hc

theorem Came.told_of_recalled (h : (m.run actions).Recalled t i key v) :
    .reply (.lookup i key) (some v) ∈ ds := by
  obtain ⟨time, hmem⟩ := h
  have htrace := mem_trace_iff.2 ⟨rfl, time, hmem⟩
  rw [hc.trace, List.mem_append, List.mem_flatMap] at htrace
  rcases htrace with ⟨d, hd, he⟩ | hunder
  · rwa [← Told.eq_of_recalled he]
  · exact absurd rfl (hc.stands.not_cached hunder).1

theorem Came.told_of_stored (h : (m.run actions).Stored t i key v) :
    .reply (.keep i key v) () ∈ ds := by
  obtain ⟨time, hmem⟩ := h
  have htrace := mem_trace_iff.2 ⟨rfl, time, hmem⟩
  rw [hc.trace, List.mem_append, List.mem_flatMap] at htrace
  rcases htrace with ⟨d, hd, he⟩ | hunder
  · rwa [← Told.eq_of_stored he]
  · exact absurd rfl (hc.stands.not_cached hunder).2

end Came

end Told

end Machine

/-! ## Programs -/

namespace Client

open Machine (Action TaskId Told)

variable {methods : MethodTable} {retry : RetrySettings}

/-- The program of a shared run, which goes through the stages behind the table. -/
def runProgram (methods : MethodTable) (retry : RetrySettings) (q : Request) : Program :=
  Stage.pipeline [.blockRef methods, .retryOnEmpty methods retry, .inspector] q

/-- A run that a client shares is that of a request with the fingerprint that it is shared under. -/
def Shares (methods : MethodTable) (retry : RetrySettings) (i : Nat) (key : String)
    (run : Program) : Prop :=
  i = 0 ∧ ∃ q : Request, key = q.fingerprint ∧ run = runProgram methods retry q

/-- The endpoint is asked, and nothing else is done than what stages do on their own. -/
def SendsOnly (c : Command) : Prop := c.IsMinor ∨ ∃ q, c = .send q

theorem runProgram_within {S : Nat → String → Program → Prop} (q : Request) :
    (runProgram methods retry q).Within SendsOnly S := by
  have hminor : ∀ c : Command, c.IsMinor → SendsOnly c := fun _ => .inl
  refine (Stage.blockRef_builtOn methods).within hminor ?_
  rintro _ ⟨q', rfl⟩
  refine (Stage.retryOnEmpty_builtOn methods retry).within hminor ?_
  rintro _ rfl
  refine Stage.inspector_builtOn.within hminor ?_
  rintro _ rfl
  exact ⟨.inr ⟨_, rfl⟩, fun _ => trivial⟩

/-- A value that a run returns is the answer to a request of its own. -/
theorem runProgram_obeys {F : Facts} (q : Request) :
    (runProgram methods retry q).Obeys F (.only fun v => ∃ q', F.answered q' v) := by
  refine Stage.blockRef_obeys methods fun n _ => ?_
  refine Stage.retryOnEmpty_obeys methods retry ?_
  refine Stage.inspector_obeys ?_
  exact .send fun v hv => ⟨_, hv⟩

theorem SendsOnly.countsRetries {c : Command} (h : SendsOnly c) : c.CountsRetries := by
  rcases h with hminor | ⟨q, rfl⟩
  · exact hminor.countsRetries
  · nofun

/-- Shared runs share no more than the programs of a client do. -/
theorem Shares.within {i : Nat} {key : String} {run : Program} (h : Shares methods retry i key run) :
    run.Within Command.CountsRetries (Shares methods retry) := by
  obtain ⟨-, q, -, rfl⟩ := h
  exact (runProgram_within q).mono (fun _ => SendsOnly.countsRetries) fun _ _ _ => id

theorem program_within (q : Request) :
    (program methods retry q).Within Command.CountsRetries (Shares methods retry) := by
  refine Stage.blockCache_builtOn.within ?_ ?_
  · rintro c (hminor | ⟨key, asked, number, -, huses⟩)
    · exact hminor.countsRetries
    · exact huses.countsRetries
  · rintro _ ⟨q', rfl⟩
    have hshares : Shares methods retry 0 q'.fingerprint (runProgram methods retry q') :=
      ⟨rfl, q', rfl, rfl⟩
    exact Stage.inflight_within methods hshares hshares.within

theorem Work.program_within (w : Work) :
    (w.program (stages methods retry)).Within Command.CountsRetries (Shares methods retry) := by
  cases w with
  | dispatch q => exact Client.program_within q
  | call method params => exact ⟨nofun, fun n => Client.program_within _⟩
  | query q => exact ⟨nofun, fun _ => trivial⟩

/-- All callers of a client keep to what its programs do. -/
theorem Serves.within {s : Settings} {actions : List Action} {p : Program}
    (h : Serves methods s actions) (hp : .launch p ∈ actions) :
    p.Within Command.CountsRetries (Shares methods s.retry) := by
  obtain ⟨w, rfl⟩ := h p hp
  exact w.program_within

/-- All requests of some work are the same, but for their ids. -/
theorem Work.Handles.alike {w : Work} {r r' : Request} (h : w.Handles r) (h' : w.Handles r') :
    r.method = r'.method ∧ r.params = r'.params := by
  cases w with
  | dispatch q =>
    obtain rfl : r = q := h
    obtain rfl : r' = r := h'
    exact ⟨rfl, rfl⟩
  | call method params =>
    obtain ⟨n, rfl⟩ := h
    obtain ⟨n', rfl⟩ := h'
    exact ⟨rfl, rfl⟩
  | query q => cases h

/-- Some work comes down to a request once it is told an id for it, if it needs one. -/
theorem Work.Handles.exists_course {m : Machine} {t : TaskId} {now now' : List Action} {w : Work}
    {r : Request} {ds : List Told} {p' : Program} (h : w.Handles r)
    (hc : m.Course t now (w.program (stages methods retry)) ds now' p') :
    ∃ ids rest, ds = ids ++ rest ∧ (∀ d ∈ ids, ∃ n, d = Told.reply .freshId n) ∧
      (rest = [] ∧ p' = w.program (stages methods retry) ∨
        ∃ r' now₁, w.Handles r' ∧ now <+: now₁ ∧
          m.Course t now₁ (Client.program methods retry r') rest now' p') := by
  cases w with
  | dispatch q => exact ⟨[], ds, rfl, nofun, .inr ⟨q, now, rfl, List.prefix_refl _, hc⟩⟩
  | query q => cases h
  | call method params =>
    cases hc with
    | refl => exact ⟨[], [], rfl, nofun, .inl ⟨rfl, rfl⟩⟩
    | @step _ b b' _ a d rest _ p'' _ hb hd hrest =>
      have hlater : now <+: b' ++ [a] :=
        (hb.trans hd.isPrefix).trans (List.prefix_append _ _)
      cases hd with
      | @reply _ _ n =>
        refine ⟨[.reply .freshId n], rest, rfl, ?_, .inr ⟨_, _, ⟨n, rfl⟩, hlater, hrest⟩⟩
        exact fun d hd => ⟨n, List.mem_singleton.1 hd⟩

/-- A task that was created in a run of a client follows a course of its program. -/
theorem exists_came {s : Settings} {actions b : List Action} {t : TaskId} {a : Action} {p : Program}
    (hborn : (start s).Born t b a p) (hb : b ++ [a] <+: actions) :
    ∃ ds now q old under, (start s).Came t b a p actions ds now q old under :=
  hborn.exists_came hb

/-- Whatever a caller is running has what its program has and what is kept from one program to the
next. -/
theorem Employs.keeps {s : Settings} {actions now : List Action} {t : TaskId} {w : Work}
    {P : Program → Prop} {p : Program} (ht : Employs methods s actions t w)
    (hP : ∀ p p', p.Goes p' → P p → P p') (hw : P (w.program (stages methods s.retry)))
    (hnow : now <+: actions) (h : ((start s).run now).activity? t = some (.running p)) : P p := by
  obtain ⟨b, hb, hborn⟩ := (ht.of_isPrefix hnow (Machine.lt_size_of_activity? h)).born
  obtain ⟨ds, now', q, old, under, hcame⟩ := exists_came hborn hb
  obtain ⟨rfl, -⟩ := hcame.of_running h
  exact hcame.course.keeps hP hw

/-- A run that can be joined was started for a request with the fingerprint. -/
theorem exists_born_of_sharedRun {s : Settings} {actions b : List Action} {i : Nat} {key : String}
    {e : Machine.SharedRun} (hserves : Serves methods s actions) (hb : b <+: actions)
    (he : ((start s).run b).sharedRun? i key = some e) :
    ∃ leader b₀ q, b₀ ++ [.step leader] <+: b ∧ i = 0 ∧ key = q.fingerprint ∧
      (start s).Born e.run b₀ (.step leader) (runProgram methods s.retry q) := by
  have horderly := (Machine.orderly_start s.tracker [s.cacheCapacity] 1).run b
  obtain ⟨hlisted, hkey⟩ := horderly.sharedRun?_eq_some_iff.1 he
  obtain ⟨⟨leader, hrole⟩, -⟩ := horderly.listed hlisted
  obtain ⟨b₀, p, hb₀, hborn, rfl, q, hfingerprint, rfl⟩ := Machine.exists_born_of_role
    (fun p hp => hserves.within (hb.subset hp)) (fun _ _ _ => Shares.within) hrole
  exact ⟨leader, b₀, q, hb₀, rfl, hkey ▸ hfingerprint, hborn⟩

/-! ## Calls of a run -/

/-- What may be reckoned with after these things were told: of the endpoint, no more than that. -/
def factsOf (ds : List Told) : Facts where
  answered q v := .reply (.send q) (.ok v) ∈ ds
  reported _ := True
  cached _ _ _ := True
  shared _ _ _ := True

theorem allowed_factsOf {d : Told} {ds : List Told} (hd : d ∈ ds) : d.Allowed (factsOf ds) := by
  cases d with
  | reply c a =>
    cases c with
    | send q =>
      intro v hv
      obtain rfl : a = .ok v := hv
      exact hd
    | query q => cases q <;> exact fun _ _ => trivial
    | currentHead | lookup => exact fun _ _ => trivial
    | _ => trivial
  | report q _ _ => cases q <;> exact fun _ _ => trivial
  | outcome => exact fun _ _ => trivial

/-- If a run is heard to have returned a value then the endpoint has answered a call of it by that. -/
theorem exists_calls_of_hears {s : Settings} {t u : TaskId} {b₀ heard : List Action} {x a : Action}
    {q : Request} {v : Json} (hborn : (start s).Born u b₀ x (runProgram methods retry q))
    (hb : b₀ ++ [x] <+: heard) (hhears : (start s).Hears t heard a u (.ok v)) :
    ∃ q' b b', (start s).Calls u b b' q' (.ok v) ∧ b₀ ++ [x] <+: b ∧
      b' ++ [.answer u (.ok v)] <+: heard := by
  obtain ⟨ds, now, p, old, under, hcame⟩ := exists_came hborn hb
  obtain ⟨rfl, -⟩ := hcame.of_running hhears.running_of_ok
  -- A run returns nothing but what one of its calls was answered by.
  have hobeys := hcame.course.obeys (runProgram_obeys q) fun _ => allowed_factsOf
  obtain ⟨q', hmem⟩ := hobeys v rfl
  obtain ⟨b, b', y, p, p', hlater, hbefore, hdeals⟩ := hcame.course.exists_deals hmem
  obtain ⟨rfl, hcalls⟩ := hdeals.calls
  exact ⟨q', b, b', hcalls, hlater, hbefore.trans hcame.isPrefix⟩

end Client

end EthRpc
