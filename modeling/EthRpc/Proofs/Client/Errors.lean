-- SUMMARY: Whoever ends with an error ends with that of a call of its own run, which was the last that the run did.
import EthRpc.Proofs.Client.HeadScope
import EthRpc.Proofs.Program.Failures

/-!
# Errors

Every stage may go on when the tracker could not tell a head, and ends at once
when the stages below it have failed. So a request fails by what its run fails by,
and a run fails by a call that it has sent itself. A run that is over is no longer
shared, and an error is never kept: whoever comes later asks again.
-/

namespace EthRpc

/-! ## Failing -/

namespace Machine

/-- The error that a task is told by the endpoint or by a shared run. -/
def Told.failure? : Told → Option RpcError
  | reply c a => c.failure? a
  | report _ _ _ => none
  | outcome _ _ _ r => Outcome.failure? r

/-- The last that a task did was to send a request, not for a head. It was answered by an error,
and with this the task ended. -/
def FailsAtCall (m : Machine) (t : TaskId) (e : RpcError) : Prop :=
  ∃ q earlier, m.trace t =
    earlier ++ [.sent t false q, .answered t (.error e), .finished t (.error e)]

theorem Told.of_failure? {d : Told} {e : RpcError} (h : d.failure? = some e) :
    (∃ q, d = .reply (.send q) (.error e)) ∨ ∃ i key run, d = .outcome i key run (.error e) := by
  cases d with
  | reply c a =>
    cases c with
    | send q =>
      cases a with
      | ok v => cases h
      | error e' =>
        cases h
        exact .inl ⟨q, rfl⟩
    | _ => cases h
  | report => cases h
  | outcome i key run r =>
    cases r with
    | ok v => cases h
    | error e' =>
      cases h
      exact .inr ⟨i, key, run, rfl⟩

section Failing

variable {m : Machine} {t : TaskId} {b b' now now' actions : List Action} {a : Action} {d : Told}
  {ds : List Told} {p p' : Program} {e : RpcError} {last : Option RpcError}

theorem Deals.failsBy (h : m.Deals t b b' a d p p') (hp : p.FailsBy last) :
    p'.FailsBy d.failure? := by
  cases h <;> exact hp _

/-- Who fails has just been told of the error. -/
theorem Course.exists_failure (h : m.Course t now p ds now' (.done (.error e)))
    (hp : p.FailsBy last) :
    ds = [] ∧ last = some e ∨ ∃ before d, ds = before ++ [d] ∧ d.failure? = some e := by
  generalize hend : Program.done (.error e) = p' at h
  induction h generalizing last with
  | refl =>
    subst hend
    exact .inl ⟨rfl, hp e rfl⟩
  | @step _ _ _ _ _ d _ _ _ _ _ hd _ ih =>
    right
    rcases ih (hd.failsBy hp) hend with ⟨rfl, hlast⟩ | ⟨before, d', rfl, hlast⟩
    · exact ⟨[], d, rfl, hlast⟩
    · exact ⟨d :: before, d', rfl, hlast⟩

/-- Who fails does so at a call, or has heard the error from a run. -/
theorem Came.failsAtCall_or {now : List Action} {q : Program} {old : Activity}
    {under : List Event} (hc : m.Came t b a p actions ds now q old under) (hp : p.FailsBy none)
    (hfailed : (m.run actions).activity? t = some (.finished (.error e))) :
    (m.run actions).FailsAtCall t e ∨ ∃ i key run, .outcome i key run (.error e) ∈ ds := by
  obtain ⟨rfl, hunder⟩ := hc.of_finished hfailed
  rcases hc.course.exists_failure hp with ⟨-, hnone⟩ | ⟨before, d, hds, hd⟩
  · cases hnone
  rcases Told.of_failure? hd with ⟨q, rfl⟩ | ⟨i, key, run, rfl⟩
  · left
    refine ⟨q, before.flatMap (·.events t), ?_⟩
    rw [hc.trace, hunder, hds]
    simp [Told.events, Command.leaves]
  · right
    refine ⟨i, key, run, ?_⟩
    rw [hds]
    exact List.mem_append_right _ (List.mem_singleton_self _)

end Failing

end Machine

/-! ## Programs -/

theorem Stage.inflight_failsBy (methods : MethodTable) {table : Nat} {q : Request}
    {next : Request → Program} (hnext : (next q).FailsBy none) :
    ((Stage.inflight methods table).handle q next).FailsBy none := by
  simp only [Stage.inflight]
  split
  · exact hnext
  · exact fun r => .done r

namespace Client

open Machine (Action TaskId Told Calm)

section Program

variable {methods : MethodTable} {retry : RetrySettings}

/-- A run fails by its calls only. -/
theorem runProgram_failsBy (q : Request) : (runProgram methods retry q).FailsBy none := by
  have hminor : ∀ q, ¬(Command.send q).IsMinor := fun _ => id
  refine (Stage.blockRef_builtOn methods).failsBy hminor ?_
  rintro _ ⟨q', rfl⟩
  refine (Stage.retryOnEmpty_builtOn methods retry).failsBy hminor ?_
  rintro _ rfl
  refine Stage.inspector_builtOn.failsBy hminor ?_
  rintro _ rfl
  exact .send q'

theorem program_failsBy (q : Request) : (program methods retry q).FailsBy none := by
  refine Stage.blockCache_builtOn.failsBy ?_ ?_
  · rintro q' (hminor | ⟨key, asked, number, -, huse⟩)
    · cases hminor
    · cases huse
  · rintro _ ⟨q', rfl⟩
    exact Stage.inflight_failsBy methods (runProgram_failsBy q')

theorem Work.Handles.failsBy {w : Work} {r : Request} (hr : w.Handles r) :
    (w.program (stages methods retry)).FailsBy none := by
  cases w with
  | dispatch q => exact program_failsBy q
  | call method params => exact fun n => program_failsBy _
  | query q => cases hr

end Program

/-! ## Runs -/

section Runs

variable {methods : MethodTable} {s : Settings} {before actions : List Action} {a : Action}
  {t : TaskId} {w : Work} {ds : List Told} {e : RpcError}

/-- A run fails at a call. -/
theorem failsAtCall_of_run {retry : RetrySettings} {q : Request}
    (hborn : (start s).Born t before a (runProgram methods retry q))
    (hb : before ++ [a] <+: actions)
    (hfailed : ((start s).run actions).activity? t = some (.finished (.error e))) :
    ((start s).run actions).FailsAtCall t e := by
  obtain ⟨ds, now, p, old, under, hcame⟩ := exists_came hborn hb
  rcases hcame.failsAtCall_or (runProgram_failsBy q) hfailed with hcall | ⟨i, key, run, hd⟩
  · exact hcall
  · -- It shares none, so it has heard of none.
    have hwithin := hcame.course.within (runProgram_within (S := fun _ _ _ => False) q)
    exact (hwithin.1 _ hd).elim

/-- The outcome of a run that a caller is told comes from a run that goes through the stages behind
the table, and that was there before. -/
theorem exists_run_of_outcome {i : Nat} {key : String} {run : Program} {r : Outcome}
    {now : List Action} {p : Program} (hserves : Serves methods s actions)
    (hcourse : (start s).Course t before (w.program (stages methods s.retry)) ds now p)
    (hnow : now <+: actions) (hd : .outcome i key run r ∈ ds) :
    ∃ u q b₀ x heard a, (start s).Born u b₀ x (runProgram methods s.retry q) ∧
      b₀ ++ [x] <+: heard ∧ before <+: heard ∧ heard ++ [a] <+: actions ∧
      (start s).Hears t heard a u r := by
  obtain ⟨sharing, heard, a, p₁, p₂, hsharing, hheard, hdeals⟩ := hcourse.exists_deals hd
  have hend : heard ++ [a] <+: actions := hheard.trans hnow
  have hbefore : before <+: heard := hsharing.trans hdeals.isPrefix
  obtain ⟨-, q, -, hrun⟩ := (hcourse.within w.program_within).1 _ hd
  obtain ⟨u, hhears, hlater, hjoins | hborn⟩ := hdeals.exists_hears
  · obtain ⟨i', key', run', k, entry, -, hentry, rfl⟩ := hjoins
    have hshared : sharing <+: heard := hdeals.isPrefix
    have hwithin : sharing <+: actions := hshared.trans ((List.prefix_append _ _).trans hend)
    obtain ⟨leader, b₀, q', hb₀, -, -, hborn⟩ :=
      exists_born_of_sharedRun hserves hwithin hentry
    exact ⟨_, q', b₀, _, heard, a, hborn, hb₀.trans hshared, hbefore, hend, hhears⟩
  · rw [hrun] at hborn
    exact ⟨u, q, sharing, _, heard, a, hborn, hlater, hbefore, hend, hhears⟩

/-- If nothing crashes then whoever ends with an error ends with one by which the endpoint has
answered a call, never a poll. The call was sent by itself or by a run that it joined or led;
nothing was done there after the call; and the run was not over when the task came. -/
theorem errors_come_from_own_run {r : Request} (hserves : Serves methods s actions)
    (hcalm : Calm actions)
    (hb : before ++ [.launch (w.program (stages methods s.retry))] <+: actions)
    (ht : ((start s).run before).tasks.size = t) (hr : w.Handles r)
    (hfailed : ((start s).run actions).activity? t = some (.finished (.error e))) :
    ∃ u, ((start s).run actions).FailsAtCall u e ∧
      (u = t ∨ ∃ heard a, before ++ [.launch (w.program (stages methods s.retry))] <+: heard ∧
        heard ++ [a] <+: actions ∧ (start s).Hears t heard a u (.error e)) ∧
      ∀ old, ((start s).run before).activity? u = some old → old.isOver = false := by
  have hborn : (start s).Born t before (.launch (w.program (stages methods s.retry)))
      (w.program (stages methods s.retry)) := ⟨ht, _, rfl⟩
  obtain ⟨ds, now, p, old, under, hcame⟩ := exists_came hborn hb
  rcases hcame.failsAtCall_or hr.failsBy hfailed with hcall | ⟨i, key, run, hd⟩
  · refine ⟨t, hcall, .inl rfl, ?_⟩
    intro old hold
    exact absurd ht (Nat.ne_of_gt (Machine.lt_size_of_activity? hold))
  · obtain ⟨u, q, b₀, x, heard, a, hrun, hb₀, hlater, hend, hhears⟩ :=
      exists_run_of_outcome hserves hcame.course hcame.isPrefix hd
    obtain ⟨hrunning, hfinished⟩ := hhears.of_calm hend hcalm
    refine ⟨u, ?_, .inr ⟨heard, a, hlater, hend, hhears⟩, ?_⟩
    · apply failsAtCall_of_run hrun (hb₀.trans ((List.prefix_append _ _).trans hend))
      obtain ⟨rest, rfl⟩ := hend
      rw [Machine.run_append]
      exact Machine.activity?_run_of_isOver hfinished rfl rest
    · -- What is over stays so, and the run was still running when it was heard of.
      intro old hold
      obtain ⟨rest, rfl⟩ := (List.prefix_append before _).trans hlater
      cases hover : old.isOver with
      | false => rfl
      | true =>
        rw [Machine.run_append, Machine.activity?_run_of_isOver hold hover] at hrunning
        cases hrunning
        cases hover

end Runs

/-! ### An error that is shared -/

/-- A caller comes for the price, cannot be told a head, and shares a run all the same. -/
def comesBlind (t : TaskId) : List Action :=
  [.launch readGasPrice, .step t, .step t, .answer t (.error (.transport "no route")), .step t,
    .step t]

/-- The call of a run times out, and the run is over. -/
def timesOut (run : TaskId) : List Action :=
  [.step run, .answer run (.error .timeout), .step run]

/-- The second caller fails by the call of the run that the first one leads, not by its own poll. -/
theorem errors_come_from_own_run_of_joined :
    let actions := comesBlind 0 ++ comesBlind 2 ++ timesOut 1 ++ [.step 2]
    ∃ u, ((start .default).run actions).FailsAtCall u .timeout ∧
      (u = 2 ∨ ∃ heard a, comesBlind 0 ++ [.launch readGasPrice] <+: heard ∧
        heard ++ [a] <+: actions ∧ (start .default).Hears 2 heard a u (.error .timeout)) ∧
      ∀ old, ((start .default).run (comesBlind 0)).activity? u = some old → old.isOver = false := by
  have hserves : Serves gasPrices .default
      (comesBlind 0 ++ comesBlind 2 ++ timesOut 1 ++ [.step 2]) := by
    intro p hp
    simp only [comesBlind, timesOut, List.mem_append, List.mem_cons, List.not_mem_nil, or_false,
      reduceCtorEq, or_self] at hp
    exact ⟨.dispatch gasPrice, (Action.launch.inj hp).symm⟩
  have hcalm : Calm (comesBlind 0 ++ comesBlind 2 ++ timesOut 1 ++ [.step 2]) := by
    simp [Calm, comesBlind, timesOut]
  exact errors_come_from_own_run hserves (w := .dispatch gasPrice) hcalm
    ⟨_, rfl⟩ rfl rfl rfl

end Client

end EthRpc
