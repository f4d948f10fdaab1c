-- SUMMARY: The programs of a client obey their pledges, so in every run all that is kept and returned is an answer.
import EthRpc.Client
import EthRpc.Proofs.Machine.Obedience
import EthRpc.Proofs.Stage.BlockCache

/-!
# The programs of a client

What a caller of a client wants is done by a program that goes through all of its
stages. Each stage keeps the pledge if the stages below it do, and the endpoint
is at the bottom.
-/

namespace EthRpc.Client

open Machine (Action TaskId)

/-! ## Programs -/

section Program

variable {u : Upstream} {methods : MethodTable} (retry : RetrySettings) {P : Pledge} {r : Request}

/-- What is sent for a pinned request is what it is answered by. -/
theorem pipeline_obeys (q : Request) :
    (Stage.pipeline [.blockRef methods, .retryOnEmpty methods retry, .inspector] q).Obeys
      (u.facts methods) (.only (u.Shares methods q.fingerprint)) := by
  refine Stage.blockRef_obeys methods fun n hn => ?_
  refine Stage.retryOnEmpty_obeys methods retry ?_
  refine Stage.inspector_obeys ?_
  refine .send fun v hv => ?_
  exact ⟨q, n, rfl, hn, hv⟩

theorem program_obeys (hplain : methods.Plain) (hheads : ∀ h, u.reported h → h.number < 1 <<< 64)
    (hkeeps : ∀ key v, u.Keeps methods r key v → P.keeps 0 key v)
    (hreturns : ∀ v, u.Answers methods r v → P.returns v) :
    (program methods retry r).Obeys (u.facts methods) P := by
  refine Stage.blockCache_obeys hheads (fun q => ?_) hkeeps hreturns hplain
  exact Stage.inflight_obeys (pipeline_obeys retry q) fun v hv => hv

/-- The requests that some work may come down to. -/
def Work.Handles : Work → Request → Prop
  | .dispatch q, r => r = q
  | .call method params, r => ∃ n, r = ⟨.number n, method, params⟩
  | .query _, _ => False

/-- Who is at work keeps answers to the requests of the work, and returns one for a response. -/
def Work.pledge (u : Upstream) (methods : MethodTable) (w : Work) : Pledge where
  keeps i key v := i = 0 ∧ ∃ r, w.Handles r ∧ u.Keeps methods r key v
  returns v := ∀ r, w = .dispatch r → u.Answers methods r v

theorem Work.program_obeys (w : Work) (hplain : methods.Plain)
    (hheads : ∀ h, u.reported h → h.number < 1 <<< 64) :
    (w.program (stages methods retry)).Obeys (u.facts methods) (w.pledge u methods) := by
  cases w with
  | dispatch q =>
    refine Client.program_obeys retry hplain hheads ?_ ?_
    · intro key v hkeeps
      exact ⟨rfl, q, rfl, hkeeps⟩
    · intro v hanswers r hr
      cases hr
      exact hanswers
  | call method params =>
    refine ⟨trivial, fun n _ => Client.program_obeys retry hplain hheads ?_ ?_⟩
    · intro key v hkeeps
      exact ⟨rfl, _, ⟨n, rfl⟩, hkeeps⟩
    · intro v _ r hr
      cases hr
  | query q =>
    refine ⟨trivial, ?_⟩
    intro a _ v _ r hr
    cases hr

end Program

/-! ## Runs -/

/-- The cache is there at every moment. -/
theorem exists_cache (s : Settings) (actions : List Action) :
    ∃ cache, ((start s).run actions).caches[0]? = some cache ∧ cache.capacity = s.cacheCapacity :=
  Machine.exists_cache_run rfl 1 actions

variable (methods : MethodTable) (s : Settings) (actions : List Action)

/-- All callers come with work for this client. -/
def Serves : Prop :=
  ∀ p, .launch p ∈ actions → ∃ w : Work, w.program (stages methods s.retry) = p

/-- A task of a run is at this work. -/
def Employs (t : TaskId) (w : Work) : Prop :=
  (start s).Launches actions t (w.program (stages methods s.retry))

/-- What is pledged for a task is what is pledged for the work that it is at. -/
def pledge (u : Upstream) (t : TaskId) : Pledge where
  keeps i key v :=
    (∃ w, Employs methods s actions t w) ∧
      ∀ w, Employs methods s actions t w → (w.pledge u methods).keeps i key v
  returns v := ∀ w, Employs methods s actions t w → (w.pledge u methods).returns v

variable {methods s actions}

/-- In a run of a client, all tasks do as pledged, given what the whole run brings from outside. -/
theorem obedient (hplain : methods.Plain) (hserves : Serves methods s actions) :
    ((start s).run actions).Obedient (((start s).run actions).upstream.facts methods)
      (pledge methods s actions ((start s).run actions).upstream) := by
  refine (Machine.obedient_start _ _ _ _ _).run (Machine.regular_start _ _ _) ?_
    (Machine.covers_self _) ?_
  · rintro t i key v ⟨⟨w, hw⟩, hkeeps⟩
    obtain ⟨-, r, -, hr⟩ := hkeeps w hw
    exact ⟨r, hr⟩
  · intro t p hlaunch
    obtain ⟨w, rfl⟩ := hserves p hlaunch.mem
    have hobeys : ∀ w' : Work,
        w'.program (stages methods s.retry) = w.program (stages methods s.retry) →
        (w.program (stages methods s.retry)).Obeys
          (((start s).run actions).upstream.facts methods)
          (w'.pledge ((start s).run actions).upstream methods) := by
      intro w' hw'
      rw [← hw']
      exact w'.program_obeys s.retry hplain fun h hh => hh.2
    -- Different work may come down to the same program, so the task has pledged for all of it.
    let Same := { w' : Work //
      w'.program (stages methods s.retry) = w.program (stages methods s.retry) }
    have : Nonempty Same := ⟨w, rfl⟩
    have hall := Program.Obeys.all fun w' : Same => hobeys w'.1 w'.2
    refine hall.mono ?_ ?_
    · intro i key v hkeeps
      exact ⟨⟨w, hlaunch⟩, fun w' hw' => hkeeps ⟨w', hw'.unique hlaunch⟩⟩
    · intro v hreturns w' hw'
      exact hreturns ⟨w', hw'.unique hlaunch⟩

end EthRpc.Client
