-- SUMMARY: Answers of head methods are kept and found under the head that was told, and how far they belong to it.
import EthRpc.Proofs.Client.Courses
import EthRpc.Proofs.Machine.SharedRuns

/-!
# Head scope

An answer that holds until the head moves is kept under the head that the caller
was told when it came. A caller that comes after a head was seen is told no lower
one, so it finds nothing that was kept under a lower one, unless the node that it
polls lags behind. What is kept was asked for by a run, and a run that the caller
starts itself asks after the head is known. But the fingerprint of a run does not
name the head: a caller may join a run that has asked before.
-/

namespace EthRpc

namespace Machine

section Deals

variable {m : Machine} {t : TaskId} {now now' : List Action} {ds : List Told} {p' : Program}

/-- Whoever has the outcome of a run keeps no other value. -/
theorem Course.eq_of_keep {spec : MethodSpec} {cache : Nat} {key key' : String} {v w : Json}
    (hc : m.Course t now (if Program.storable spec w
      then .ask (.keep cache key w) fun _ => .done (.ok w) else .done (.ok w)) ds now' p')
    (hkeep : .reply (.keep cache key' v) () ∈ ds) : v = w := by
  let KeepsOnly (c : Command) : Prop := ∀ v, c = .keep cache key' v → v = w
  have hwithin : (if Program.storable spec w
      then Program.ask (.keep cache key w) fun _ => .done (.ok w)
      else .done (.ok w)).Within KeepsOnly fun _ _ _ => True := by
    split
    · exact ⟨fun v hv => by cases hv; rfl, fun _ => trivial⟩
    · trivial
  exact (hc.within hwithin).1 _ hkeep v rfl

/-- Whoever keeps a value got it from the run that it shared after it had looked for the key. -/
theorem Course.outcome_of_keep {spec : MethodSpec} {cache i : Nat} {key key' fingerprint : String}
    {r : Request} {run : Program} {v : Json} {next : Request → Program}
    (hnext : next r = .share i fingerprint run .done)
    (hc : m.Course t now (.cached cache spec key r next) ds now' p')
    (hkeep : .reply (.keep cache key' v) () ∈ ds) :
    ∃ b b' a k p, now <+: b ∧ b' ++ [a] <+: now' ∧
      m.Deals t b b' a (.outcome i fingerprint run (.ok v)) (.share i fingerprint run k) p := by
  cases hc with
  | refl => cases hkeep
  | @step _ b₁ b₁' _ a₁ _ _ _ _ _ hb₁ hd₁ hc₁ =>
    have hlater : now <+: b₁' ++ [a₁] := (hb₁.trans hd₁.isPrefix).trans (List.prefix_append _ _)
    cases hd₁ with
    | @reply _ _ found =>
      replace hkeep := (List.mem_cons.1 hkeep).resolve_left (by rintro ⟨⟩)
      cases found with
      | some w =>
        rw [hc₁.of_done.1] at hkeep
        cases hkeep
      | none =>
        simp only [hnext, Program.andThen, Program.bind] at hc₁
        cases hc₁ with
        | refl => cases hkeep
        | step hb₂ hd₂ hc₂ =>
          obtain ⟨outcome, rfl, rfl⟩ := hd₂.of_share
          replace hkeep := (List.mem_cons.1 hkeep).resolve_left (by rintro ⟨⟩)
          cases outcome with
          | error e =>
            rw [hc₂.of_done.1] at hkeep
            cases hkeep
          | ok w =>
            obtain rfl := hc₂.eq_of_keep hkeep
            exact ⟨_, _, _, _, _, hlater.trans hb₂, hc₂.isPrefix, hd₂⟩

end Deals

end Machine

namespace Client

open Machine (Action TaskId Told)

/-! ## The course of a head method -/

section Course

variable {methods : MethodTable} {retry : RetrySettings} {r : Request}
  (hcache : (methods.spec r.method).cache = .head)

include hcache

/-- A head method asks for the head, and without one it is not cached. -/
theorem program_eq_ask (retry : RetrySettings) : ∃ next : Request → Program,
    next r = .share 0 r.fingerprint (runProgram methods retry r) .done ∧
    program methods retry r = .ask (.query .latest) fun
      | .ok h => .cached 0 (methods.spec r.method) (r.headKey h.number) r next
      | .error _ => next r := by
  refine ⟨fun q => (Stage.inflight methods 0).handle q (runProgram methods retry),
    Stage.inflight_eq_share (by simp [hcache]) 0 _, ?_⟩
  simp only [program, stages, Stage.pipeline, Stage.blockCache, hcache]
  rfl

variable {m : Machine} {t : TaskId} {now now' : List Action} {ds : List Told} {p' : Program}

/-- Whoever uses the cache for a head method has been told a head, and uses the key with it. -/
theorem exists_learns (hc : m.Course t now (program methods retry r) ds now' p') {c : Command}
    {x : c.Reply} (hx : .reply c x ∈ ds) {i : Nat} {key : String} (huses : c.Uses i key) :
    ∃ b b' a h rest next, now <+: b ∧ b' ++ [a] <+: now' ∧ m.Learns t b b' a h ∧
      next r = .share 0 r.fingerprint (runProgram methods retry r) .done ∧
      m.Course t (b' ++ [a]) (.cached 0 (methods.spec r.method) (r.headKey h.number) r next) rest
        now' p' ∧ .reply c x ∈ rest ∧ i = 0 ∧ key = r.headKey h.number := by
  obtain ⟨next, hnext, hprogram⟩ := program_eq_ask hcache retry
  rw [hprogram] at hc
  cases hc with
  | refl => cases hx
  | @step _ b b' _ a d rest _ p'' _ hb hd hrest =>
    obtain ⟨answer, htold, rfl⟩ := hd.of_latest
    rcases List.mem_cons.1 hx with rfl | hx
    · cases huses <;> cases htold
    have hshare (C : Command → Prop) : (next r).Within C fun _ _ _ => True := by
      rw [hnext]
      exact ⟨trivial, fun _ => trivial⟩
    cases answer with
    | error e => exact ((hrest.within (hshare fun _ => False)).1 _ hx).elim
    | ok h =>
      have hwithin : (Program.cached 0 (methods.spec r.method) (r.headKey h.number) r next).Within
          (Command.KeepsTo 0 (r.headKey h.number)) fun _ _ _ => True :=
        Program.cached_builtOn.within (fun _ huse => huse.keepsTo) (by rintro _ rfl; exact hshare _)
      obtain ⟨hi, hkey⟩ := (hrest.within hwithin).1 _ hx _ _ huses
      have hlearns : m.Learns t b b' a h := ⟨d, _, _, hd, htold⟩
      exact ⟨b, b', a, h, rest, next, hb, hrest.isPrefix, hlearns, hnext, hrest, hx, hi, hkey⟩

end Course

/-- The same goes for work that comes down to a request of a head method. -/
theorem Work.Handles.exists_learns {methods : MethodTable} {retry : RetrySettings} {m : Machine}
    {t : TaskId} {now now' : List Action} {ds : List Told} {p' : Program} {w : Work} {r : Request}
    (hr : w.Handles r) (hcache : (methods.spec r.method).cache = .head)
    (hc : m.Course t now (w.program (stages methods retry)) ds now' p') {c : Command} {x : c.Reply}
    (hx : .reply c x ∈ ds) {i : Nat} {key : String} (huses : c.Uses i key) :
    ∃ r' b b' a h rest next, now <+: b ∧ b' ++ [a] <+: now' ∧ m.Learns t b b' a h ∧
      next r' = .share 0 r'.fingerprint (runProgram methods retry r') .done ∧
      m.Course t (b' ++ [a]) (.cached 0 (methods.spec r'.method) key r' next) rest now' p' ∧
      .reply c x ∈ rest ∧ i = 0 ∧ key = r.headKey h.number := by
  obtain ⟨ids, rest, rfl, hids, hrest⟩ := hr.exists_course hc
  have hmem : .reply c x ∈ rest := by
    rcases List.mem_append.1 hx with hx | hx
    · obtain ⟨n, hn⟩ := hids _ hx
      cases huses <;> cases hn
    · exact hx
  rcases hrest with ⟨rfl, -⟩ | ⟨r', now₁, hr', hlater, hc'⟩
  · cases hmem
  -- The request has an id of the client's, which no key depends on.
  obtain ⟨hmethod, hparams⟩ := hr.alike hr'
  rw [hmethod] at hcache
  obtain ⟨b, b', a, h, rest', next, hb, hb', hlearns, hnext, hcached, hmem', rfl, rfl⟩ :=
    Client.exists_learns hcache hc' hmem huses
  have hkey : r'.headKey h.number = r.headKey h.number := by
    simp only [Request.headKey, Request.fingerprint_congr hmethod hparams]
  exact ⟨r', b, b', a, h, rest', next, hlater.trans hb, hb', hlearns, hnext, hcached, hmem', rfl,
    hkey⟩

/-- Whoever comes after a head was reported finds in the cache nothing that was kept under a lower
one, unless a poll of its own lagged. -/
theorem recalled_at_reported_head {methods : MethodTable} {s : Settings}
    {before actions : List Action} {t : TaskId} {w : Work} {r : Request} {h₀ : BlockHead} {i : Nat}
    {key : String} {v : Json} (hh₀ : ((start s).run before).Reported h₀)
    (hb : before ++ [.launch (w.program (stages methods s.retry))] <+: actions)
    (ht : ((start s).run before).tasks.size = t) (hr : w.Handles r)
    (hcache : (methods.spec r.method).cache = .head)
    (hrecalled : ((start s).run actions).Recalled t i key v) :
    ∃ n, key = r.headKey n ∧ (∀ (q : Request) n', key = q.headKey n' → n' = n) ∧
      (h₀.number ≤ n ∨
        ∃ now h, now <+: actions ∧ ((start s).run now).Lags t h ∧ h.number = n) := by
  have hborn : (start s).Born t before (.launch (w.program (stages methods s.retry)))
      (w.program (stages methods s.retry)) := ⟨ht, _, rfl⟩
  obtain ⟨ds, now, p, old, under, hcame⟩ := exists_came hborn hb
  obtain ⟨r', b, b', a, h, -, -, hb₁, hb₂, hlearns, -, -, -, rfl, rfl⟩ :=
    hr.exists_learns hcache hcame.course (hcame.told_of_recalled hrecalled) .lookup
  refine ⟨h.number, rfl, fun q n' hn => (Request.eq_of_headKey_eq hn).1.symm, ?_⟩
  have hbefore : before <+: b := (List.prefix_append _ _).trans hb₁
  rcases hlearns.le_of_knows (hh₀.knows.of_isPrefix hbefore) with hle | hlags
  · exact .inl hle
  · exact .inr ⟨b', h, (List.prefix_append _ _).trans (hb₂.trans hcame.isPrefix), hlags, rfl⟩

/-! ### A price that holds for a head -/

def gasPrice : Request := ⟨.number 7, "eth_gasPrice", []⟩

def gasPrices : MethodTable := [("eth_gasPrice", { cache := .head })]

def readGasPrice : Program := (Work.dispatch gasPrice).program (stages gasPrices .default)

/-- A caller comes for the price when the head has become stale, polls a head and looks into the
cache under its number. -/
def looksUp (t : TaskId) (n : Nat) : List Action :=
  [.pass (.ofSeconds 20), .launch readGasPrice, .step t, .step t,
    .answer t (.ok (BlockHead.toJson ⟨n, .ofNat n⟩)), .step t, .step t]

/-- A caller that found nothing starts a run, which asks for the price. -/
def asks (t run : TaskId) : List Action := [.step t, .step run]

/-- A run is told the price, and a caller that waited for it keeps it. -/
def keeps (t run : TaskId) : List Action :=
  [.answer run (.ok (.string "0xa")), .step run, .step t]

/-- The price that was kept under a head is found under the same head. -/
theorem recalled_at_reported_head_of_same :
    ∃ n, gasPrice.headKey 100 = gasPrice.headKey n ∧
      (∀ (q : Request) n', gasPrice.headKey 100 = q.headKey n' → n' = n) ∧
      (100 ≤ n ∨ ∃ now h, now <+: looksUp 0 100 ++ asks 0 1 ++ keeps 0 1 ++ looksUp 2 100 ∧
        ((start .default).run now).Lags 2 h ∧ h.number = n) := by
  have hreported : ((start .default).run (looksUp 0 100 ++ asks 0 1 ++ keeps 0 1 ++
      [.pass (.ofSeconds 20)])).Reported ⟨100, .ofNat 100⟩ :=
    ⟨_, 0, List.mem_of_getElem? (i := 4) rfl⟩
  have hrecalled : ((start .default).run (looksUp 0 100 ++ asks 0 1 ++ keeps 0 1 ++
      looksUp 2 100)).Recalled 2 0 (gasPrice.headKey 100) (.string "0xa") :=
    ⟨_, List.mem_of_mem_head? rfl⟩
  exact @recalled_at_reported_head gasPrices .default _ _ 2 (.dispatch gasPrice) gasPrice _ _ _ _
    hreported ⟨_, rfl⟩ rfl rfl rfl hrecalled

/-- The third caller polls a node that lags behind, and finds what was kept under the head before
the one that the second caller was told. -/
theorem recalled_of_superseded :
    let earlier := looksUp 0 99 ++ asks 0 1 ++ keeps 0 1 ++ looksUp 2 100
    ((start .default).run earlier).Reported ⟨100, .ofNat 100⟩ ∧
      ((start .default).run earlier).tasks.size = 3 ∧
      ((start .default).run (earlier ++ looksUp 3 99)).Recalled 3 0 (gasPrice.headKey 99)
        (.string "0xa") := by
  intro earlier
  set_option maxRecDepth 2000 in
  exact ⟨⟨_, 2, List.mem_of_mem_head? rfl⟩, rfl, ⟨_, List.mem_of_mem_head? rfl⟩⟩

/-! ## What is kept for a head -/

/-- What a head method keeps for a head it has heard from a run that it was the answer to a call of.
The call was sent when the head, or a higher one, had been reported, unless the task joined the run
when the call had been sent before. -/
theorem stored_by_call_at_head {methods : MethodTable} {s : Settings} {actions : List Action}
    {t : TaskId} {w : Work} {r : Request} {i : Nat} {key : String} {v : Json}
    (hserves : Serves methods s actions) (ht : Employs methods s actions t w) (hr : w.Handles r)
    (hcache : (methods.spec r.method).cache = .head)
    (hstored : ((start s).run actions).Stored t i key v) :
    ∃ n, key = r.headKey n ∧ (∀ (q : Request) n', key = q.headKey n' → n' = n) ∧
      ∃ u q b b' heard a, heard ++ [a] <+: actions ∧ (start s).Hears t heard a u (.ok v) ∧
        (start s).Calls u b b' q (.ok v) ∧ b' ++ [.answer u (.ok v)] <+: heard ∧
        ((∃ h, ((start s).run b).Reported h ∧ n ≤ h.number) ∨
          ∃ joining, b <+: joining ∧ joining <+: heard ∧ (start s).Joins t joining u) := by
  obtain ⟨b₀, hb₀, hborn⟩ := ht.born
  obtain ⟨ds, now, p, old, under, hcame⟩ := exists_came hborn hb₀
  obtain ⟨r', b₁, b₁', a₁, h, rest, next, -, -, hlearns, hnext, hcached, hkept, rfl, rfl⟩ :=
    hr.exists_learns hcache hcame.course (hcame.told_of_stored hstored) .keep
  refine ⟨h.number, rfl, fun q n' hn => (Request.eq_of_headKey_eq hn).1.symm, ?_⟩
  obtain ⟨sharing, heard, a, k, p₂, hsharing, hheard, hdeals⟩ :=
    hcached.outcome_of_keep hnext hkept
  have hreported : ∀ b, sharing <+: b →
      ∃ head, ((start s).run b).Reported head ∧ h.number ≤ head.number := by
    intro b hb
    obtain ⟨head, hhead, hle⟩ := hlearns.knows.of_isPrefix (hsharing.trans hb)
    exact ⟨head, Machine.reported_of_head? hhead, hle⟩
  obtain ⟨u, hhears, hlater, hfrom⟩ := hdeals.exists_hears
  have hshared : sharing <+: heard := (List.prefix_append _ _).trans hlater
  have hend : heard ++ [a] <+: actions := hheard.trans hcame.isPrefix
  rcases hfrom with hjoins | hborn'
  · obtain ⟨i, key, run, k', e, hold, he, rfl⟩ := hjoins
    have hwithin : sharing <+: actions :=
      hshared.trans ((List.prefix_append _ _).trans hend)
    obtain ⟨leader, b₂, q, hb₂, -, -, hborn'⟩ := exists_born_of_sharedRun hserves hwithin he
    obtain ⟨q', b, b', hcall, -, hanswered⟩ :=
      exists_calls_of_hears hborn' (hb₂.trans hshared) hhears
    refine ⟨_, q', b, b', heard, a, hend, hhears, hcall, hanswered, ?_⟩
    -- The run may be older than the head that the task was told.
    have hsent : b <+: heard := hcall.isPrefix.trans ((List.prefix_append _ _).trans hanswered)
    rcases List.prefix_or_prefix_of_prefix hsent hshared with hbefore | hafter
    · exact .inr ⟨sharing, hbefore, hshared, i, key, run, k', e, hold, he, rfl⟩
    · exact .inl (hreported b hafter)
  · obtain ⟨q', b, b', hcall, hafter, hanswered⟩ := exists_calls_of_hears hborn' hlater hhears
    have hsent : sharing <+: b := (List.prefix_append _ _).trans hafter
    exact ⟨u, q', b, b', heard, a, hend, hhears, hcall, hanswered, .inl (hreported b hsent)⟩

/-- The price that a caller keeps who started the run for it. -/
theorem stored_by_call_at_head_of_leader :
    let actions := looksUp 0 100 ++ asks 0 1 ++ keeps 0 1
    ∃ n, gasPrice.headKey 100 = gasPrice.headKey n ∧
      (∀ (q : Request) n', gasPrice.headKey 100 = q.headKey n' → n' = n) ∧
      ∃ u q b b' heard a, heard ++ [a] <+: actions ∧
        (start .default).Hears 0 heard a u (.ok (.string "0xa")) ∧
        (start .default).Calls u b b' q (.ok (.string "0xa")) ∧
        b' ++ [.answer u (.ok (.string "0xa"))] <+: heard ∧
        ((∃ h, ((start .default).run b).Reported h ∧ n ≤ h.number) ∨
          ∃ joining, b <+: joining ∧ joining <+: heard ∧ (start .default).Joins 0 joining u) := by
  have hserves : Serves gasPrices .default (looksUp 0 100 ++ asks 0 1 ++ keeps 0 1) := by
    intro p hp
    simp only [looksUp, asks, keeps, List.mem_append, List.mem_cons, List.not_mem_nil, or_false,
      reduceCtorEq, false_or] at hp
    exact ⟨.dispatch gasPrice, (Action.launch.inj hp).symm⟩
  have hstored : ((start .default).run (looksUp 0 100 ++ asks 0 1 ++ keeps 0 1)).Stored 0 0
      (gasPrice.headKey 100) (.string "0xa") := ⟨_, List.mem_of_mem_head? rfl⟩
  exact stored_by_call_at_head hserves (w := .dispatch gasPrice)
    ⟨[.pass (.ofSeconds 20)], _, rfl, rfl⟩ rfl rfl hstored

/-- The second caller is told a new head and joins the run that the first one started for the old
head, and nothing is asked after that; what the run is told is kept under the new head. -/
theorem stored_of_joined :
    let asked := looksUp 0 100 ++ asks 0 1
    let m := (start .default).run (asked ++ looksUp 2 101 ++ .step 2 :: keeps 2 1)
    m.Stored 2 0 (gasPrice.headKey 101) (.string "0xa") ∧
      m.requests = ((start .default).run asked).requests ∧
      ((start .default).run asked).tracker.head? = some ⟨100, .ofNat 100⟩ := by
  intro asked m
  set_option maxRecDepth 2000 in
  exact ⟨⟨_, List.mem_of_mem_head? rfl⟩, rfl, rfl⟩

end Client

end EthRpc
