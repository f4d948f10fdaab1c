-- SUMMARY: A request is answered from the cache as long as fewer other keys were used since its own than there is room for.
import EthRpc.Proofs.Client.CacheContents
import EthRpc.Proofs.Client.Overlap
import EthRpc.Proofs.Client.Passing
import EthRpc.Proofs.Machine.Recency

/-!
# Replay

A request whose key was used not long ago returns the value that was kept or
found there, and nothing is asked of the endpoint but the head, if the key
depends on it: the key of a head method always does, and that of a block method
if it asks for the latest block. A cache without room holds nothing, and all
that look into it go on to the stages below.
-/

namespace EthRpc

namespace Machine

/-- The request that an event tells of, with a mark whether it is a poll. -/
def Event.sent? : Event → Option (Bool × Request)
  | sent _ poll q => some (poll, q)
  | _ => none

/-- All that a task has sent to the endpoint, in order. -/
def sends (m : Machine) (t : TaskId) : List (Bool × Request) := (m.trace t).filterMap Event.sent?

section Consults

variable {m : Machine} {t : TaskId} {now now' : List Action} {ds : List Told} {p p' : Program}
  {S : Nat → String → Program → Prop} {n i : Nat} {key : String} {k : Option Json → Program}

/-- Who gives a command goes on with a reply to it, or with what its own poll brought. -/
theorem Deals.of_ask {c : Command} {f : c.Reply → Program} {b b' : List Action} {a : Action}
    {d : Told} (h : m.Deals t b b' a d (.ask c f) p') :
    ∃ x, p' = f x ∧ (d = .reply c x ∨ ∃ q poll r, c = .query q ∧ d = .report q poll r) := by
  cases h with
  | report => exact ⟨_, rfl, .inr ⟨_, _, _, rfl, rfl⟩⟩
  | _ => exact ⟨_, rfl, .inl rfl⟩

/-- Until a task looks for its key, it has sent no more than a poll for each question for the
head. -/
theorem Course.sends_of_lookup (h : m.Course t now p ds now' p') (hp : p.Consults S n)
    (hlookup : p' = .ask (.lookup i key) k) :
    ∃ polls : List Request, polls.length ≤ n ∧
      (ds.flatMap (·.events t)).filterMap Event.sent? = polls.map (true, ·) := by
  induction h generalizing n with
  | refl => exact ⟨[], Nat.zero_le _, rfl⟩
  | @step _ _ _ _ _ d ds p p₁ _ _ hd hrest ih =>
    have hlate : ¬p₁.Late := by
      intro hlate
      have hend := hrest.keeps (fun _ _ => Program.Late.of_goes) hlate
      rw [hlookup] at hend
      exact hend.not_lookup
    rw [List.flatMap_cons, List.filterMap_append]
    cases hp with
    | asksId hk =>
      obtain ⟨n, rfl, rfl | ⟨q, poll, r, hq, -⟩⟩ := hd.of_ask
      · exact ih (hk n) hlookup
      · cases hq
    | asksHead hk =>
      obtain ⟨head, rfl, htold⟩ := hd.of_ask
      obtain ⟨polls, hle, hpolls⟩ := ih (hk head) hlookup
      rw [hpolls]
      rcases htold with rfl | ⟨q, poll, r, -, rfl⟩
      · exact ⟨polls, Nat.le_succ_of_le hle, rfl⟩
      · exact ⟨poll :: polls, Nat.succ_le_succ hle, rfl⟩
    | looks hfound _ hmissing =>
      obtain ⟨found, rfl, -⟩ := hd.of_ask
      cases found with
      | some v =>
        rw [hfound v] at hlate
        exact absurd (.concludes (.returns : Program.Concludes "" _ _)) hlate
      | none => exact absurd hmissing hlate
    | late hp => exact absurd (hp.of_goes hd.goes) hlate

end Consults

section Done

variable {m : Machine} {t : TaskId} {b c : List Action} {r : Outcome}

/-- Who is done is at work on nothing else from then on. -/
theorem eq_done_of_running {p : Program} (h : (m.run b).activity? t = some (.running (.done r)))
    (hbc : b <+: c) (hp : (m.run c).activity? t = some (.running p)) : p = .done r := by
  obtain ⟨ds, now, q, old, under, hfollows⟩ := exists_follows h hbc
  obtain ⟨rfl, -⟩ := hfollows.of_running hp
  exact hfollows.course.of_done.2

/-- Who is done sends nothing more. -/
theorem sends_of_done (h : (m.run b).activity? t = some (.running (.done r))) (hbc : b <+: c) :
    (m.run c).sends t = (m.run b).sends t := by
  obtain ⟨ds, now, q, old, under, hfollows⟩ := exists_follows h hbc
  obtain ⟨rfl, rfl⟩ := hfollows.course.of_done
  have hunder := hfollows.stands.underway
  rw [sends, hfollows.trace, List.filterMap_append]
  cases hunder <;> simp [sends, Event.sent?]

end Done

end Machine

namespace Client

open Machine (Action TaskId)

/-! ## Programs -/

/-- The key of a request does not depend on the head. -/
def HeadFree (methods : MethodTable) (r : Request) : Prop :=
  (methods.spec r.method).cache = .permanent ∨
    (methods.spec r.method).cache = .block ∧ ∃ index,
      (methods.spec r.method).blockParam = some index ∧
      (r.FixesBlock index ∨
        ∃ p, r.param? index = some p ∧ BlockRef.ofJson? p = some (.tag .earliest))

section Program

variable {methods : MethodTable} {r : Request}

/-- To look for the block of a request, the head is asked for at most, and not even that if the
request names its block. -/
theorem normalizing_consults {S : Nat → String → Program → Prop} {k : Normalized → Program}
    (hcache : (methods.spec r.method).cache = .block)
    (hk : ∀ a n, (k (.resolved (methods.spec r.method) r a)).Consults S n) :
    (Program.normalizing (methods.spec r.method) r k).Consults S 1 ∧
      (HeadFree methods r → (Program.normalizing (methods.spec r.method) r k).Consults S 0) := by
  rw [Normalized.normalizing_eq (a := .error .timeout)]
  split
  next hlatest =>
    refine ⟨.asksHead fun a => hk a 0, ?_⟩
    rintro (hfree | ⟨-, index, hindex, ⟨p, hp, ⟨n, hr⟩ | ⟨h, hr⟩⟩ | ⟨p, hp, hr⟩⟩)
    · simp [hcache] at hfree
    all_goals
      rw [BlockParam.classify_of_param hindex hp hr] at hlatest
      cases hlatest
  next => exact ⟨hk _ 1, fun _ => hk _ 0⟩

/-- A request is read through the cache after a question for the head at most, and without one if
its key does not depend on the head. -/
theorem program_consults (retry : RetrySettings) (hcache : (methods.spec r.method).cache ≠ .never) :
    (program methods retry r).Consults (Shares methods retry) 1 ∧
      (HeadFree methods r → (program methods retry r).Consults (Shares methods retry) 0) := by
  have hshares {q : Request} (hq : q.method = r.method) :
      (Stage.inflight methods 0).handle q (runProgram methods retry) =
        .share 0 q.fingerprint (runProgram methods retry q) .done :=
    Stage.inflight_eq_share (by rwa [hq]) 0 _
  have hcached {q : Request} (hq : q.method = r.method) (key : String) (n : Nat) :
      (Program.cached 0 (methods.spec r.method) key q fun q =>
        (Stage.inflight methods 0).handle q (runProgram methods retry)).Consults
          (Shares methods retry) n :=
    Program.cached_consults (hshares hq) ⟨rfl, q, rfl, rfl⟩
  have hpasses {q : Request} (hq : q.method = r.method) (n : Nat) :
      ((Stage.inflight methods 0).handle q (runProgram methods retry)).Consults
        (Shares methods retry) n := by
    rw [hshares hq]
    exact .late (.shares fun r => ⟨"", .returns⟩)
  have hpipeline : program methods retry r = (Stage.blockCache methods 0).handle r fun q =>
    (Stage.inflight methods 0).handle q (runProgram methods retry) := rfl
  rw [hpipeline]
  cases hc : (methods.spec r.method).cache with
  | never => exact absurd hc hcache
  | permanent =>
    simp only [Stage.blockCache, hc]
    exact ⟨hcached rfl _ _, fun _ => hcached rfl _ _⟩
  | head =>
    simp only [Stage.blockCache, hc]
    refine ⟨.asksHead fun a => ?_, ?_⟩
    · cases a with
      | ok h => exact hcached rfl _ _
      | error e => exact hpasses rfl _
    · rintro (hfree | ⟨hfree, -⟩) <;> simp [hc] at hfree
  | block =>
    simp only [Stage.blockCache, hc]
    refine normalizing_consults hc fun a n => ?_
    have hmethod := Normalized.method_of_normalizes
      (Normalized.normalizes_resolved (methods.spec r.method) r a)
    split
    · exact hcached hmethod _ _
    · exact hcached hmethod _ _
    · exact hpasses hmethod _

theorem Work.Handles.consults {w : Work} (hr : w.Handles r) (retry : RetrySettings)
    (hcache : (methods.spec r.method).cache ≠ .never) :
    (w.program (stages methods retry)).Consults (Shares methods retry) 1 ∧
      (HeadFree methods r →
        (w.program (stages methods retry)).Consults (Shares methods retry) 0) := by
  cases w with
  | dispatch q =>
    obtain rfl : r = q := hr
    exact program_consults retry hcache
  | call method params =>
    obtain ⟨n, rfl⟩ := hr
    have hconsults (n : Nat) := program_consults (r := ⟨.number n, method, params⟩) retry hcache
    exact ⟨.asksId fun n => (hconsults n).1, fun hfree => .asksId fun n => (hconsults n).2 hfree⟩
  | query q => cases hr

end Program

/-! ## Replays -/

variable {methods : MethodTable} {s : Settings} {actions looked : List Action} {t : TaskId}
  {r : Request} {key : String} {v : Json}

/-- In a run of a client, a task that is at work on a request is about to look for a key in the
cache. -/
structure Seeks (methods : MethodTable) (s : Settings) (actions looked : List Action) (t : TaskId)
    (r : Request) (key : String) : Prop where
  employs : ∃ w, Employs methods s actions t w ∧ w.Handles r
  looks : looked ++ [.step t] <+: actions
  looking : ∃ k, ((start s).run looked).activity? t = some (.running (.ask (.lookup 0 key) k))

/-- A task returns a value that came out of the cache. It starts no run and sends nothing but a
poll, and not even that if the key does not depend on the head. -/
structure Replays (methods : MethodTable) (s : Settings) (actions : List Action) (t : TaskId)
    (r : Request) (key : String) (v : Json) : Prop where
  answered : ((start s).run actions).Answered t (.ok v)
  recalled : ((start s).run actions).Recalled t 0 key v
  leads : ∀ u, ((start s).run actions).leader? u ≠ some t
  sends : ((start s).run actions).sends t = [] ∨
    ∃ poll, ((start s).run actions).sends t = [(true, poll)]
  headFree : HeadFree methods r → ((start s).run actions).sends t = []

theorem cachesRecorded (s : Settings) (actions : List Action) :
    ((start s).run actions).CachesRecorded :=
  (Machine.cachesRecorded_start _ _ _).run actions

namespace Seeks

variable (h : Seeks methods s actions looked t r key)

include h

/-- A request that looks into the cache is one to a method that may be cached. -/
theorem cache_ne_never : (methods.spec r.method).cache ≠ .never := by
  obtain ⟨w, ht, hr⟩ := h.employs
  obtain ⟨k, hlooking⟩ := h.looking
  intro hnever
  have hprogram {q : Request} (hq : (methods.spec q.method).cache = .never) :
      (program methods s.retry q).Within (∀ i key, · ≠ .lookup i key) fun _ _ _ => True := by
    rw [program_of_never s.retry hq]
    refine (runProgram_within q).mono (fun c hc i key hlookup => ?_) fun _ _ _ => id
    subst hlookup
    rcases hc with hc | ⟨q, hc⟩ <;> cases hc
  have hwork : (w.program (stages methods s.retry)).Within (∀ i key, · ≠ .lookup i key)
      fun _ _ _ => True := by
    cases w with
    | dispatch q =>
      obtain rfl : r = q := hr
      exact hprogram hnever
    | call method params =>
      obtain ⟨n, rfl⟩ := hr
      exact ⟨nofun, fun _ => hprogram hnever⟩
    | query q => cases hr
  have hnow : looked <+: actions := (List.prefix_append _ _).trans h.looks
  have hlookup := ht.keeps (fun _ _ => Program.Within.of_goes) hwork hnow hlooking
  exact hlookup.1 0 key rfl

/-- Whatever the task is running, it is within the bounds of a read. -/
theorem consults {now : List Action} {p : Program} (hnow : now <+: actions)
    (hp : ((start s).run now).activity? t = some (.running p)) :
    ∃ n, p.Consults (Shares methods s.retry) n := by
  obtain ⟨w, ht, hr⟩ := h.employs
  exact ht.keeps (fun _ _ => Program.Consults.of_goes) ⟨1, (hr.consults s.retry h.cache_ne_never).1⟩ hnow hp

theorem isPrefix : looked <+: actions := (List.prefix_append _ _).trans h.looks

/-- The task goes on with what it finds. -/
theorem exists_found : ∃ k found, ((start s).run looked).Replies (.lookup 0 key) found ∧
    ((start s).run looked).activity? t = some (.running (.ask (.lookup 0 key) k)) ∧
    ((start s).run (looked ++ [.step t])).activity? t = some (.running (k found)) := by
  obtain ⟨k, hlooking⟩ := h.looking
  obtain ⟨-, new, hnew, hadvances⟩ := Machine.advancesTo_advance hlooking rfl
  rw [Machine.run_concat]
  cases hadvances with
  | reply hreply => exact ⟨k, _, hreply, hlooking, hnew⟩
  | learn hl _ | poll hl _ | give hl => cases hl

/-- Until its lookup, the task has polled for a key that depends on the head and sent nothing
else. -/
theorem exists_polls : ∃ polls : List Request, polls.length ≤ 1 ∧
    (HeadFree methods r → polls = []) ∧
    ((start s).run looked).sends t = polls.map (true, ·) := by
  obtain ⟨w, ht, hr⟩ := h.employs
  obtain ⟨k, hlooking⟩ := h.looking
  obtain ⟨b, hb, hborn⟩ :=
    (ht.of_isPrefix h.isPrefix (Machine.lt_size_of_activity? hlooking)).born
  obtain ⟨ds, now, q, old, under, hcame⟩ := exists_came hborn hb
  obtain ⟨rfl, rfl⟩ := hcame.of_running hlooking
  obtain ⟨hone, hzero⟩ := hr.consults s.retry h.cache_ne_never
  rw [Machine.sends, hcame.trace, List.append_nil]
  by_cases hfree : HeadFree methods r
  · obtain ⟨polls, hle, hpolls⟩ := hcame.course.sends_of_lookup (hzero hfree) rfl
    exact ⟨polls, Nat.le_succ_of_le hle, fun _ => List.length_eq_zero_iff.1 (Nat.le_zero.1 hle),
      hpolls⟩
  · obtain ⟨polls, hle, hpolls⟩ := hcame.course.sends_of_lookup hone rfl
    exact ⟨polls, hle, fun h => absurd h hfree, hpolls⟩

/-- A value that the cache has under the key is returned. -/
theorem replays (hholds : ((start s).run looked).Holds 0 key v) :
    Replays methods s actions t r key v := by
  obtain ⟨k, found, hreply, hlooking, hgoes⟩ := h.exists_found
  obtain ⟨n, hconsults⟩ := h.consults h.isPrefix hlooking
  obtain rfl : found = some v := hreply.holds_iff.1 hholds
  rw [hconsults.of_lookup.2.1 v] at hgoes
  obtain ⟨polls, hle, hfree, hpolls⟩ := h.exists_polls
  have htraced := Machine.traced_of_replies hlooking hreply
  have hsends : ((start s).run actions).sends t = polls.map (true, ·) := by
    rw [Machine.sends_of_done hgoes h.looks, Machine.sends, Machine.run_concat, Machine.trace_act,
      htraced, List.filterMap_append, ← hpolls]
    exact List.append_nil _
  constructor
  case answered =>
    obtain ⟨new, hnew, hreturns⟩ := Machine.Activity.Returns.done.run hgoes h.looks
    exact hreturns.answered hnew
  case recalled =>
    have hmem : .recalled t 0 key v ∈ ((start s).run (looked ++ [.step t])).trace t := by
      rw [Machine.run_concat, Machine.trace_act, htraced]
      exact List.mem_append_right _ List.mem_cons_self
    obtain ⟨-, time, hlog⟩ := Machine.mem_trace_iff.1 hmem
    obtain ⟨rest, rfl⟩ := h.looks
    rw [Machine.run_append]
    exact ⟨time, (Machine.log_suffix_run _ rest).subset hlog⟩
  case leads =>
    intro u hlead
    obtain ⟨i, key', hrole⟩ := Machine.leader?_eq_some_iff.1 hlead
    obtain ⟨b, run, f, hb, -, hleads⟩ := Machine.exists_leads_of_role hrole
    have hbefore : b <+: actions := (List.prefix_append _ _).trans hb
    rcases Machine.prefix_or_behind h.looks hbefore with hearly | hbehind
    · -- Who has shared a run does not look for a key any more.
      obtain ⟨n, hshare⟩ := h.consults hbefore hleads.activity
      exact (Machine.keeps_of_running hleads.activity hearly hlooking
        (fun _ _ => Program.Late.of_goes) hshare.late_of_share).not_lookup
    · cases Machine.eq_done_of_running hgoes hbehind hleads.activity
  case sends =>
    rw [hsends]
    match polls, hle with
    | [], _ => exact .inl rfl
    | [poll], _ => exact .inr ⟨poll, rfl⟩
  case headFree =>
    intro hkey
    rw [hsends, hfree hkey]
    rfl

end Seeks

/-- A request whose key was used last with a value returns this value, as long as the cache has
room for more keys than were used since. -/
theorem replay_last_used (s : Settings) :
    (∀ {methods actions looked t r key v}, Seeks methods s actions looked t r key →
      ((start s).run looked).LastUsed 0 key v s.cacheCapacity →
        Replays methods s actions t r key v) ∧
    (s.cacheCapacity = 0 →
      (∀ now, ∃ cache, ((start s).run now).caches[0]? = some cache ∧ cache.entries = []) ∧
      ∀ {methods actions looked t r key}, Seeks methods s actions looked t r key →
        ∃ q f, ((start s).run (looked ++ [.step t])).activity? t =
          some (.running (.share 0 q.fingerprint (runProgram methods s.retry q) f))) := by
  refine ⟨?full, fun hzero => ?none⟩
  case full =>
    intro methods actions looked t r key v h hused
    obtain ⟨cache, hcache, hcapacity⟩ := exists_cache s looked
    rw [← hcapacity] at hused
    exact h.replays ((cachesRecorded s looked).holds hcache hused)
  case none =>
    have hempty (now : List Action) :
        ∃ cache, ((start s).run now).caches[0]? = some cache ∧ cache.entries = [] := by
      obtain ⟨cache, hcache, hcapacity⟩ := exists_cache s now
      refine ⟨cache, hcache, ?_⟩
      rw [(cachesRecorded s now 0 cache hcache).entries, hcapacity, hzero, List.take_zero]
    refine ⟨hempty, ?_⟩
    intro methods actions looked t r key h
    obtain ⟨k, found, hreply, hlooking, hgoes⟩ := h.exists_found
    obtain ⟨n, hconsults⟩ := h.consults h.isPrefix hlooking
    have hmissed : found = none := by
      refine Option.eq_none_iff_forall_ne_some.2 fun v hfound => ?_
      obtain ⟨cache, hcache, hpeek⟩ := Machine.holds_iff.1 (hreply.holds_iff.2 hfound)
      obtain ⟨cache', hcache', hnone⟩ := hempty looked
      rw [hcache] at hcache'
      cases hcache'
      rw [Lru.peek?, hnone] at hpeek
      cases hpeek
    obtain ⟨-, -, ⟨key', run, f, hshare, -, q, rfl, rfl⟩, -⟩ := hconsults.of_lookup
    rw [hmissed, hshare] at hgoes
    exact ⟨q, f, hgoes⟩

/-! ### Replays in two tables -/

/-- A caller asks for the identity of the chain and keeps it, and then another one comes. -/
def readsAgain : List Action :=
  [.launch readChainId, .step 0, .step 0, .step 1, .answer 1 (.ok (.string "0x1")), .step 1,
    .step 0, .step 0, .launch readChainId, .step 2, .step 2]

/-- The second caller is told what the first one has kept. -/
theorem replay_last_used_of_readsAgain :
    Replays chainIds .default readsAgain 2 chainId "eth_chainId:[]" (.string "0x1") := by
  have hseeks : Seeks chainIds .default readsAgain (readsAgain.take 9) 2 chainId
      "eth_chainId:[]" :=
    ⟨⟨.dispatch chainId, ⟨readsAgain.take 8, _, rfl, rfl⟩, rfl⟩, ⟨[.step 2], rfl⟩, _, rfl⟩
  refine (replay_last_used .default).1 hseeks ⟨⟨[], _, [], rfl, rfl, rfl, nofun⟩, ?_⟩
  decide

/-- A table in which the price holds for a head, although it is that of a block. -/
def pricesAtBlock : MethodTable := [("x_price", { cache := .head, blockParam := some 0 })]

def priceAt (id : Nat) : Request := ⟨.number id, "x_price", [.string "0x10"]⟩

def readPriceAt (id : Nat) : Program :=
  (Work.dispatch (priceAt id)).program (stages pricesAtBlock .default)

/-- A caller asks for the price at a block and keeps it, and another one comes for it when the head
has become stale. -/
def readsPriceAgain : List Action :=
  [.launch (readPriceAt 1), .step 0, .step 0, .answer 0 (.ok (BlockHead.toJson ⟨100, .ofNat 100⟩)),
    .step 0, .step 0, .step 0, .step 1, .answer 1 (.ok (.string "0xa")), .step 1, .step 0, .step 0,
    .pass (.ofSeconds 20), .launch (readPriceAt 2), .step 2, .step 2,
    .answer 2 (.ok (BlockHead.toJson ⟨100, .ofNat 100⟩)), .step 2, .step 2, .step 2]

/-- The request names its block by a number and is answered from the cache, but it has polled the
head first, as the key of every head method needs it. -/
theorem polls_of_readsPriceAgain :
    let m := (start .default).run readsPriceAgain
    Seeks pricesAtBlock .default readsPriceAgain (readsPriceAgain.take 18) 2 (priceAt 2)
        ((priceAt 2).headKey 100) ∧
      ((start .default).run (readsPriceAgain.take 18)).LastUsed 0 ((priceAt 2).headKey 100)
        (.string "0xa") Settings.default.cacheCapacity ∧
      (priceAt 2).FixesBlock 0 ∧
      m.activity? 2 = some (.finished (.ok (.string "0xa"))) ∧
      ∃ poll, m.sends 2 = [(true, poll)] := by
  have hseeks : Seeks pricesAtBlock .default readsPriceAgain (readsPriceAgain.take 18) 2 (priceAt 2)
      ((priceAt 2).headKey 100) := by
    set_option maxRecDepth 2000 in
    exact ⟨⟨.dispatch (priceAt 2), ⟨readsPriceAgain.take 13, _, rfl, rfl⟩, rfl⟩, ⟨[.step 2], rfl⟩,
      _, rfl⟩
  set_option maxRecDepth 2000 in
  exact ⟨hseeks, ⟨⟨[], _, [], rfl, rfl, rfl, nofun⟩, by decide⟩, ⟨_, rfl, .inl ⟨16, rfl⟩⟩, rfl, _,
    rfl⟩

end Client

end EthRpc
