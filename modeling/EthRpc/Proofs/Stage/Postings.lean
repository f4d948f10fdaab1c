-- SUMMARY: A run sends and counts in turn: each retry that it counts is followed by a request, but for one at the end if the head has gone back.
import EthRpc.Proofs.Client.Passing
import EthRpc.Proofs.Machine.Countings
import EthRpc.Proofs.Stage.RetryOnEmpty

/-!
# Postings

A request that goes to the endpoint is sent once, and once more for every retry
that is counted, with one exception. Bounded retries are counted before the pause;
if the head is found to have gone back after it, the retry that was counted is
never made. Retries on a new head are counted when they are made. The stages below
and above send and count nothing on their own.
-/

namespace EthRpc

open Machine (Told Posting postings postings_append)

/-! ## Taking turns -/

/-- A request, and after it a retry before each further one. Once a run is called off, there is a
retry at the end for which nothing was sent. -/
inductive Alternates : Bool → List Posting → Prop where
  | once : Alternates false [.request]
  | off : Alternates true [.request, .retry]
  | again {off : Bool} {ps : List Posting} :
      Alternates off ps → Alternates off (.request :: .retry :: ps)

namespace Alternates

variable {off : Bool} {ps : List Posting}

/-- The balance of a run: a request more than there are retries, unless it was called off. -/
theorem count (h : Alternates off ps) :
    ps.count .request + (if off then 1 else 0) = 1 + ps.count .retry := by
  induction h with
  | once | off => rfl
  | again _ ih =>
    simp only [List.count_cons_self, List.count_cons_of_ne, ne_eq, reduceCtorEq, not_false_eq_true]
    omega

theorem getLast?_eq (h : Alternates off ps) :
    ps.getLast? = some (if off then .retry else .request) := by
  induction h with
  | once | off => rfl
  | @again _ ps _ ih =>
    cases ps with
    | nil => cases ih
    | cons => simpa using ih

end Alternates

/-! ## Going back -/

/-- A head is among the things that are told. -/
def TellsHead (h : BlockHead) (es : List Told) : Prop :=
  .reply .currentHead (some h) ∈ es ∨ .reply (.query .latest) (.ok h) ∈ es

/-- The last thing told is a pause after which the head has gone back behind one that was told
before. -/
def WentBack (interval : Duration) (es : List Told) : Prop :=
  ∃ pre pause base, es = pre ++ pause ∧ GoesBack interval (some base) pause ∧ TellsHead base pre

/-- Requests and retries take turns, and at the end there is a retry without a request just if the
head has gone back. -/
def Balanced (interval : Duration) (es : List Told) : Prop :=
  ∃ off, Alternates off (postings es) ∧ (off = true ↔ WentBack interval es)

section Balance

variable {interval : Duration} {es : List Told} {d : Told} {h : BlockHead}

theorem Rereads.postings_eq {head : Option BlockHead} (h : Rereads es head) : postings es = [] := by
  cases h <;> rfl

theorem Pauses.postings_eq {head : Option BlockHead} (h : Pauses interval es head) :
    postings es = [.retry] := by
  obtain ⟨hreads⟩ := h
  exact congrArg (List.cons Posting.retry) hreads.postings_eq

theorem GoesBack.postings_eq {base : Option BlockHead} (h : GoesBack interval base es) :
    postings es = [.retry] := by
  obtain ⟨head, hpause, -⟩ := h
  exact hpause.postings_eq

theorem WentBack.getLast?_eq (h : WentBack interval es) :
    (postings es).getLast? = some .retry := by
  obtain ⟨pre, pause, base, rfl, hback, -⟩ := h
  rw [postings_append, hback.postings_eq, List.getLast?_append]
  rfl

/-- That the head has gone back shows at the end, so only the other way has to be proved. -/
theorem Balanced.of_alternates (off : Bool) (halternates : Alternates off (postings es))
    (hback : off = true → WentBack interval es) : Balanced interval es := by
  refine ⟨off, halternates, hback, fun h => ?_⟩
  have hlast := halternates.getLast?_eq.symm.trans h.getLast?_eq
  cases off with
  | true => rfl
  | false => cases hlast

theorem Balanced.of_single (hone : postings es = [.request]) : Balanced interval es := by
  refine .of_alternates false ?_ nofun
  rw [hone]
  exact .once

theorem WentBack.cons (h : WentBack interval es) : WentBack interval (d :: es) := by
  obtain ⟨pre, pause, base, rfl, hback, htells⟩ := h
  exact ⟨d :: pre, pause, base, rfl, hback,
    htells.imp (List.mem_cons_of_mem _) (List.mem_cons_of_mem _)⟩

/-- What is no posting does not change the balance. -/
theorem Balanced.cons (hquiet : d.posting? = none) (h : Balanced interval es) :
    Balanced interval (d :: es) := by
  obtain ⟨off, halternates, hback⟩ := h
  have hsame : postings (d :: es) = postings es := List.filterMap_cons_none hquiet
  exact .of_alternates off (hsame ▸ halternates) fun hoff => (hback.1 hoff).cons

/-- A balanced course has one request more than retries, unless the head has gone back. -/
theorem Balanced.count (h : Balanced interval es) [Decidable (WentBack interval es)] :
    (postings es).count .request + (if WentBack interval es then 1 else 0) =
      1 + (postings es).count .retry := by
  obtain ⟨off, halternates, hback⟩ := h
  simpa only [hback] using halternates.count

end Balance

/-! ## Asking again -/

section Asked

variable {settings : RetrySettings} {interval : Duration} {q : Request} {es : List Told}
  {r : Outcome}

/-- After a request, rounds of retries leave the turns as they are. -/
theorem PausedRuns.alternates {base last : Option BlockHead} (h : PausedRuns interval q base es last)
    {off : Bool} {ps : List Posting} (hps : Alternates off (.request :: ps)) :
    Alternates off (.request :: (postings es ++ ps)) := by
  induction h with
  | nil => exact hps
  | @run base head last pause es r hpause _ _ ih =>
    have hround : postings (pause ++ .reply (.send q) r :: es) =
        .retry :: .request :: postings es := by
      rw [postings_append, hpause.postings_eq]
      rfl
    rw [hround]
    exact .again ih

/-- The head that later ones are compared with was known at first, or was told in some round. -/
theorem PausedRuns.tellsHead {base last : Option BlockHead} {b : BlockHead}
    (h : PausedRuns interval q base es last) (hlast : last = some b) :
    base = some b ∨ TellsHead b es := by
  induction h with
  | nil => exact .inl hlast
  | @run base head last pause es r hpause _ _ ih =>
    rcases ih hlast with hbase | htells
    · cases base with
      | some base => exact .inl hbase
      | none =>
        obtain rfl : head = some b := hbase
        obtain ⟨hreads⟩ := hpause
        refine .inr ?_
        cases hreads with
        | latest => exact .inr (by simp)
        | known => exact .inl (by simp)
    · refine .inr (htells.imp ?_ ?_) <;>
      · intro hmem
        exact List.mem_append_right _ (List.mem_cons_of_mem _ hmem)

theorem AskedForNumber.balanced {n : Nat} (h : AskedForNumber settings q n es r) :
    Balanced settings.interval es := by
  cases h with
  | once | failed => exact .of_single rfl
  | @retried head v base last rounds ending r _ hrounds _ hending _ =>
    have hpostings : postings (.reply (.query .latest) (.ok head) :: .reply (.send q) (.ok v) ::
        .reply .currentHead base :: (rounds ++ ending)) =
          .request :: (postings rounds ++ postings ending) :=
      congrArg (List.cons Posting.request) (postings_append rounds ending)
    have hmade (hnone : postings ending = []) : Balanced settings.interval
        (.reply (.query .latest) (.ok head) :: .reply (.send q) (.ok v) ::
          .reply .currentHead base :: (rounds ++ ending)) := by
      refine .of_alternates false ?_ nofun
      rw [hpostings, hnone]
      exact hrounds.alternates .once
    rcases hending with rfl | rfl | hback
    · exact hmade rfl
    · exact hmade rfl
    · refine .of_alternates true ?_ fun _ => ?_
      · rw [hpostings, hback.postings_eq]
        exact hrounds.alternates .off
      · obtain ⟨b, rfl⟩ : ∃ b, last = some b := by
          obtain ⟨head', -, hregressed⟩ := hback
          cases last with
          | none => cases hregressed
          | some b => exact ⟨b, rfl⟩
        refine ⟨_ :: _ :: _ :: rounds, ending, b, rfl, hback, ?_⟩
        rcases hrounds.tellsHead rfl with rfl | htells
        · exact .inl (by simp)
        · exact htells.imp (by simp +contextual) (by simp +contextual)

/-- After a request, every new head leads to a retry and a request. -/
theorem alternates_runsAtHeads (q : Request) (rounds : List (BlockHead × Outcome)) :
    Alternates false (.request :: postings (rounds.flatMap fun x => runAtHead q x.1 x.2)) := by
  induction rounds with
  | nil => exact .once
  | cons x rounds ih =>
    rw [List.flatMap_cons, postings_append]
    exact .again ih

theorem AskedOnNewHeads.balanced (h : AskedOnNewHeads q es r) : Balanced interval es := by
  cases h with
  | failed | once => exact .of_single rfl
  | @retried issuedAt v rounds ending r _ hending =>
    have hnone : postings ending = [] := by
      rcases hending with rfl | ⟨a, rfl, -⟩ <;> rfl
    have hpostings : postings (.reply .currentHead (some issuedAt) :: .reply (.send q) (.ok v) ::
        (rounds.flatMap (fun x => runAtHead q x.1 x.2) ++ ending)) =
          .request :: postings (rounds.flatMap fun x => runAtHead q x.1 x.2) := by
      refine congrArg (List.cons Posting.request) ((postings_append _ _).trans ?_)
      rw [hnone, List.append_nil]
    refine .of_alternates false ?_ nofun
    rw [hpostings]
    exact alternates_runsAtHeads q rounds

end Asked

/-! ## The stages around it -/

section Stages

variable {methods : MethodTable} {settings : RetrySettings} {interval : Duration} {q : Request}
  {next : Request → Program} {es ds : List Told} {r : Outcome}

/-- The stages below send the request once. -/
def SendsOnce (next : Request → Program) : Prop :=
  ∀ q ds r, (next q).Plays ds (.done r) → postings ds = [.request]

namespace Program.Expands

/-- Runs of stages below that send the request once post what the requests themselves do. -/
theorem postings_eq (hnext : SendsOnce next) (h : Expands next es ds) :
    postings ds = postings es := by
  induction h with
  | nil => rfl
  | run hplays _ ih =>
    rw [postings_append, hnext _ _ _ hplays, ih]
    rfl
  | @other d _ _ _ _ ih =>
    have hcons (es : List Told) : postings (d :: es) = postings [d] ++ postings es :=
      postings_append [d] es
    rw [hcons, ih, ← hcons]

/-- What is no run is told as it is. -/
theorem mem {d : Told} (hd : d.run? = none) (h : Expands next es ds) (hmem : d ∈ es) : d ∈ ds := by
  induction h with
  | nil => exact hmem
  | run _ _ ih =>
    rcases List.mem_cons.1 hmem with rfl | hmem
    · cases hd
    · exact List.mem_append_right _ (ih hmem)
  | other _ _ ih =>
    rcases List.mem_cons.1 hmem with rfl | hmem
    · exact List.mem_cons_self
    · exact List.mem_cons_of_mem _ (ih hmem)

theorem exists_of_append {pre post : List Told} (h : Expands next (pre ++ post) ds) :
    ∃ ds₁ ds₂, ds = ds₁ ++ ds₂ ∧ Expands next pre ds₁ ∧ Expands next post ds₂ := by
  induction pre generalizing ds with
  | nil => exact ⟨[], ds, rfl, .nil, h⟩
  | cons d pre ih =>
    cases h with
    | run hplays h =>
      obtain ⟨ds₁, ds₂, rfl, hpre, hpost⟩ := ih h
      exact ⟨_, ds₂, (List.append_assoc ..).symm, .run hplays hpre, hpost⟩
    | other hd h =>
      obtain ⟨ds₁, ds₂, rfl, hpre, hpost⟩ := ih h
      exact ⟨_, ds₂, rfl, .other hd hpre, hpost⟩

theorem eq_of_quiet (hquiet : es.filterMap Told.run? = []) (h : Expands next es ds) : ds = es := by
  induction h with
  | nil => rfl
  | run => cases hquiet
  | other hd _ ih =>
    rw [List.filterMap_cons_none hd] at hquiet
    rw [ih hquiet]

theorem wentBack (h : Expands next es ds) (hback : WentBack interval es) :
    WentBack interval ds := by
  obtain ⟨pre, pause, base, rfl, hgoes, htells⟩ := hback
  obtain ⟨ds₁, ds₂, rfl, hpre, hpause⟩ := h.exists_of_append
  obtain rfl := hpause.eq_of_quiet hgoes.choose_spec.1.quiet
  exact ⟨ds₁, ds₂, base, rfl, hgoes, htells.imp (hpre.mem rfl) (hpre.mem rfl)⟩

theorem balanced (hnext : SendsOnce next) (h : Expands next es ds) (hes : Balanced interval es) :
    Balanced interval ds := by
  obtain ⟨off, halternates, hback⟩ := hes
  rw [← h.postings_eq hnext] at halternates
  exact .of_alternates off halternates fun hoff => h.wentBack (hback.1 hoff)

end Program.Expands

namespace Stage

/-- The response is looked at, and nothing is sent or counted for it. -/
theorem inspector_sendsOnce : SendsOnce fun q => inspector.handle q .send := by
  intro q ds r h
  rcases Program.plays_send_andThen h with ⟨e, rfl, rfl⟩ | ⟨v, es, rfl, hrest⟩
  · rfl
  · split at hrest
    · obtain ⟨rfl, -⟩ := Program.plays_done_iff.1 hrest
      rfl
    · obtain ⟨a, es, rfl, hdone⟩ := Program.plays_ask_iff.1 hrest
      obtain ⟨rfl, -⟩ := Program.plays_done_iff.1 hdone
      rfl

theorem retryOnEmpty_balanced (hnext : SendsOnce next)
    (h : ((retryOnEmpty methods settings).handle q next).Plays ds (.done r)) :
    Balanced settings.interval ds := by
  cases hspec : (methods.spec q.method).retryOnEmpty with
  | false =>
    rw [retryOnEmpty_of_not next settings hspec] at h
    exact .of_single (hnext _ _ _ h)
  | true =>
    rw [← through_retryOnEmpty hspec] at h
    obtain ⟨es, hexpands, hes⟩ := Program.exists_of_through h
    refine hexpands.balanced hnext ?_
    by_cases hnumber : ∃ n, BlockParam.classify (methods.spec q.method) q = .concrete (.number n)
    · obtain ⟨n, hblock⟩ := hnumber
      exact (course_of_number hspec hblock hes).2.balanced
    · by_cases habsent : BlockParam.classify (methods.spec q.method) q = .absent
      · rw [retryOnEmpty_of_absent hspec habsent] at hes
        exact (askedOnNewHeads_of_askOnNewHead hes).balanced
      · rw [retryOnEmpty_of_other hspec (fun n hn => hnumber ⟨n, hn⟩) habsent] at hes
        obtain rfl := plays_send hes
        exact .of_single rfl

/-- To pin a request, the head is asked for at most. -/
theorem blockRef_balanced
    (hnext : ∀ q ds r, (next q).Plays ds (.done r) → Balanced interval ds)
    (h : ((blockRef methods).handle q next).Plays ds (.done r)) : Balanced interval ds := by
  simp only [blockRef] at h
  split at h
  · exact hnext _ _ _ h
  · unfold Program.normalizing at h
    split at h
    · exact hnext _ _ _ h
    · obtain ⟨a, ds, rfl, hrest⟩ := Program.plays_ask_iff.1 h
      exact (hnext _ _ _ hrest).cons rfl

end Stage

end Stages

end EthRpc
