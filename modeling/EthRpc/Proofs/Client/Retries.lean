-- SUMMARY: Empty results are asked for again when the tracked head says so, unless a lagging poll of the task's own says less.
import EthRpc.Client
import EthRpc.Proofs.Stage.RetryOnEmpty

/-!
# Retries and the tracked head

The stage that asks again decides by the head that it is told. So a block that is
not above the tracked head gets bounded retries, and a request without block
parameter is asked again once the tracked head has moved on. There is one way to
miss either: a task that has to poll for the head decides by what the poll reports,
even if the node that answers it lags behind the tracked head.
-/

namespace EthRpc

/-! ## Being told the head -/

namespace Machine

section Deals

variable {m : Machine} {t : TaskId} {b b' : List Action} {a : Action} {d : Told} {p' : Program}
  {h current : BlockHead} {retry : RetrySettings} {q : Request} {next : Request → Program}
  {f : Outcome → Program}

/-- If the tracked head has at least some number, only a task whose poll lags is told a lower
one. -/
theorem Learns.le_or_lags {n : Nat} (hl : m.Learns t b b' a h)
    (hcurrent : (m.run (b' ++ [a])).tracker.head? = some current) (hn : n ≤ current.number) :
    n ≤ h.number ∨ h.number < n ∧ (m.run b').Lags t h := by
  obtain ⟨c, hc, hcases⟩ := hl.tracked
  rw [hcurrent] at hc
  cases hc
  rcases Nat.lt_or_ge h.number n with hlt | hle
  · rcases hcases with heq | ⟨-, hlags⟩
    · omega
    · exact .inr ⟨hlt, hlags⟩
  · exact .inl hle

/-- A task that asks on new heads remembers the tracked head that it began at. -/
theorem Deals.of_askOnNewHead
    (hd : m.Deals t b b' a d ((Program.askOnNewHead retry q next).bind f) p') :
    d = .reply .currentHead (m.run b).tracker.head? ∧
      ∀ issuedAt, (m.run b).tracker.head? = some issuedAt →
        p' = (next q).bind fun
          | .ok v => (Program.retryOnNewHead q next (retry.maxAttempts - 1) issuedAt v).bind f
          | .error e => f (.error e) := by
  obtain ⟨rfl, rfl⟩ := hd.of_currentHead
  refine ⟨rfl, fun issuedAt hissued => ?_⟩
  rw [hissued]
  refine (Program.bind_assoc ..).trans (congrArg (next q).bind ?_)
  funext r
  cases r <;> rfl

/-- What becomes of an empty result once the head is told that there is then. -/
theorem Deals.of_retryOnNewHead {left : Nat} {seen : BlockHead} {v : Json}
    (hempty : v.isEmptyResult)
    (hd : m.Deals t b b' a d ((Program.retryOnNewHead q next (left + 1) seen v).bind f) p')
    (htold : d.latest? = some (.ok h)) :
    p' = if h.number ≤ seen.number then f (.ok v)
      else (Program.ask (.count .retries) fun _ =>
        (next q).andThen fun r => Program.retryOnNewHead q next left h r).bind f := by
  simp only [Program.retryOnNewHead, hempty, if_true, Program.bind] at hd
  obtain ⟨r, hr, rfl⟩ := hd.of_latest
  rw [htold] at hr
  cases hr
  dsimp only
  split <;> rfl

end Deals

end Machine

namespace Client

open Machine (Action TaskId Told)
open Stage (balanceAtHundred retriedBalances)

/-- A request whose block number is not above the tracked head, as the task knows it once it is
told a head, gets bounded retries. One without block parameter remembers the tracked head at which
it was issued; if the result is empty, attempts are left, and the tracked head is above the one
seen last, it is asked again. The only exception to either is a task whose own poll lagged. -/
theorem retries_follow_tracked_head (s : Settings) (methods : MethodTable) (q : Request)
    (next : Request → Program) (f : Outcome → Program)
    (hspec : (methods.spec q.method).retryOnEmpty) :
    (∀ {n t b b' a d p' h current},
      BlockParam.classify (methods.spec q.method) q = .concrete (.number n) →
      (start s).Deals t b b' a d (((Stage.retryOnEmpty methods s.retry).handle q next).bind f) p' →
      d.latest? = some (.ok h) →
      ((start s).run (b' ++ [a])).tracker.head? = some current → n ≤ current.number →
      p' = (Program.askPaused s.retry q next).bind f ∨
        h.number < n ∧ ((start s).run b').Lags t h) ∧
    ((methods.spec q.method).blockParam = none →
      (∀ {t b b' a d p' issuedAt},
        (start s).Deals t b b' a d (((Stage.retryOnEmpty methods s.retry).handle q next).bind f)
          p' →
        ((start s).run b).tracker.head? = some issuedAt →
        p' = (next q).bind fun
          | .ok v => (Program.retryOnNewHead q next (s.retry.maxAttempts - 1) issuedAt v).bind f
          | .error e => f (.error e)) ∧
      ∀ {left seen v t b b' a d p' h current}, v.isEmptyResult →
        (start s).Deals t b b' a d ((Program.retryOnNewHead q next (left + 1) seen v).bind f) p' →
        d.latest? = some (.ok h) →
        ((start s).run (b' ++ [a])).tracker.head? = some current → seen.number < current.number →
        p' = (Program.ask (.count .retries) fun _ =>
            (next q).andThen fun r => Program.retryOnNewHead q next left h r).bind f ∨
          h.number ≤ seen.number ∧ ((start s).run b').Lags t h) := by
  refine ⟨?number, fun hparam => ⟨?issued, ?again⟩⟩
  case number =>
    intro n t b b' a d p' h current hblock hd htold hcurrent hn
    have hl : (start s).Learns t b b' a h := ⟨d, _, _, hd, htold⟩
    obtain ⟨k, hk, hok, -⟩ := Stage.retryOnEmpty_of_number hspec hblock s.retry next
    rw [hk] at hd
    obtain ⟨r, hr, rfl⟩ := hd.of_latest
    rw [htold] at hr
    cases hr
    rw [hok]
    rcases hl.le_or_lags hcurrent hn with hle | hlags
    · exact .inl (by rw [if_pos hle])
    · exact .inr hlags
  case issued =>
    intro t b b' a d p' issuedAt hd hissued
    have hblock : BlockParam.classify (methods.spec q.method) q = .absent := by
      simp only [BlockParam.classify, hparam]
    rw [Stage.retryOnEmpty_of_absent hspec hblock] at hd
    exact hd.of_askOnNewHead.2 issuedAt hissued
  case again =>
    intro left seen v t b b' a d p' h current hempty hd htold hcurrent hlt
    have hl : (start s).Learns t b b' a h := ⟨d, _, _, hd, htold⟩
    have hp' := hd.of_retryOnNewHead hempty htold
    rcases hl.le_or_lags hcurrent (Nat.succ_le_of_lt hlt) with hle | ⟨hlow, hlags⟩
    · exact .inl (hp'.trans (if_neg (by omega)))
    · exact .inr ⟨Nat.le_of_lt_succ hlow, hlags⟩

/-! ### A block that the head has reached -/

/-- What becomes of the balance with the head that is told. -/
def balanceTold : Except RpcError BlockHead → Program
  | .ok head =>
    if 100 ≤ head.number then .askPaused .default balanceAtHundred (Stage.pipeline [.inspector])
    else Stage.pipeline [.inspector] balanceAtHundred
  | .error _ => Stage.pipeline [.inspector] balanceAtHundred

theorem retryOnEmpty_balance :
    (Stage.retryOnEmpty retriedBalances .default).handle balanceAtHundred
      (Stage.pipeline [.inspector]) = .ask (.query .latest) balanceTold := rfl

/-- The head is polled when it is 100. Once this is stale, somebody asks for the balance at block
100, for which the head is polled again, and a node reports the given one. -/
def pollsAgain (h : BlockHead) : List Action :=
  [.launch (askTracker .latest), .step 0, .step 0,
    .answer 0 (.ok (BlockHead.toJson ⟨100, .ofNat 100⟩)), .step 0, .step 0,
    .pass (.ofSeconds 20),
    .launch ((Work.dispatch balanceAtHundred).program (stages retriedBalances .default)),
    .step 1, .step 1, .step 2, .step 2, .answer 2 (.ok h.toJson)]

/-- A node that has caught up says 101: the balance gets bounded retries. -/
theorem retries_follow_tracked_head_of_caughtUp :
    ∃ d p', (start .default).Deals 2 ((pollsAgain ⟨101, .ofNat 101⟩).take 10)
        (pollsAgain ⟨101, .ofNat 101⟩) (.step 2) d (.ask (.query .latest) balanceTold) p' ∧
      (p' = (Program.askPaused .default balanceAtHundred (Stage.pipeline [.inspector])).bind .done ∨
        101 < 100 ∧
          ((start .default).run (pollsAgain ⟨101, .ofNat 101⟩)).Lags 2 ⟨101, .ofNat 101⟩) := by
  obtain ⟨d, p', hd, htold⟩ : ∃ d p', (start .default).Deals 2
      ((pollsAgain ⟨101, .ofNat 101⟩).take 10) (pollsAgain ⟨101, .ofNat 101⟩) (.step 2) d
      (.ask (.query .latest) balanceTold) p' ∧ d.latest? = some (.ok ⟨101, .ofNat 101⟩) :=
    ⟨_, _, .report rfl ⟨⟨[], rfl⟩, ⟨_, rfl, .seeking rfl⟩, rfl, ⟨[_], rfl⟩⟩ rfl, rfl⟩
  refine ⟨d, p', hd, ?_⟩
  rw [← retryOnEmpty_balance, ← Program.bind_pure (Stage.handle ..)] at hd
  have hcurrent : ((start .default).run (pollsAgain ⟨101, .ofNat 101⟩ ++ [.step 2])).tracker.head? =
      some ⟨101, .ofNat 101⟩ := rfl
  exact (retries_follow_tracked_head .default retriedBalances balanceAtHundred _ _ rfl).1
    (n := 100) rfl hd htold hcurrent (by decide)

/-- A node that lags says 99: the balance is asked for once and comes back empty, though its block
is that of the tracked head all the while. -/
theorem once_of_lagging_poll :
    (∃ d, (start .default).Deals 2 ((pollsAgain ⟨99, .ofNat 99⟩).take 10)
        (pollsAgain ⟨99, .ofNat 99⟩) (.step 2) d
        ((Stage.retryOnEmpty retriedBalances .default).handle balanceAtHundred
          (Stage.pipeline [.inspector]))
        (Stage.pipeline [.inspector] balanceAtHundred) ∧
      d.latest? = some (.ok ⟨99, .ofNat 99⟩)) ∧
    ((start .default).run (pollsAgain ⟨99, .ofNat 99⟩ ++ [.step 2])).tracker.head? =
      some ⟨100, .ofNat 100⟩ ∧
    BlockParam.classify (retriedBalances.spec balanceAtHundred.method) balanceAtHundred =
      .concrete (.number 100) ∧
    let m := (start .default).run (pollsAgain ⟨99, .ofNat 99⟩ ++
      [.step 2, .step 2, .answer 2 (.ok .null), .step 2, .step 1, .step 1])
    m.activity? 1 = some (.finished (.ok .null)) ∧
      m.requests.filter (·.1 = 2) = [(2, balanceAtHundred)] ∧ m.tally.retries = 0 := by
  refine ⟨?_, rfl, rfl, rfl, rfl, rfl⟩
  rw [retryOnEmpty_balance]
  exact ⟨.report .latest _ (.ok (BlockHead.toJson ⟨99, .ofNat 99⟩)),
    .report rfl ⟨⟨[], rfl⟩, ⟨_, rfl, .seeking rfl⟩, rfl, ⟨[_], rfl⟩⟩ rfl, rfl⟩

end Client

end EthRpc
