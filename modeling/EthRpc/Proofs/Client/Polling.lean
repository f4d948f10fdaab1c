-- SUMMARY: The poll loops of a client wait as long as their own last polls call for, and their failures are counted.
import EthRpc.Proofs.Client.Courses
import EthRpc.Proofs.Tracker.Schedule

/-!
# The poll loops of a client

The callers of a client may poll at any time, and they do not disturb the poll
loop: each loop waits as its own polls call for. No program of a client counts a
failed poll, so that those of the loops are all that is counted.
-/

namespace EthRpc.Client

open Machine (Action TaskId laps Begun)

variable {methods : MethodTable} {s : Settings} {actions : List Action}

/-- No task of a client counts a failed poll by a command. -/
theorem Serves.not_counts_pollFailures {t : TaskId} {now : List Action} {k : Unit → Program}
    (hserves : Serves methods s actions) (hnow : now <+: actions) :
    ((start s).run now).activity? t ≠ some (.running (.ask (.count .pollFailures) k)) := by
  intro hcount
  have hwithin := Machine.within_of_running (fun p hp => hserves.within (hnow.subset hp))
    (fun _ _ _ => Shares.within) hcount
  rcases hwithin.1 _ rfl with hretries | hexhausted
  · cases hretries
  · cases hexhausted

/-- Without jitter, each poll loop of a client goes round in laps: it sends a poll, is answered, and
asks for one timer, which is the poll interval after a success, and otherwise the lower bound on
waits, doubled for each of its failures in a row before that one and cut to the upper bound, which
is a span like any other. Until its first poll it waits for nothing but the turn. With the turn it
polls, unless it was told to stop; with the answer it asks for the timer; and when this fires it
asks for the turn again, but sends no poll before. What is counted as failed polls are those of poll
loops. A poll fails if the endpoint does, or if its answer is no block with a number and a hash. -/
theorem poll_loop_schedule (hjitter : s.tracker.backoff.maxJitter = 0)
    (hmax : s.tracker.backoff.maxWait ≤ Duration.longest) (hserves : Serves methods s actions) :
    let m := (start s).run actions
    (∀ t, m.role? t = some .pollLoop →
      ∃ polls begun, m.trace t = laps s.tracker t polls ++ begun ∧ Begun t begun) ∧
    (∀ t old, m.role? t = some .pollLoop → m.trace t = [] → m.activity? t = some old →
      old.isOver ∨ ∃ b stopped, old.Wants (.loop b stopped)) ∧
    (∀ t old b, m.activity? t = some old → m.Looks old (.loop b false) →
      m.traced (.step t) t = [.sent t true m.tracker.pollRequest]) ∧
    (∀ t r b stopped, m.activity? t = some (.polled r (.loop b stopped)) →
      ∃ d, m.traced (.step t) t = [.polled t (Tracker.polledHead r), .timer t d]) ∧
    (∀ t d seeker, m.activity? t = some (.pausing d seeker) → d ≤ m.now →
      (m.act (.fire t)).activity? t = some (.seeking seeker)) ∧
    (∀ asked again a a' t d q, asked ++ [a] <+: again →
      .timer t d ∈ ((start s).run asked).events a →
      .sent t true q ∈ ((start s).run again).events a' →
      ∃ fired seeker, asked ++ [a] <+: fired ∧ fired ++ [.fire t] <+: again ∧
        ((start s).run fired).activity? t =
          some (.pausing (((start s).run asked).now + d) seeker) ∧
        ((start s).run asked).now + d ≤ ((start s).run fired).now) ∧
    m.tally.pollFailures = m.lostPolls ∧
    ∀ r, Tracker.fails r ↔
      (∃ e, r = .error e) ∨ ∃ v, r = .ok v ∧ BlockHead.ofBlock? v = none := by
  intro m
  refine ⟨?laps, ?first, ?looks, ?asks, ?fires, ?waits, ?counted, fun r => Tracker.fails_iff⟩
  case laps =>
    intro t hrole
    obtain ⟨polls, begun, old, htrace, -, hrounds⟩ := Machine.exists_laps hjitter hmax hrole
    exact ⟨polls, begun, htrace, hrounds.toBegun⟩
  case first =>
    intro t old hrole hnone hold
    exact Machine.wants_of_trace_eq_nil hjitter hmax hrole hnone hold
  case looks =>
    intro t old b hold hl
    rw [Machine.traced_of_looks hold hl]
    rfl
  case asks =>
    intro t r b stopped hpolled
    exact ⟨_, Machine.traced_of_polled hpolled⟩
  case fires =>
    intro t d seeker hpausing hdue
    exact Machine.activity?_fire_of_pausing hpausing hdue
  case waits =>
    intro asked again a a' t d q hbefore htimer hsent
    exact Machine.exists_fired hbefore htimer hsent
  case counted =>
    exact Machine.pollFailures_run fun now t k hnow => hserves.not_counts_pollFailures hnow

/-! ### Failures with a success of somebody else between them -/

/-- A client without jitter. -/
def steady : Settings :=
  { Settings.default with tracker := ⟨.ofSeconds 20, .default, .ofSeconds 20⟩ }

/-- The poll loop fails, somebody else polls with success, and the poll loop fails again. -/
def failsAround : List Action :=
  [.subscribe, .step 0, .answer 0 (.error .timeout), .step 0,
    .launch (askTracker .check), .step 1, .step 1,
    .answer 1 (.ok (BlockHead.toJson ⟨100, .ofNat 100⟩)), .step 1,
    .pass (.ofSeconds 1), .fire 0, .step 0, .answer 0 (.ok .null), .step 0]

/-- The second failure is one of two in a row, as the success between them was not that of the loop:
its timer is twice as long as the first one. -/
theorem poll_loop_schedule_of_failsAround :
    let m := (start steady).run failsAround
    (∃ polls begun, m.trace 0 = laps steady.tracker 0 polls ++ begun ∧ Begun 0 begun) ∧
    (∃ first third, m.trace 0 =
      laps steady.tracker 0 [(third, .ok .null), (first, .error .timeout)]) ∧
    (∃ seeker, m.activity? 0 = some (.pausing (.ofSeconds 1 + .ofSeconds 2) seeker)) ∧
    (∃ fired seeker, failsAround.take 4 <+: fired ∧ fired ++ [.fire 0] <+: failsAround.take 11 ∧
      ((start steady).run fired).activity? 0 = some (.pausing (0 + .ofSeconds 1) seeker) ∧
      0 + .ofSeconds 1 ≤ ((start steady).run fired).now) ∧
    m.tally.pollFailures = m.lostPolls ∧ m.lostPolls = 2 := by
  intro m
  have hserves : Serves [] steady failsAround := by
    intro p hp
    obtain rfl : p = askTracker .check := by simpa [failsAround] using hp
    exact ⟨.query .check, rfl⟩
  obtain ⟨hlaps, -, -, -, -, hfires, hcounted, -⟩ := poll_loop_schedule rfl (by decide) hserves
  refine ⟨hlaps 0 rfl, ⟨_, _, rfl⟩, ⟨_, rfl⟩, ?_, hcounted, rfl⟩
  exact hfires (failsAround.take 3) (failsAround.take 11) (.step 0) (.step 0) 0 _ _ ⟨_, rfl⟩
    (.head _) (.head _)

end EthRpc.Client
