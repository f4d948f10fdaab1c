-- SUMMARY: Waits without jitter double with every failure in a row, up to the upper bound, and never run over.
import Mathlib.Algebra.Group.Nat.Defs
import EthRpc.Backoff

/-!
# Waits

Spans are bounded, and a wait is doubled within the bound. This makes no
difference to a wait that is cut to the upper bound anyway, so without jitter the
waits are those that one would compute with numbers of any size.
-/

namespace EthRpc

/-! ## Spans in parts -/

namespace Duration

/-- The seconds of a span fit into 64 bits if it is not longer than the longest one. -/
theorem seconds_lt_of_le_longest {d : Duration} (h : d ≤ longest) : d.seconds < 1 <<< 64 := by
  have hlt : d < 1 <<< 64 * nanosPerSecond := Nat.lt_of_le_pred (by decide) h
  exact Nat.div_lt_of_lt_mul (Nat.mul_comm .. ▸ hlt)

/-- A span is doubled part by part: full seconds are carried over from the nanoseconds, and where
the seconds do not fit, the longest span stands in. -/
theorem double_ofParts {s n : Nat} (hn : n < nanosPerSecond) :
    (ofParts s n).double =
      if 2 * s + 2 * n / nanosPerSecond < 1 <<< 64 then
        ofParts (2 * s + 2 * n / nanosPerSecond) (2 * n % nanosPerSecond)
      else longest := by
  have hparts : ∀ s n : Nat, n < 1000000000 →
      min (2 * (s * 1000000000 + n)) 18446744073709551615999999999 =
        if 2 * s + 2 * n / 1000000000 < 18446744073709551616 then
          (2 * s + 2 * n / 1000000000) * 1000000000 + 2 * n % 1000000000
        else 18446744073709551615999999999 := by
    intro s n hn
    split <;> omega
  exact hparts s n hn

end Duration

namespace Backoff

/-! ## One call -/

/-- The wait after so many failures in a row, before the last of them. -/
def Options.waitAfter (o : Options) (earlier : Nat) : Duration :=
  min o.maxWait (o.minWait * 2 ^ earlier)

/-- A backoff that has counted so many failures in a row. -/
structure Counts (b : Backoff) (o : Options) (n : Nat) : Prop where
  options : b.options = o
  upcoming : b.upcoming = o.waitAfter n
  failures : b.failures = min n (1 <<< 32 - 1)

variable {o : Options} {b : Backoff} {n : Nat}

theorem counts_start (o : Options) : (start o).Counts o 0 := by
  refine ⟨rfl, ?_, rfl⟩
  simp [start, firstWait, Options.waitAfter, Nat.min_comm]

theorem Counts.reset (h : b.Counts o n) : b.reset.Counts o 0 := by
  rw [Backoff.reset, h.options]
  exact counts_start o

theorem Counts.wait (h : b.Counts o n) (hjitter : o.maxJitter = 0) (draw : Nat) :
    (b.next draw).1 = o.waitAfter n := by
  simp [next, jitter, h.options, hjitter, h.upcoming]

theorem Counts.next (h : b.Counts o n) (hmax : o.maxWait ≤ Duration.longest) (draw : Nat) :
    (b.next draw).2.Counts o (n + 1) := by
  refine ⟨h.options, ?_, ?_⟩
  · have hpow : 0 < 2 ^ n := Nat.two_pow_pos n
    have hle : o.minWait ≤ o.minWait * 2 ^ n := Nat.le_mul_of_pos_right _ hpow
    have hdouble : o.minWait * 2 ^ (n + 1) = 2 * (o.minWait * 2 ^ n) := by
      rw [Nat.pow_succ, ← Nat.mul_assoc, Nat.mul_comm]
    have hbound : ∀ upper longest lower wait : Nat, lower ≤ wait → upper ≤ longest →
        min (max (min (2 * min upper wait) longest) lower) upper = min upper (2 * wait) := by
      omega
    simp only [Backoff.next, h.upcoming, h.options, Options.waitAfter, Duration.double, hdouble]
    exact hbound _ _ _ _ hle hmax
  · simp only [Backoff.next, h.failures]
    omega

/-! ## Any calls -/

/-- What a backoff is told: that an attempt failed, with the number that the random part of the wait
is made from, or that one succeeded. -/
inductive Call where
  | next (draw : Nat)
  | reset
  deriving DecidableEq

/-- Failures in a row after a call. -/
def Call.count (n : Nat) : Call → Nat
  | next _ => n + 1
  | reset => 0

/-- The failures since the last success. -/
def streak (calls : List Call) : Nat := calls.foldl Call.count 0

def act (b : Backoff) : Call → Backoff
  | .next draw => (b.next draw).2
  | .reset => b.reset

def run (b : Backoff) (calls : List Call) : Backoff := calls.foldl act b

theorem Counts.act (h : b.Counts o n) (hmax : o.maxWait ≤ Duration.longest) (call : Call) :
    (b.act call).Counts o (call.count n) := by
  cases call with
  | next draw => exact h.next hmax draw
  | reset => exact h.reset

theorem Counts.run (h : b.Counts o n) (hmax : o.maxWait ≤ Duration.longest) (calls : List Call) :
    (b.run calls).Counts o (calls.foldl Call.count n) := by
  induction calls generalizing b n with
  | nil => exact h
  | cons call calls ih => exact ih (h.act hmax call)

/-- Only a reset brings the count down. -/
theorem le_foldl_count {more : List Call} (h : .reset ∉ more) (n : Nat) :
    n ≤ more.foldl Call.count n := by
  induction more generalizing n with
  | nil => exact Nat.le_refl n
  | cons call more ih =>
    obtain ⟨hcall, hmore⟩ := not_or.1 (mt List.mem_cons.2 h)
    cases call with
    | next draw => exact Nat.le_of_succ_le (ih hmore (n + 1))
    | reset => exact absurd rfl hcall

theorem Options.waitAfter_mono (o : Options) {m n : Nat} (h : m ≤ n) :
    o.waitAfter m ≤ o.waitAfter n := by
  have hpow : 2 ^ m ≤ 2 ^ n := Nat.pow_le_pow_right (by decide) h
  have hwait : o.minWait * 2 ^ m ≤ o.minWait * 2 ^ n := Nat.mul_le_mul_left _ hpow
  exact Nat.le_min.2 ⟨Nat.min_le_left .., Nat.le_trans (Nat.min_le_right ..) hwait⟩

/-- Whatever a backoff without jitter was told, the wait after the next failure is the lower bound,
doubled for every failure since the last success, and cut to the upper bound. So it is never above
the upper bound, its seconds fit into 64 bits, and it is not longer than any wait that follows before
a success. The failures are counted as far as 32 bits go. The upper bound is a span like any other;
the lower bound may be above it. -/
theorem waits_double_to_bound (hjitter : o.maxJitter = 0) (hmax : o.maxWait ≤ Duration.longest)
    (calls : List Call) (draw : Nat) :
    let b := (start o).run calls
    let wait := (b.next draw).1
    wait = min o.maxWait (o.minWait * 2 ^ streak calls) ∧
    wait ≤ o.maxWait ∧
    Duration.seconds wait < 1 <<< 64 ∧
    (∀ more again, .reset ∉ more → wait ≤ ((b.run more).next again).1) ∧
    b.failures = min (streak calls) (2 ^ 32 - 1) := by
  intro b wait
  have hb : b.Counts o (streak calls) := (counts_start o).run hmax calls
  have hwait : wait = o.waitAfter (streak calls) := hb.wait hjitter draw
  have hle : wait ≤ o.maxWait := hwait ▸ Nat.min_le_left ..
  refine ⟨hwait, hle, Duration.seconds_lt_of_le_longest (Nat.le_trans hle hmax), ?_, hb.failures⟩
  intro more again hmore
  rw [hwait, (hb.run hmax more).wait hjitter again]
  exact o.waitAfter_mono (le_foldl_count hmore _)

/-- Both bounds are the longest span there is. -/
def Options.greatest : Options := ⟨Duration.longest, Duration.longest, 0⟩

/-- The second wait in a row is not above the bound, though its double would not fit. -/
theorem waits_double_to_bound_of_greatest :
    Options.greatest.maxJitter = 0 ∧ Options.greatest.maxWait ≤ Duration.longest ∧
      (((start .greatest).run [.next 0, .reset, .next 0]).next 0).1 = Duration.longest ∧
      ((start .greatest).run [.next 0, .reset, .next 0]).failures = 1 := by
  obtain ⟨hwait, -, -, -, hfailures⟩ :=
    waits_double_to_bound (o := .greatest) rfl (by decide) [.next 0, .reset, .next 0] 0
  exact ⟨rfl, by decide, hwait.trans (by decide), hfailures⟩

end Backoff

end EthRpc
