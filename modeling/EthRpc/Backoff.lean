-- SUMMARY: Waiting times that double after every failure, between bounds.

/-!
# Backoff

Durations are counted in nanoseconds and end at the longest that fits into 64
bits of seconds. The wait doubles with each failure, is at least the lower bound
and at most the upper one, which wins where the two contradict each other. A
random part below the bound on jitter comes on top.
-/

namespace EthRpc

/-- A time span in nanoseconds. -/
abbrev Duration := Nat

namespace Duration

def nanosPerSecond : Nat := 1000000000

def nanosPerMilli : Nat := 1000000

/-- The longest span: `2 ^ 64 - 1` seconds and 999999999 nanoseconds. -/
def longest : Duration := 1 <<< 64 * nanosPerSecond - 1

def ofSeconds (s : Nat) : Duration := s * nanosPerSecond

def ofMillis (ms : Nat) : Duration := ms * nanosPerMilli

def ofParts (seconds nanos : Nat) : Duration := seconds * nanosPerSecond + nanos

def seconds (d : Duration) : Nat := d / nanosPerSecond

def nanos (d : Duration) : Nat := d % nanosPerSecond

def millis (d : Duration) : Nat := d / nanosPerMilli

/-- Twice a span, or the longest. -/
def double (d : Duration) : Duration := min (2 * d) longest

end Duration

structure Backoff.Options where
  minWait : Duration
  maxWait : Duration
  maxJitter : Duration
  deriving DecidableEq

/-- From one second to thirty, without jitter. -/
def Backoff.Options.default : Backoff.Options := ⟨.ofSeconds 1, .ofSeconds 30, 0⟩

structure Backoff where
  options : Backoff.Options
  /-- The wait after the next failure. -/
  upcoming : Duration
  /-- Failures since the last success, counted up to `2 ^ 32 - 1`. -/
  failures : Nat

namespace Backoff

def firstWait (o : Options) : Duration := min o.minWait o.maxWait

def start (o : Options) : Backoff := ⟨o, firstWait o, 0⟩

/-- The random part of a wait, made from any number. -/
def jitter (o : Options) (draw : Nat) : Duration := if o.maxJitter = 0 then 0 else draw % o.maxJitter

/-- The wait after a failure, and the state to go on with. -/
def next (b : Backoff) (draw : Nat) : Duration × Backoff :=
  (b.upcoming + jitter b.options draw,
   { b with
      upcoming := min (max b.upcoming.double b.options.minWait) b.options.maxWait
      failures := min (b.failures + 1) (1 <<< 32 - 1) })

/-- Start over after a success. -/
def reset (b : Backoff) : Backoff := start b.options

end Backoff

end EthRpc
