-- SUMMARY: Reads at the latest block are pinned to the tracked head and never go back, unless a lagging poll of their own pins them.
import EthRpc.Client
import EthRpc.Proofs.Machine.Heads

/-!
# Pins

A request that reads at the latest block is pinned to a number once its head is
known. The number is that of the tracked head at the moment of pinning, so of two
reads that follow each other the second is pinned at least as high as the first.
There is one way to miss this: a task that has to poll for the head is told what
the poll reports, even if the node that answers it lags behind the tracked head.
-/

namespace EthRpc

/-! ## Asking for the latest block -/

/-- The parameter at a position means the latest block: by its tag, as `null`, or left out. -/
def Request.AsksLatest (q : Request) (index : Nat) : Prop :=
  q.param? index = none ∨ q.param? index = some .null ∨
    ∃ v, q.param? index = some v ∧ BlockRef.ofJson? v = some (.tag .latest)

theorem BlockParam.classify_of_asksLatest {spec : MethodSpec} {q : Request} {index : Nat}
    (hindex : spec.blockParam = some index) (h : q.AsksLatest index) :
    classify spec q = .latest := by
  simp only [classify, hindex]
  rcases h with h | h | ⟨v, h, hv⟩
  · simp [h]
  · simp [h]
  · cases v <;> simp_all [ofRef]

/-- What becomes of a request for the latest block with what is told of the head. -/
def Normalized.atHead (q : Request) (index : Nat) : Except RpcError BlockHead → Normalized
  | .ok h => place q index h.number .latest
  | .error _ => ⟨q, .latest⟩

namespace Program

variable {spec : MethodSpec} {q : Request} {index : Nat}

theorem normalizing_of_asksLatest (hindex : spec.blockParam = some index)
    (h : q.AsksLatest index) (k : Normalized → Program) :
    normalizing spec q k = .ask (.query .latest) fun r => k (.atHead q index r) := by
  have hclass := BlockParam.classify_of_asksLatest hindex h
  simp only [normalizing, Normalized.plan, hindex, hclass]
  rfl

theorem normalizing_bind (k : Normalized → Program) (f : Outcome → Program) :
    (normalizing spec q k).bind f = normalizing spec q fun n => (k n).bind f := by
  unfold normalizing
  split <;> rfl

end Program

/-- The cache settles the block before it makes the key of a block method. -/
theorem Stage.exists_normalizing {methods : MethodTable} {q : Request}
    (hcache : (methods.spec q.method).cache = .block) (cache : Nat) (next : Request → Program) :
    ∃ k, (Stage.blockCache methods cache).handle q next =
      .normalizing (methods.spec q.method) q k := by
  simp only [Stage.blockCache, hcache]
  exact ⟨_, rfl⟩

theorem Stage.blockRef_eq_normalizing {methods : MethodTable} {q : Request}
    (hparam : (methods.spec q.method).blockParam ≠ none) (next : Request → Program) :
    (Stage.blockRef methods).handle q next =
      .normalizing (methods.spec q.method) q fun n => next n.request := by
  simp only [Stage.blockRef]
  split
  next hnone => exact absurd hnone hparam
  next => rfl

namespace Machine

/-- A task took up a request for the latest block after some actions, and by the next action after
some more it goes on with the request pinned to the number of a head. -/
def Pins (m : Machine) (t : TaskId) (b b' : List Action) (a : Action) (h : BlockHead) : Prop :=
  ∃ spec q index k d, spec.blockParam = some index ∧ q.AsksLatest index ∧
    m.Deals t b b' a d (.normalizing spec q k) (k (.place q index h.number .latest)) ∧
    d.latest? = some (.ok h)

theorem Pins.learns {m : Machine} {t : TaskId} {b b' : List Action} {a : Action} {h : BlockHead}
    (hp : m.Pins t b b' a h) : m.Learns t b b' a h := by
  obtain ⟨spec, q, index, k, d, -, -, hd, htold⟩ := hp
  exact ⟨d, _, _, hd, htold⟩

section Deals

variable {m : Machine} {t : TaskId} {b b' : List Action} {a : Action} {d : Told}
  {spec : MethodSpec} {q : Request} {index : Nat} {k : Normalized → Program} {p' : Program}
  (hindex : spec.blockParam = some index) (hq : q.AsksLatest index)
  (hd : m.Deals t b b' a d (.normalizing spec q k) p')

include hindex hq hd

theorem Deals.pins {h : BlockHead} (htold : d.latest? = some (.ok h)) :
    p' = k (.place q index h.number .latest) ∧ m.Pins t b b' a h := by
  have hd' := hd
  rw [Program.normalizing_of_asksLatest hindex hq] at hd'
  obtain ⟨r, htold', rfl⟩ := hd'.of_latest
  rw [htold] at htold'
  cases htold'
  exact ⟨rfl, spec, q, index, k, d, hindex, hq, hd, htold⟩

/-- A request for the latest block is pinned, or no head could be had for it. -/
theorem Deals.pins_or_error :
    (∃ h, p' = k (.place q index h.number .latest) ∧ m.Pins t b b' a h) ∨
      ∃ e, d.latest? = some (.error e) ∧ p' = k ⟨q, .latest⟩ := by
  have hd' := hd
  rw [Program.normalizing_of_asksLatest hindex hq] at hd'
  obtain ⟨r, htold, rfl⟩ := hd'.of_latest
  cases r with
  | ok h => exact .inl ⟨h, hd.pins hindex hq htold⟩
  | error e => exact .inr ⟨e, htold, rfl⟩

end Deals

end Machine

/-! ## Pinned to the tracked head -/

namespace Client

open Machine (Action TaskId Told)

/-- Both stages that pin do it by normalizing. Whoever normalizes a request for the latest block
pins it to a head, or goes on with the request as it is if no head could be had. The head is the
tracked one by number, unless a poll of the task's own lagged; and whoever takes up such a request
after another was pinned pins it to no lower number, with the same exception. -/
theorem latest_pinned_to_tracked_head (s : Settings) :
    (∀ {methods : MethodTable} {q : Request} {next : Request → Program} {f : Outcome → Program},
      ((methods.spec q.method).cache = .block → ∀ cache, ∃ k,
        ((Stage.blockCache methods cache).handle q next).bind f =
          .normalizing (methods.spec q.method) q k) ∧
      ((methods.spec q.method).blockParam ≠ none →
        ((Stage.blockRef methods).handle q next).bind f =
          .normalizing (methods.spec q.method) q fun n => (next n.request).bind f)) ∧
    (∀ {t b b' a d spec q index k p'}, spec.blockParam = some index → q.AsksLatest index →
      (start s).Deals t b b' a d (.normalizing spec q k) p' →
      (∃ h, p' = k (.place q index h.number .latest) ∧ (start s).Pins t b b' a h) ∨
        ∃ e, d.latest? = some (.error e) ∧ p' = k ⟨q, .latest⟩) ∧
    (∀ {t b b' a h}, (start s).Pins t b b' a h →
      ∃ current, ((start s).run (b' ++ [a])).tracker.head? = some current ∧
        (h.number = current.number ∨
          h.number < current.number ∧ ((start s).run b').Lags t h)) ∧
    ∀ {t₁ b₁ b₁' a₁ h₁ t₂ b₂ b₂' a₂ h₂}, (start s).Pins t₁ b₁ b₁' a₁ h₁ →
      (start s).Pins t₂ b₂ b₂' a₂ h₂ → b₁' ++ [a₁] <+: b₂ →
      h₁.number ≤ h₂.number ∨ ((start s).run b₂').Lags t₂ h₂ := by
  refine ⟨?stages, ?pinned, ?tracked, ?ordered⟩
  case stages =>
    intro methods q next f
    refine ⟨fun hcache cache => ?_, fun hparam => ?_⟩
    · obtain ⟨k, hk⟩ := Stage.exists_normalizing hcache cache next
      rw [hk]
      exact ⟨_, Program.normalizing_bind k f⟩
    · rw [Stage.blockRef_eq_normalizing hparam]
      exact Program.normalizing_bind _ f
  case pinned => exact fun hindex hq hd => hd.pins_or_error hindex hq
  case tracked => exact fun hp => hp.learns.tracked
  case ordered =>
    intro t₁ b₁ b₁' a₁ h₁ t₂ b₂ b₂' a₂ h₂ hp₁ hp₂ hlater
    exact hp₂.learns.le_of_knows (hp₁.learns.knows.of_isPrefix hlater)

/-! ### Reads one after the other -/

/-- A balance at the latest block, and what is known of its method. -/
def balanceNow : Request := ⟨.number 7, "eth_getBalance", [.string "0xaa", .string "latest"]⟩

def balances : MethodTable := [("eth_getBalance", { cache := .block, blockParam := some 1 })]

def readBalance : Program := (Work.dispatch balanceNow).program (stages balances .default)

theorem pins_of_readBalance {m : Machine} {t : TaskId} {b b' : List Action} {a : Action} {d : Told}
    {p' : Program} {h : BlockHead} (hd : m.Deals t b b' a d readBalance p')
    (htold : d.latest? = some (.ok h)) : m.Pins t b b' a h := by
  have hprogram : readBalance = Stage.pipeline (stages balances .default) balanceNow := rfl
  obtain ⟨k, hk⟩ : ∃ k, Stage.pipeline (stages balances .default) balanceNow =
      .normalizing (balances.spec balanceNow.method) balanceNow k :=
    Stage.exists_normalizing rfl 0 _
  rw [hprogram, hk] at hd
  exact (hd.pins rfl (.inr (.inr ⟨_, rfl, rfl⟩)) htold).2

/-- Callers who ask for the balance one after the other, each when the head has become stale, and
what the nodes answer that they poll for it. -/
def reads (heads : List BlockHead) : List Action :=
  heads.zipIdx.flatMap fun (head, t) =>
    [.pass (.ofSeconds 20), .launch readBalance, .step t, .step t, .answer t (.ok head.toJson),
      .step t]

/-- The second of three nodes lags behind. -/
def laggingReads : List Action := reads [⟨100, .ofNat 100⟩, ⟨99, .ofNat 99⟩, ⟨101, .ofNat 101⟩]

/-- The first read is pinned to the tracked head, and the third no lower than the first. -/
theorem latest_pinned_to_tracked_head_of_reads :
    (∃ current,
      ((start .default).run (laggingReads.take 5 ++ [.step 0])).tracker.head? = some current ∧
      (100 = current.number ∨ 100 < current.number ∧
        ((start .default).run (laggingReads.take 5)).Lags 0 ⟨100, .ofNat 100⟩)) ∧
    (100 ≤ 101 ∨ ((start .default).run (laggingReads.take 17)).Lags 2 ⟨101, .ofNat 101⟩) := by
  have hp₁ : (start .default).Pins 0 (laggingReads.take 2) (laggingReads.take 5) (.step 0)
      ⟨100, .ofNat 100⟩ :=
    pins_of_readBalance (.report rfl ⟨⟨[], rfl⟩, ⟨_, rfl, .seeking rfl⟩, rfl, ⟨[_], rfl⟩⟩ rfl) rfl
  have hp₃ : (start .default).Pins 2 (laggingReads.take 14) (laggingReads.take 17) (.step 2)
      ⟨101, .ofNat 101⟩ :=
    pins_of_readBalance (.report rfl ⟨⟨[], rfl⟩, ⟨_, rfl, .seeking rfl⟩, rfl, ⟨[_], rfl⟩⟩ rfl) rfl
  have h := latest_pinned_to_tracked_head .default
  exact ⟨h.2.2.1 hp₁, h.2.2.2 hp₁ hp₃ ⟨_, rfl⟩⟩

/-- The second read is pinned below the tracked head, which is the one that the first was pinned
to. -/
theorem second_of_laggingReads :
    (start .default).Pins 0 (laggingReads.take 2) (laggingReads.take 5) (.step 0)
        ⟨100, .ofNat 100⟩ ∧
      (start .default).Pins 1 (laggingReads.take 8) (laggingReads.take 11) (.step 1)
        ⟨99, .ofNat 99⟩ ∧
      laggingReads.take 6 <+: laggingReads.take 8 ∧
      ((start .default).run (laggingReads.take 12)).tracker.head? = some ⟨100, .ofNat 100⟩ :=
  ⟨pins_of_readBalance (.report rfl ⟨⟨[], rfl⟩, ⟨_, rfl, .seeking rfl⟩, rfl, ⟨[_], rfl⟩⟩ rfl) rfl,
    pins_of_readBalance (.report rfl ⟨⟨[], rfl⟩, ⟨_, rfl, .seeking rfl⟩, rfl, ⟨[_], rfl⟩⟩ rfl) rfl,
    ⟨_, rfl⟩, rfl⟩

end Client

end EthRpc
