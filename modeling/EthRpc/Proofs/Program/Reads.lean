-- SUMMARY: Programs that read through a cache: they look for a key, share a run if it is missing, and keep what comes back.
import EthRpc.Proofs.Stage.Bounds

/-!
# Reading through a cache

A read looks for its key once. If the key is there, it returns what it found. If
not, it shares a run under the same key, and with the outcome of the run it can
only write the value into the cache and return it. It sends nothing itself.
-/

namespace EthRpc.Program

/-- A program has nothing left to do but to return an outcome, maybe after it has written the value
under a key. -/
inductive Concludes (key : String) (r : Outcome) : Program → Prop where
  | returns : Concludes key r (.done r)
  | keeps {v : Json} {k : Unit → Program} :
      r = .ok v → (∀ u, k u = .done r) → Concludes key r (.ask (.keep 0 key v) k)

/-- A program shares a run under a key and concludes with its outcome. -/
inductive Fetches (key : String) : Program → Prop where
  | shares {run : Program} {k : Outcome → Program} :
      (∀ r, (k r).Concludes key r) → Fetches key (.share 0 key run k)

/-- A program comes to fetch a value, and looks for it in the cache before that, if at all. -/
inductive Reads : Program → Prop where
  | asks {c : Command} {k : c.Reply → Program} :
      c.IsMinor ∨ c = .freshId → (∀ a, (k a).Reads) → Reads (.ask c k)
  | looks {key : String} {k : Option Json → Program} :
      (∀ v, k (some v) = .done (.ok v)) → (k none).Fetches key → Reads (.ask (.lookup 0 key) k)
  | fetches {key : String} {p : Program} : p.Fetches key → Reads p
  | concludes {key : String} {r : Outcome} {p : Program} : p.Concludes key r → Reads p

/-- A program does not look for its key any more. -/
inductive Late : Program → Prop where
  | shares {i : Nat} {key : String} {run : Program} {k : Outcome → Program} :
      (∀ r, ∃ key, (k r).Concludes key r) → Late (.share i key run k)
  | concludes {key : String} {r : Outcome} {p : Program} : p.Concludes key r → Late p

/-- A program may start some runs, and looks for its key before that, if at all. Before the lookup
it asks for the head at most so many times and sends nothing itself. -/
inductive Consults (S : Nat → String → Program → Prop) : Nat → Program → Prop where
  | asksId {n : Nat} {k : Nat → Program} :
      (∀ a, (k a).Consults S n) → Consults S n (.ask .freshId k)
  | asksHead {n : Nat} {k : Except RpcError BlockHead → Program} :
      (∀ a, (k a).Consults S n) → Consults S (n + 1) (.ask (.query .latest) k)
  | looks {n : Nat} {key : String} {k : Option Json → Program} :
      (∀ v, k (some v) = .done (.ok v)) →
      (∃ key' run f, k none = .share 0 key' run f ∧ S 0 key' run) → (k none).Late →
      Consults S n (.ask (.lookup 0 key) k)
  | late {n : Nat} {p : Program} : p.Late → Consults S n p

section Goes

variable {key : String} {r : Outcome} {p p' : Program}

theorem Concludes.goes (h : p.Goes p') (hp : p.Concludes key r) : p' = .done r := by
  cases h with
  | reply a =>
    cases hp with
    | keeps _ hk => exact hk a
  | outcome => cases hp

theorem Concludes.of_goes (h : p.Goes p') (hp : p.Concludes key r) : p'.Concludes key r := by
  rw [hp.goes h]
  exact .returns

theorem Fetches.goes (h : p.Goes p') (hp : p.Fetches key) : ∃ r, p'.Concludes key r := by
  cases hp with
  | shares hk =>
    cases h with
    | outcome r => exact ⟨r, hk r⟩

theorem Late.of_goes (h : p.Goes p') (hp : p.Late) : p'.Late := by
  cases hp with
  | shares hk =>
    cases h with
    | outcome r => exact .concludes (hk r).choose_spec
  | concludes hp => exact .concludes (hp.of_goes h)

theorem Reads.of_goes (h : p.Goes p') (hp : p.Reads) : p'.Reads := by
  cases hp with
  | asks _ hk =>
    cases h with
    | reply a => exact hk a
  | looks hfound hmissing =>
    cases h with
    | reply found =>
      cases found with
      | some v =>
        rw [hfound v]
        exact .concludes (.returns : Concludes "" _ _)
      | none => exact .fetches hmissing
  | fetches hp =>
    obtain ⟨r, hr⟩ := hp.goes h
    exact .concludes hr
  | concludes hp => exact .concludes (hp.of_goes h)

theorem Consults.of_goes {S : Nat → String → Program → Prop} (h : p.Goes p')
    (hp : ∃ n, p.Consults S n) : ∃ n, p'.Consults S n := by
  obtain ⟨n, hp⟩ := hp
  cases hp with
  | asksId hk =>
    cases h with
    | reply a => exact ⟨n, hk a⟩
  | asksHead hk =>
    cases h with
    | reply a => exact ⟨_, hk a⟩
  | looks hfound _ hlate =>
    cases h with
    | reply found =>
      cases found with
      | some v =>
        rw [hfound v]
        exact ⟨0, .late (.concludes (.returns : Concludes "" _ _))⟩
      | none => exact ⟨0, .late hlate⟩
  | late hp => exact ⟨0, .late (hp.of_goes h)⟩

end Goes

/-! ## Reading a read -/

section Reads

variable {i : Nat} {key : String}

theorem Reads.of_lookup {k : Option Json → Program} (h : (ask (.lookup i key) k).Reads) :
    i = 0 ∧ (∀ v, k (some v) = .done (.ok v)) ∧ (k none).Fetches key := by
  cases h with
  | asks hc _ => rcases hc with hc | hc <;> cases hc
  | looks hfound hmissing => exact ⟨rfl, hfound, hmissing⟩
  | fetches h => cases h
  | concludes h => cases h

theorem Reads.of_share {run : Program} {k : Outcome → Program} (h : (share i key run k).Reads) :
    i = 0 ∧ ∀ r, (k r).Concludes key r := by
  cases h with
  | fetches h =>
    cases h with
    | shares hk => exact ⟨rfl, hk⟩
  | concludes h => cases h

theorem Reads.not_send {q : Request} {k : Outcome → Program} (h : (ask (.send q) k).Reads) :
    False := by
  cases h with
  | asks hc _ => rcases hc with hc | hc <;> cases hc
  | fetches h => cases h
  | concludes h => cases h

theorem Reads.late_of_share {run : Program} {k : Outcome → Program}
    (h : (share i key run k).Reads) : (share i key run k).Late := by
  exact .shares fun r => ⟨key, h.of_share.2 r⟩

theorem Reads.late_of_keep {v : Json} {k : Unit → Program} (h : (ask (.keep i key v) k).Reads) :
    (ask (.keep i key v) k).Late := by
  cases h with
  | asks hc _ => rcases hc with hc | hc <;> cases hc
  | fetches h => cases h
  | concludes h => exact .concludes h

theorem Late.not_lookup {k : Option Json → Program} (h : (ask (.lookup i key) k).Late) : False := by
  cases h with
  | concludes h => cases h

/-- What is found is returned, and otherwise a run is shared. -/
theorem Consults.of_lookup {S : Nat → String → Program → Prop} {n : Nat} {k : Option Json → Program}
    (h : (ask (.lookup i key) k).Consults S n) :
    i = 0 ∧ (∀ v, k (some v) = .done (.ok v)) ∧
      (∃ key' run f, k none = .share 0 key' run f ∧ S 0 key' run) ∧ (k none).Late := by
  cases h with
  | looks hfound hmissing hlate => exact ⟨rfl, hfound, hmissing, hlate⟩
  | late h => exact h.not_lookup.elim

theorem Consults.late_of_share {S : Nat → String → Program → Prop} {n : Nat} {run : Program}
    {k : Outcome → Program} (h : (share i key run k).Consults S n) : (share i key run k).Late := by
  cases h with
  | late h => exact h

end Reads

/-! ## The cache is read through -/

/-- What a read of a cache does with the outcome of a run that it shared for its key. -/
def concluding (spec : MethodSpec) (key : String) : Outcome → Program
  | .ok v =>
    if storable spec v then .ask (.keep 0 key v) fun _ => .done (.ok v) else .done (.ok v)
  | .error e => .done (.error e)

theorem concluding_concludes (spec : MethodSpec) (key : String) (r : Outcome) :
    (concluding spec key r).Concludes key r := by
  cases r with
  | error e => exact .returns
  | ok v =>
    dsimp only [concluding]
    split
    · exact .keeps rfl fun _ => rfl
    · exact .returns

/-- A read of a cache before a stage that shares runs. -/
theorem cached_eq {spec : MethodSpec} {key key' : String} {q : Request} {run : Program}
    {next : Request → Program} (hnext : next q = .share 0 key' run .done) :
    cached 0 spec key q next = .ask (.lookup 0 key) fun
      | some v => .done (.ok v)
      | none => .share 0 key' run (concluding spec key) := by
  simp only [cached, hnext]
  congr 1
  funext found
  cases found <;> rfl

/-- The run is shared under the key that was looked for. -/
theorem cached_reads {spec : MethodSpec} {key : String} {q : Request} {run : Program}
    {next : Request → Program} (hnext : next q = .share 0 key run .done) :
    (cached 0 spec key q next).Reads := by
  rw [cached_eq hnext]
  exact .looks (fun _ => rfl) (.shares (concluding_concludes spec key))

/-- The run is shared under any key. -/
theorem cached_consults {S : Nat → String → Program → Prop} {spec : MethodSpec} {key key' : String}
    {q : Request} {run : Program} {next : Request → Program} {n : Nat}
    (hnext : next q = .share 0 key' run .done) (hrun : S 0 key' run) :
    (cached 0 spec key q next).Consults S n := by
  rw [cached_eq hnext]
  exact .looks (fun _ => rfl) ⟨_, _, _, rfl, hrun⟩
    (.shares fun r => ⟨key, concluding_concludes spec key r⟩)

end EthRpc.Program
