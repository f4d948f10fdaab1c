-- SUMMARY: What the cache of a client may hold: answers of the endpoint, under the fingerprint of what was asked.
import EthRpc.Proofs.Client.Obedience

/-!
# The contents of the cache

The key of a value is made before the request is sent, and the value comes back
through a run that may have been started by another caller and that settles the
block parameter once more. Nevertheless a value that holds for ever is kept under
the fingerprint of the very request that the endpoint answered by it.
-/

namespace EthRpc

/-! ## What may be kept -/

section Storable

variable {spec : MethodSpec} {v : Json}

theorem Program.isEmptyResult_of_storable (h : storable spec v) : v.isEmptyResult = false := by
  simp only [storable, Bool.and_eq_true, Bool.not_eq_true'] at h
  exact h.1

theorem Program.ne_null_of_storable (h : storable spec v) : v ≠ .null := by
  rintro rfl
  cases isEmptyResult_of_storable h

theorem Program.ne_nil_of_storable (h : storable spec v) : v ≠ .string "<nil>" := by
  rintro rfl
  cases isEmptyResult_of_storable h

theorem Program.blockHash_of_storable (h : storable spec v) (hrequired : spec.requireBlockHash) :
    ∃ members hash, v = .object members ∧ Dict.get? "blockHash" members = some hash ∧
      hash ≠ .null := by
  simp only [storable, hrequired, Bool.and_eq_true, Bool.not_true, Bool.false_or] at h
  obtain ⟨hash, hget, hnull⟩ := (Option.any_eq_true _ _).1 h.2
  cases v with
  | object members =>
    refine ⟨members, hash, rfl, hget, ?_⟩
    rintro rfl
    cases hnull
  | _ => cases hget

end Storable

/-- A parameter names one block for ever, by its number or its hash. -/
def Request.FixesBlock (q : Request) (index : Nat) : Prop :=
  ∃ p, q.param? index = some p ∧
    ((∃ n, BlockRef.ofJson? p = some (.number n)) ∨ ∃ h, BlockRef.ofJson? p = some (.hash h))

theorem BlockParam.fixesBlock {spec : MethodSpec} {q : Request} {index : Nat}
    (hindex : spec.blockParam = some index)
    (h : classify spec q = .absent ∨ (classify spec q).isConcrete) : q.FixesBlock index := by
  have hclass := classifies hindex q
  generalize classify spec q = block at h hclass
  generalize hparam : q.param? index = param at hclass
  cases hclass with
  | number hr => exact ⟨_, hparam, .inl ⟨_, hr⟩⟩
  | hash hr => exact ⟨_, hparam, .inr ⟨_, hr⟩⟩
  | _ => simp [isConcrete] at h

/-! ## Reachable caches -/

namespace Client

open Machine (Action TaskId)

/-- A value that was kept for a request is an answer of the endpoint that says something, and it
was given to the request of its key, if it holds for ever. -/
structure Genuine (m : Machine) (methods : MethodTable) (r : Request) (key : String) (v : Json) :
    Prop where
  cache : (methods.spec r.method).cache ≠ .never
  ne_null : v ≠ .null
  ne_nil : v ≠ .string "<nil>"
  blockHash : (methods.spec r.method).requireBlockHash → ∃ members hash,
    v = .object members ∧ Dict.get? "blockHash" members = some hash ∧ hash ≠ .null
  answered : ∃ q, m.Exchanged q (.ok v) ∧ q.method = r.method ∧
    ((methods.spec r.method).cache = .permanent ∨ (methods.spec r.method).cache = .block →
      key = q.fingerprint) ∧
    ∀ index, (methods.spec r.method).cache = .block →
      (methods.spec r.method).blockParam = some index → q.FixesBlock index

theorem genuine_of_keeps {m : Machine} {methods : MethodTable} (htimeless : methods.Timeless)
    {r : Request} {key : String} {v : Json} (h : m.upstream.Keeps methods r key v) :
    Genuine m methods r key v := by
  obtain ⟨hstorable, q, hserves, hkeyed⟩ := h
  have hexchanged : m.Exchanged q (.ok v) := hserves.answered
  constructor
  case cache =>
    intro hnever
    cases hkeyed <;> simp_all
  case ne_null => exact Program.ne_null_of_storable hstorable
  case ne_nil => exact Program.ne_nil_of_storable hstorable
  case blockHash => exact Program.blockHash_of_storable hstorable
  case answered =>
    refine ⟨q, hexchanged, hserves.method, ?_⟩
    cases hkeyed with
    | permanent hcache =>
      -- There is no parameter to pin, so what was asked is what was sent.
      have hparams : q.params = r.params := by
        rcases hserves.pinned with hsame | ⟨index, n, hindex, -⟩
        · exact hsame
        · rw [htimeless.blockParam _ hcache] at hindex
          cases hindex
      refine ⟨fun _ => Request.fingerprint_congr hserves.method.symm hparams.symm, ?_⟩
      intro index hblock
      rw [hcache] at hblock
      cases hblock
    | block hcache hfixed =>
      exact ⟨fun _ => rfl, fun index _ hindex => BlockParam.fixesBlock hindex hfixed⟩
    | head hcache => simp [hcache]

/-- Whatever goes on in a client, its cache is within its bound and holds only what was stored, and
what a task at some work stored was genuine for a request of the work. The table may be any that is
plain and timeless, such as the one of the known methods. -/
theorem cache_contents :
    (MethodTable.builtin.Plain ∧ MethodTable.builtin.Timeless) ∧
    ∀ {methods : MethodTable} {s : Settings} {actions : List Action}, methods.Plain →
      methods.Timeless → Serves methods s actions →
      let m := (start s).run actions
      (∃ cache, m.caches[0]? = some cache ∧ cache.length ≤ s.cacheCapacity ∧
        ∀ key v, (key, v) ∈ cache.entries → ∃ t, m.Stored t 0 key v) ∧
      ∀ t i key v, m.Stored t i key v →
        (∃ w, Employs methods s actions t w) ∧
        ∀ w, Employs methods s actions t w → ∃ r, w.Handles r ∧ Genuine m methods r key v := by
  refine ⟨⟨MethodTable.plain_builtin, MethodTable.timeless_builtin⟩, ?_⟩
  intro methods s actions hplain htimeless hserves m
  refine ⟨?bounded, ?genuine⟩
  case bounded =>
    have hbacked : m.Backed := (Machine.backed_start _ _ _).run actions
    obtain ⟨cache, hcache, hcapacity⟩ := exists_cache s actions
    refine ⟨cache, hcache, ?_, fun key v hmem => hbacked.stored hcache hmem⟩
    rw [← hcapacity]
    exact hbacked.within hcache
  case genuine =>
    intro t i key v hstored
    obtain ⟨hw, hkeeps⟩ := (obedient hplain hserves).stored hstored
    refine ⟨hw, fun w hemploys => ?_⟩
    obtain ⟨-, r, hr, hkept⟩ := hkeeps w hemploys
    exact ⟨r, hr, genuine_of_keeps htimeless hkept⟩

/-- The code of an account at block one, which is asked for in digits that are not the shortest. -/
theorem cache_contents_of_code :
    let methods : MethodTable := [("eth_getCode", { cache := .block, blockParam := some 1 })]
    let w : Work := .dispatch ⟨.number 7, "eth_getCode", [.string "0xaa", .string "0x01"]⟩
    let m := (start Settings.default).run
      [.launch (w.program (stages methods Settings.default.retry)), .step 0, .step 0, .step 1,
        .answer 1 (.ok (.string "0x60")), .step 1, .step 1, .step 0]
    ∃ r, w.Handles r ∧
      Genuine m methods r "eth_getCode:[\"0xaa\",\"0x1\"]" (.string "0x60") := by
  dsimp only
  refine (cache_contents.2 ?plain ?timeless ?serves).2 0 0 _ _ ⟨0, ?stored⟩ |>.2 _ ?employs
  case plain => decide
  case timeless => decide
  case serves =>
    intro p hp
    simp only [List.mem_cons, List.not_mem_nil, or_false, reduceCtorEq] at hp
    exact ⟨_, (Action.launch.inj hp).symm⟩
  case employs => exact ⟨[], _, rfl, rfl⟩
  case stored => exact List.mem_of_mem_head? rfl

end Client

end EthRpc
