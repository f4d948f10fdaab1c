-- SUMMARY: What the cache holds under a key is an answer to every request with this key.
import EthRpc.Proofs.Method.Table
import EthRpc.Proofs.Rpc.Fingerprint
import EthRpc.Proofs.Stage.Relays
import EthRpc.Stage.BlockCache

/-!
# The block cache

A value is kept with the request that the endpoint answered by it. The key tells
apart all that the answer depends on: fingerprints tell requests apart, and the
number in front of a fingerprint is told from the name of a method by the sign
between them, which no name in the table has.
-/

namespace EthRpc

/-! ## Keys -/

/-- Two texts are split at the first place of a sign that is not in front of it. -/
theorem eq_of_append_cons_eq {α : Type} {as bs as' bs' : List α} {x y : α}
    (h : as ++ x :: bs = as' ++ y :: bs') (hx : x ∉ as') (hy : y ∉ as) :
    as = as' ∧ x = y ∧ bs = bs' := by
  rcases List.append_eq_append_iff.1 h with ⟨zs, rfl, hrest⟩ | ⟨zs, rfl, hrest⟩
  · cases zs with
    | nil =>
      cases hrest
      simp
    | cons z zs =>
      cases hrest
      simp at hx
  · cases zs with
    | nil =>
      cases hrest
      simp
    | cons z zs =>
      cases hrest
      simp at hy

theorem Quantity.not_mem_text {c : Char} (hx : c ≠ 'x') (hdigit : ∀ d < 16, c ≠ Nat.digitChar d)
    (n : Nat) : c ∉ (text n).toList := by
  intro h
  rcases exists_digit_of_mem_text h with rfl | ⟨d, hd, rfl⟩
  · exact hx rfl
  · exact hdigit d hd rfl

namespace Request

theorem fingerprint_congr {q q' : Request} (hmethod : q.method = q'.method)
    (hparams : q.params = q'.params) : q.fingerprint = q'.fingerprint := by
  simp only [fingerprint, hmethod, hparams]

theorem toList_headKey (q : Request) (n : Nat) :
    (q.headKey n).toList = (Quantity.text n).toList ++ '@' :: q.fingerprint.toList := by
  simp [headKey]

/-- A key with a head tells both the head and the request. -/
theorem eq_of_headKey_eq {q q' : Request} {n n' : Nat} (h : q.headKey n = q'.headKey n') :
    n = n' ∧ q.fingerprint = q'.fingerprint := by
  have hat := Quantity.not_mem_text (c := '@') (by decide) (by decide)
  have hlist := congrArg String.toList h
  rw [toList_headKey, toList_headKey] at hlist
  obtain ⟨htext, -, hfingerprint⟩ := eq_of_append_cons_eq hlist (hat n') (hat n)
  exact ⟨Quantity.text_injective (String.toList_injective htext),
    String.toList_injective hfingerprint⟩

/-- A key with a head is no fingerprint of a method without the sign. -/
theorem headKey_ne_fingerprint {q q' : Request} {n : Nat} (hname : '@' ∉ q'.method.toList) :
    q.headKey n ≠ q'.fingerprint := by
  intro h
  have hcolon := Quantity.not_mem_text (c := ':') (by decide) (by decide) n
  have hlist := congrArg String.toList h
  rw [toList_headKey, toList_fingerprint q'] at hlist
  obtain ⟨-, hsign, -⟩ := eq_of_append_cons_eq hlist hname hcolon
  cases hsign

end Request

/-! ## What is kept -/

/-- A request that the endpoint answered, for another one, or for this. -/
structure Upstream.Serves (u : Upstream) (methods : MethodTable) (r q : Request) (v : Json) :
    Prop where
  answered : u.answered q v
  method : q.method = r.method
  pinned : Pinned u.reported (methods.spec r.method) r.params q.params

/-- A value is an answer to a request or to one that was pinned for it. -/
def Upstream.Answers (u : Upstream) (methods : MethodTable) (r : Request) (v : Json) : Prop :=
  ∃ q, u.Serves methods r q v

/-- The key under which an answer is kept, for what was asked and what the endpoint answered. -/
inductive Upstream.Keyed (u : Upstream) (spec : MethodSpec) (r q : Request) : String → Prop where
  | permanent : spec.cache = .permanent → Keyed u spec r q r.fingerprint
  | block : spec.cache = .block →
      BlockParam.classify spec q = .absent ∨ (BlockParam.classify spec q).isConcrete →
      Keyed u spec r q q.fingerprint
  | head {h : BlockHead} : spec.cache = .head → u.reported h →
      Keyed u spec r q (r.headKey h.number)

/-- What is kept for a request under a key. -/
def Upstream.Keeps (u : Upstream) (methods : MethodTable) (r : Request) (key : String) (v : Json) :
    Prop :=
  Program.storable (methods.spec r.method) v ∧
    ∃ q, u.Serves methods r q v ∧ u.Keyed (methods.spec r.method) r q key

/-- What a shared run returns to all who ask for its fingerprint. -/
def Upstream.Shares (u : Upstream) (methods : MethodTable) (key : String) (v : Json) : Prop :=
  ∃ q n, q.fingerprint = key ∧ Normalized.Normalizes u.reported (methods.spec q.method) q n ∧
    u.answered n.request v

/-- What the programs of a client may learn. -/
def Upstream.facts (u : Upstream) (methods : MethodTable) : Facts where
  toUpstream := u
  cached _ key v := ∃ r, u.Keeps methods r key v
  shared _ key v := u.Shares methods key v

/-! ## What comes back -/

section Answers

variable {u : Upstream} {methods : MethodTable} {r : Request} {v : Json}
  (hheads : ∀ h, u.reported h → h.number < 1 <<< 64)

include hheads

theorem Upstream.Shares.answers (h : u.Shares methods r.fingerprint v) :
    u.Answers methods r v := by
  obtain ⟨q, n, hkey, hnormalizes, hanswered⟩ := h
  obtain ⟨hmethod, hparams⟩ := Request.eq_of_fingerprint_eq hkey
  have hnormal := Normalized.normal_of_normalizes hheads hnormalizes
  refine ⟨n.request, hanswered, hnormal.method.trans hmethod, ?_⟩
  rw [← hmethod, ← hparams]
  exact hnormal.pinned

omit hheads in
/-- A shared run asks the endpoint for a settled request as it is. -/
theorem Upstream.Shares.settled {block : BlockParam} (h : u.Shares methods r.fingerprint v)
    (hsettled : Normalized.Settled (methods.spec r.method) r.params block) :
    ∃ q, u.answered q v ∧ q.method = r.method ∧ q.params = r.params ∧
      BlockParam.classify (methods.spec r.method) q = block := by
  obtain ⟨q, n, hkey, hnormalizes, hanswered⟩ := h
  obtain ⟨hmethod, hparams⟩ := Request.eq_of_fingerprint_eq hkey
  rw [← hmethod] at hsettled ⊢
  obtain ⟨hclassify, hplan⟩ := hsettled q hparams
  rw [Normalized.eq_of_normalizes hplan hnormalizes] at hanswered
  exact ⟨q, hanswered, rfl, hparams, hclassify⟩

end Answers

/-- What is kept under the fingerprint of a request is an answer to all that are pinned to it. -/
theorem Upstream.Keeps.answers_of_fingerprint {u : Upstream} {methods : MethodTable}
    {r r' q : Request} {v : Json} (h : u.Keeps methods r' q.fingerprint v)
    (hname : '@' ∉ q.method.toList) (hmethod : q.method = r.method)
    (hpinned : Pinned u.reported (methods.spec r.method) r.params q.params)
    (hself : (methods.spec r.method).cache = .permanent → q.params = r.params) :
    u.Answers methods r v := by
  obtain ⟨-, q', hserves, hkeyed⟩ := h
  generalize hkey : q.fingerprint = key at hkeyed
  cases hkeyed with
  | permanent hcache =>
    obtain ⟨hmethod', hparams⟩ := Request.eq_of_fingerprint_eq hkey
    have hsame : r'.method = r.method := hmethod'.symm.trans hmethod
    rw [hsame] at hcache
    refine ⟨q', hserves.answered, hserves.method.trans hsame, ?_⟩
    rw [← hself hcache, hparams, ← hsame]
    exact hserves.pinned
  | block =>
    obtain ⟨hmethod', hparams⟩ := Request.eq_of_fingerprint_eq hkey
    refine ⟨q', hserves.answered, hmethod'.symm.trans hmethod, ?_⟩
    rw [← hparams]
    exact hpinned
  | head => exact absurd hkey.symm (Request.headKey_ne_fingerprint hname)

/-- What is kept for a head is an answer to the request that it is kept for. -/
theorem Upstream.Keeps.answers_of_headKey {u : Upstream} {methods : MethodTable} {r r' : Request}
    {n : Nat} {v : Json} (hplain : methods.Plain) (h : u.Keeps methods r' (r.headKey n) v) :
    u.Answers methods r v := by
  obtain ⟨-, q, hserves, hkeyed⟩ := h
  generalize hkey : r.headKey n = key at hkeyed
  cases hkeyed with
  | permanent hcache =>
    have hname := hplain.not_mem r'.method (by simp [hcache])
    exact absurd hkey (Request.headKey_ne_fingerprint hname)
  | block hcache =>
    have hname := hplain.not_mem r'.method (by simp [hcache])
    rw [← hserves.method] at hname
    exact absurd hkey (Request.headKey_ne_fingerprint hname)
  | head =>
    obtain ⟨hmethod, hparams⟩ := Request.eq_of_fingerprint_eq (Request.eq_of_headKey_eq hkey).2
    refine ⟨q, hserves.answered, hserves.method.trans hmethod.symm, ?_⟩
    rw [hmethod, hparams]
    exact hserves.pinned

/-! ## The stage -/

namespace Program

/-- What is not found is asked for and kept. -/
theorem cached_obeys {F : Facts} {P : Pledge} {cache : Nat} {spec : MethodSpec} {key : String}
    {q : Request} {next : Request → Program} {R : Json → Prop}
    (hcached : ∀ v, F.cached cache key v → P.returns v)
    (hnext : (next q).Obeys F (P.returning R))
    (hkeeps : ∀ v, R v → storable spec v → P.keeps cache key v)
    (hreturns : ∀ v, R v → P.returns v) : (cached cache spec key q next).Obeys F P := by
  refine ⟨trivial, ?_⟩
  intro found hfound
  cases found with
  | some v => exact .ok (hcached v (hfound v rfl))
  | none =>
    refine .andThen hnext ?_
    intro v hv
    split
    next hstorable => exact ⟨hkeeps v hv hstorable, fun _ _ => .ok (hreturns v hv)⟩
    next => exact .ok (hreturns v hv)

end Program

section BlockCache

variable {u : Upstream} {methods : MethodTable} {P : Pledge} {r : Request}
  {next : Request → Program} (hheads : ∀ h, u.reported h → h.number < 1 <<< 64)
  (hnext : ∀ q, (next q).Obeys (u.facts methods) (P.returning (u.Shares methods q.fingerprint)))
  (hkeeps : ∀ key v, u.Keeps methods r key v → P.keeps 0 key v)
  (hreturns : ∀ v, u.Answers methods r v → P.returns v)

include hheads hnext hreturns

theorem Stage.next_obeys : (next r).Obeys (u.facts methods) P :=
  (hnext r).returning fun v hv => hreturns v (hv.answers hheads)

include hkeeps

/-- A request whose answer may be kept for ever. -/
theorem Stage.blockCache_obeys_permanent (hplain : methods.Plain)
    (hcache : (methods.spec r.method).cache = .permanent) :
    (Program.cached 0 (methods.spec r.method) r.fingerprint r next).Obeys (u.facts methods) P := by
  have hname := hplain.not_mem r.method (by simp [hcache])
  refine Program.cached_obeys (R := u.Shares methods r.fingerprint) ?_ (hnext r) ?_ ?_
  · rintro v ⟨r', hkept⟩
    exact hreturns v (hkept.answers_of_fingerprint hname rfl (.inl rfl) fun _ => rfl)
  · intro v hv hstorable
    obtain ⟨q, hserves⟩ := hv.answers hheads
    exact hkeeps _ v ⟨hstorable, q, hserves, .permanent hcache⟩
  · exact fun v hv => hreturns v (hv.answers hheads)

omit hheads in
/-- A request whose block is settled; the run below settles it in the same way. -/
theorem Stage.blockCache_obeys_settled (hplain : methods.Plain)
    (hcache : (methods.spec r.method).cache = .block) {n : Normalized}
    (hn : Normalized.Normal u.reported (methods.spec r.method) r n)
    (hblock : n.block = .absent ∨ n.block.isConcrete) :
    (Program.cached 0 (methods.spec r.method) n.request.fingerprint n.request next).Obeys
      (u.facts methods) P := by
  have hname := hplain.not_mem r.method (by simp [hcache])
  rw [← hn.method] at hname
  have hserves : ∀ v, u.Shares methods n.request.fingerprint v → ∃ q,
      u.Serves methods r q v ∧ q.fingerprint = n.request.fingerprint ∧
        BlockParam.classify (methods.spec r.method) q = n.block := by
    intro v hv
    have hsettled := hn.settled hblock
    rw [← hn.method] at hsettled ⊢
    obtain ⟨q, hanswered, hmethod, hparams, hclassify⟩ := hv.settled hsettled
    refine ⟨q, ⟨hanswered, hmethod.trans hn.method, ?_⟩,
      Request.fingerprint_congr hmethod hparams, hclassify⟩
    rw [hparams]
    exact hn.pinned
  refine Program.cached_obeys (R := u.Shares methods n.request.fingerprint) ?_ (hnext _) ?_ ?_
  · rintro v ⟨r', hkept⟩
    refine hreturns v (hkept.answers_of_fingerprint hname hn.method hn.pinned ?_)
    intro hpermanent
    rw [hcache] at hpermanent
    cases hpermanent
  · intro v hv hstorable
    obtain ⟨q, hq, hkey, hclassify⟩ := hserves v hv
    refine hkeeps _ v ⟨hstorable, q, hq, ?_⟩
    rw [← hkey]
    exact .block hcache (by rwa [hclassify])
  · intro v hv
    obtain ⟨q, hq, -⟩ := hserves v hv
    exact hreturns v ⟨q, hq⟩

/-- A request whose answer holds until the head moves. -/
theorem Stage.blockCache_obeys_head (hplain : methods.Plain)
    (hcache : (methods.spec r.method).cache = .head) {h : BlockHead} (hh : u.reported h) :
    (Program.cached 0 (methods.spec r.method) (r.headKey h.number) r next).Obeys
      (u.facts methods) P := by
  refine Program.cached_obeys (R := u.Shares methods r.fingerprint) ?_ (hnext r) ?_ ?_
  · rintro v ⟨r', hkept⟩
    exact hreturns v (hkept.answers_of_headKey hplain)
  · intro v hv hstorable
    obtain ⟨q, hserves⟩ := hv.answers hheads
    exact hkeeps _ v ⟨hstorable, q, hserves, .head hcache hh⟩
  · exact fun v hv => hreturns v (hv.answers hheads)

/-- Whatever the method, the cache keeps and returns only answers to the request. -/
theorem Stage.blockCache_obeys (hplain : methods.Plain) :
    ((Stage.blockCache methods 0).handle r next).Obeys (u.facts methods) P := by
  have hbelow := Stage.next_obeys hheads hnext hreturns
  simp only [Stage.blockCache]
  cases hcache : (methods.spec r.method).cache with
  | never => exact hbelow
  | permanent => exact blockCache_obeys_permanent hheads hnext hkeeps hreturns hplain hcache
  | block =>
    refine Program.normalizing_obeys fun n hnormalizes => ?_
    have hn := Normalized.normal_of_normalizes hheads hnormalizes
    have hsettled := blockCache_obeys_settled hnext hkeeps hreturns hplain hcache hn
    cases hblock : n.block with
    | absent => exact hsettled (.inl hblock)
    | concrete ref => exact hsettled (.inr (by simp [hblock, BlockParam.isConcrete]))
    | _ =>
      have hkept : n.request = r := hn.kept (by simp [hblock, BlockParam.isConcrete])
      rw [hkept]
      exact hbelow
  | head =>
    refine ⟨trivial, ?_⟩
    intro a ha
    cases a with
    | ok h => exact blockCache_obeys_head hheads hnext hkeeps hreturns hplain hcache (ha h rfl)
    | error e => exact hbelow

end BlockCache

end EthRpc
