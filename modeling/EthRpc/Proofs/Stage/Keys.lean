-- SUMMARY: The keys that the cache uses for a request, and that no two different requests have the same one.
import EthRpc.Proofs.Stage.BlockCache
import EthRpc.Proofs.Stage.Bounds

/-!
# Keys

The cache uses a key for what it asks below: a request as it is, a request with
its block settled, or a request at a head. The method of a request is not quoted
in its key, and neither is the number of a head. Still a key can be read in one
way only, whatever the methods and parameters.
-/

namespace EthRpc

/-! ## What a program comes to -/

namespace Program

/-- The program gives this command if it gets the right replies. -/
inductive Reaches : Program → Command → Prop where
  | here {c : Command} {k : c.Reply → Program} : Reaches (.ask c k) c
  | reply {c c' : Command} {k : c.Reply → Program} (a : c.Reply) :
      Reaches (k a) c' → Reaches (.ask c k) c'
  | outcome {i : Nat} {key : String} {run : Program} {k : Outcome → Program} {c : Command}
      (r : Outcome) : Reaches (k r) c → Reaches (.share i key run k) c

/-- A bound on the commands of a program is one on what it comes to. -/
theorem within_iff_reaches {C : Command → Prop} {p : Program} :
    p.Within C (fun _ _ _ => True) ↔ ∀ c, p.Reaches c → C c := by
  induction p with
  | done r =>
    refine ⟨?_, fun _ => trivial⟩
    intro _ c hc
    cases hc
  | ask c k ih =>
    constructor
    · intro hp c' hc
      cases hc with
      | here => exact hp.1
      | reply a hc => exact (ih a).1 (hp.2 a) c' hc
    · intro hp
      refine ⟨hp c .here, fun a => (ih a).2 ?_⟩
      intro c' hc
      exact hp c' (.reply a hc)
  | share i key run k _ ih =>
    constructor
    · intro hp c hc
      cases hc with
      | outcome r hc => exact (ih r).1 (hp.2 r) c hc
    · intro hp
      refine ⟨trivial, fun r => (ih r).2 ?_⟩
      intro c hc
      exact hp c (.outcome r hc)

/-- The program uses a cache under a key if it gets the right replies. -/
def UsesCache (p : Program) (cache : Nat) (key : String) : Prop :=
  ∃ c, p.Reaches c ∧ c.Uses cache key

/-- A program comes to all that it comes to with its block settled in one of the ways. -/
theorem Reaches.normalizing {heads : BlockHead → Prop} {spec : MethodSpec} {q : Request}
    {n : Normalized} {k : Normalized → Program} {c : Command}
    (hn : Normalized.Normalizes heads spec q n) (hc : (k n).Reaches c) :
    (Program.normalizing spec q k).Reaches c := by
  unfold Program.normalizing
  cases hn with
  | settled hplan =>
    rw [hplan]
    exact hc
  | known hplan _ =>
    rw [hplan]
    exact .reply (.ok _) hc
  | unknown hplan =>
    rw [hplan]
    exact .reply (.error _) hc

end Program

/-! ## The keys of a request -/

/-- A key that a request may have, what is asked below to answer it, and the number of the head for
which the answer holds, if it does not hold for ever. -/
inductive MethodTable.Keys (methods : MethodTable) (r : Request) :
    String → Request → Option Nat → Prop where
  | permanent : (methods.spec r.method).cache = .permanent → Keys methods r r.fingerprint r none
  | block {n : Normalized} : (methods.spec r.method).cache = .block →
      Normalized.Normalizes (fun _ => True) (methods.spec r.method) r n →
      n.block = .absent ∨ n.block.isConcrete → Keys methods r n.request.fingerprint n.request none
  | head (h : BlockHead) : (methods.spec r.method).cache = .head →
      Keys methods r (r.headKey h.number) r (some h.number)

/-- What the cache does for a request: it may ask for the head, and is used under keys of the
request. -/
def MethodTable.CacheCommand (methods : MethodTable) (cache : Nat) (r : Request) (c : Command) :
    Prop :=
  c.IsMinor ∨ ∃ key asked number, methods.Keys r key asked number ∧ c.Uses cache key

section Uses

variable {methods : MethodTable} {cache : Nat} {r : Request} {next : Request → Program}

theorem Stage.blockCache_builtOn :
    ((Stage.blockCache methods cache).handle r next).BuiltOn (methods.CacheCommand cache r)
      (fun p => ∃ q, p = next q) := by
  have hcached : ∀ {key asked number} spec, methods.Keys r key asked number →
      (Program.cached cache spec key asked next).BuiltOn (methods.CacheCommand cache r)
        (fun p => ∃ q, p = next q) := by
    intro key asked number spec hkey
    refine Program.cached_builtOn.mono (fun c hc => ?_) fun p hp => ⟨asked, hp⟩
    exact .inr ⟨key, asked, number, hkey, hc⟩
  simp only [Stage.blockCache]
  cases hcache : (methods.spec r.method).cache with
  | never => exact .base ⟨r, rfl⟩
  | permanent => exact hcached _ (.permanent hcache)
  | block =>
    refine Program.normalizing_builtOn (fun _ => .inl) fun n hn => ?_
    cases hblock : n.block with
    | absent => exact hcached _ (.block hcache hn (.inl hblock))
    | concrete ref =>
      exact hcached _ (.block hcache hn (.inr (by simp [hblock, BlockParam.isConcrete])))
    | _ => exact .base ⟨n.request, rfl⟩
  | head =>
    refine .ask (.inl trivial) fun answer => ?_
    cases answer with
    | ok h => exact hcached _ (.head h hcache)
    | error e => exact .base ⟨r, rfl⟩

/-- What is looked up is looked up under a key, and every key is looked up. -/
theorem Stage.blockCache_usesCache_iff {key : String}
    (hnext : ∀ q i key, ¬(next q).UsesCache i key) :
    ((Stage.blockCache methods cache).handle r next).UsesCache cache key ↔
      ∃ asked number, methods.Keys r key asked number := by
  constructor
  · rintro ⟨c, hreaches, huses⟩
    have hwithin : ((Stage.blockCache methods cache).handle r next).Within
        (fun c => c.Uses cache key → ∃ asked number, methods.Keys r key asked number)
        fun _ _ _ => True := by
      refine Stage.blockCache_builtOn.within ?_ ?_
      · rintro c (hminor | ⟨key', asked, number, hkey, huse⟩) huse'
        · cases huse' <;> cases hminor
        · obtain ⟨-, rfl⟩ := huse.keepsTo _ _ huse'
          exact ⟨asked, number, hkey⟩
      · rintro p ⟨q, rfl⟩
        refine Program.within_iff_reaches.2 fun c hc huse => ?_
        exact absurd ⟨c, hc, huse⟩ (hnext q cache key)
    exact Program.within_iff_reaches.1 hwithin c hreaches huses
  · rintro ⟨asked, number, hkey⟩
    refine ⟨.lookup cache key, ?_, .lookup⟩
    simp only [Stage.blockCache]
    cases hkey with
    | permanent hcache =>
      rw [hcache]
      exact .here
    | @block n hcache hn hblock =>
      rw [hcache]
      refine .normalizing hn ?_
      cases hn' : n.block with
      | absent | concrete ref => exact .here
      | _ => simp [hn', BlockParam.isConcrete] at hblock
    | head h hcache =>
      rw [hcache]
      exact .reply (.ok h) .here

end Uses

/-! ## What a key tells -/

namespace Normalized

theorem method_place (q : Request) (index n : Nat) (block : BlockParam) :
    (place q index n block).request.method = q.method := by
  rcases place_cases q index n block with ⟨-, hplace⟩ | ⟨q', hq', hplace⟩ | hplace
  · rw [hplace]
  · rw [hplace]
    exact (Request.withParam?_eq_some hq').1
  · rw [hplace]

/-- Whatever the head, settling the block of a request leaves its method alone. -/
theorem method_of_normalizes {heads : BlockHead → Prop} {spec : MethodSpec} {q : Request}
    {n : Normalized} (h : Normalizes heads spec q n) : n.request.method = q.method := by
  have hplan : (∀ n, plan spec q = .settled n → n.request.method = q.method) ∧
      ∀ resume, plan spec q = .awaitsHead resume → ∀ a, (resume a).request.method = q.method := by
    unfold plan
    constructor
    · intro n hn
      grind [method_place]
    · intro resume hresume a
      cases a <;> grind [method_place]
  cases h with
  | settled h => exact hplan.1 _ h
  | known h _ => exact hplan.2 _ h _
  | unknown h => exact hplan.2 _ h _

end Normalized

namespace MethodTable.Keys

variable {methods : MethodTable} {r : Request} {key : String} {asked : Request}
  {number : Option Nat}

theorem method (h : methods.Keys r key asked number) : asked.method = r.method := by
  cases h with
  | permanent | head => rfl
  | block _ hn _ => exact Normalized.method_of_normalizes hn

/-- A key is the fingerprint of what is asked below, behind the number of the head if there is
one. -/
theorem eq_fingerprint_or_headKey (h : methods.Keys r key asked number) :
    number = none ∧ key = asked.fingerprint ∨
      ∃ n, number = some n ∧ key = asked.headKey n := by
  cases h with
  | permanent | block => exact .inl ⟨rfl, rfl⟩
  | head h => exact .inr ⟨h.number, rfl, rfl⟩

theorem not_mem_method (hplain : methods.Plain) (h : methods.Keys r key asked number) :
    '@' ∉ asked.method.toList := by
  rw [h.method]
  refine hplain.not_mem r.method ?_
  cases h with
  | permanent hcache | block hcache | head _ hcache => simp [hcache]

/-- Two requests with the same key ask below for the same, and at the same head. -/
theorem unique {r' asked' : Request} {number' : Option Nat} (hplain : methods.Plain)
    (h : methods.Keys r key asked number) (h' : methods.Keys r' key asked' number') :
    asked.fingerprint = asked'.fingerprint ∧ number = number' := by
  have hname := h.not_mem_method hplain
  have hname' := h'.not_mem_method hplain
  rcases h.eq_fingerprint_or_headKey with ⟨rfl, rfl⟩ | ⟨n, rfl, rfl⟩ <;>
    rcases h'.eq_fingerprint_or_headKey with ⟨rfl, hkey⟩ | ⟨n', rfl, hkey⟩
  · exact ⟨hkey, rfl⟩
  · exact absurd hkey.symm (Request.headKey_ne_fingerprint hname)
  · exact absurd hkey (Request.headKey_ne_fingerprint hname')
  · obtain ⟨rfl, hfingerprint⟩ := Request.eq_of_headKey_eq hkey
    exact ⟨hfingerprint, rfl⟩

end MethodTable.Keys

/-- Fingerprints tell methods and parameters apart, whatever there is in them. The cache is used
for a request under its keys only, and in a plain table keys tell apart the methods, the parameters
that are asked for below, and the heads. -/
theorem keys_tell_requests_apart :
    (∀ q q' : Request, q.fingerprint = q'.fingerprint →
      q.method = q'.method ∧
        (Json.array q.params).compact = (Json.array q'.params).compact ∧ q.params = q'.params) ∧
    (∀ {methods : MethodTable} {cache : Nat} {next : Request → Program} {r : Request}
      {key : String}, (∀ q i key, ¬(next q).UsesCache i key) →
      (((Stage.blockCache methods cache).handle r next).UsesCache cache key ↔
        ∃ asked number, methods.Keys r key asked number)) ∧
    ∀ {methods : MethodTable} {r r' asked asked' : Request} {number number' : Option Nat}
      {key : String}, methods.Plain → methods.Keys r key asked number →
      methods.Keys r' key asked' number' →
      r.method = r'.method ∧ asked.method = r.method ∧ asked'.method = r.method ∧
        asked.params = asked'.params ∧ number = number' := by
  refine ⟨?fingerprint, Stage.blockCache_usesCache_iff, ?keys⟩
  case fingerprint =>
    intro q q' h
    obtain ⟨hmethod, hparams⟩ := Request.eq_of_fingerprint_eq h
    exact ⟨hmethod, by rw [hparams], hparams⟩
  case keys =>
    intro methods r r' asked asked' number number' key hplain hkey hkey'
    obtain ⟨hfingerprint, hnumber⟩ := hkey.unique hplain hkey'
    obtain ⟨hmethod, hparams⟩ := Request.eq_of_fingerprint_eq hfingerprint
    have hsame : asked'.method = r.method := hmethod.symm.trans hkey.method
    exact ⟨hsame.symm.trans hkey'.method, hkey.method, hsame, hparams, hnumber⟩

/-- A request for a balance at some block. -/
def balanceAt (id : RequestId) (block : String) : Request :=
  ⟨id, "eth_getBalance", [.string "0xaa", .string block]⟩

/-- At head 16, who asks for the latest balance has the same key as who asks for the balance at
that block, and both ask below for the same. -/
theorem keys_of_balanceAt :
    let methods : MethodTable := [("eth_getBalance", { cache := .block, blockParam := some 1 })]
    let first := balanceAt (.number 1) "latest"
    let second := balanceAt (.string "b") "0x10"
    ∃ key asked asked' number,
      ((Stage.blockCache methods 0).handle first .send).UsesCache 0 key ∧
      ((Stage.blockCache methods 0).handle second .send).UsesCache 0 key ∧
      methods.Keys first key asked number ∧ methods.Keys second key asked' number ∧
      first.method = second.method ∧ asked.params = asked'.params := by
  intro methods first second
  have hplain : methods.Plain := by decide
  have hsend : ∀ q i key, ¬(Program.send q).UsesCache i key := by
    rintro q i key ⟨c, hc, huse⟩
    cases hc with
    | here => cases huse
    | reply a hc => cases hc
  have hknown := @Normalized.Normalizes.known (fun _ => True) (methods.spec "eth_getBalance") first
    _ ⟨16, .ofNat 0⟩ rfl trivial
  have hfirst : methods.Keys first second.fingerprint (balanceAt (.number 1) "0x10") none :=
    .block (n := ⟨balanceAt (.number 1) "0x10", .concrete (.number 16)⟩) rfl hknown (.inr rfl)
  have hsecond : methods.Keys second second.fingerprint second none :=
    .block (n := ⟨second, .concrete (.number 16)⟩) rfl (.settled rfl) (.inr rfl)
  obtain ⟨hmethod, -, -, hparams, -⟩ := keys_tell_requests_apart.2.2 hplain hfirst hsecond
  exact ⟨_, _, _, _, (keys_tell_requests_apart.2.1 hsend).2 ⟨_, _, hfirst⟩,
    (keys_tell_requests_apart.2.1 hsend).2 ⟨_, _, hsecond⟩, hfirst, hsecond, hmethod, hparams⟩

end EthRpc
