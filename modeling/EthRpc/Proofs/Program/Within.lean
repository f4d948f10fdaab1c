-- SUMMARY: Which commands a program may give and which runs it may start, whatever it is replied.
import EthRpc.Program

/-!
# Bounds on programs

What a program does is bounded by the commands and the shared runs that occur in
it. A bound says nothing about replies: it holds for every way in which the
program may go on.
-/

namespace EthRpc

namespace Program

/-- A program gives no other commands and starts no other runs, whatever it is replied. The runs
themselves may go further. -/
def Within (C : Command → Prop) (S : Nat → String → Program → Prop) : Program → Prop
  | done _ => True
  | ask c k => C c ∧ ∀ a, (k a).Within C S
  | share i key run k => S i key run ∧ ∀ r, (k r).Within C S

namespace Within

variable {C C' : Command → Prop} {S S' : Nat → String → Program → Prop} {p : Program}

theorem mono (hp : p.Within C S) (hC : ∀ c, C c → C' c)
    (hS : ∀ i key run, S i key run → S' i key run) : p.Within C' S' := by
  induction p with
  | done r => trivial
  | ask c k ih => exact ⟨hC c hp.1, fun a => ih a (hp.2 a)⟩
  | share i key run k _ ih => exact ⟨hS i key run hp.1, fun r => ih r (hp.2 r)⟩

theorem bind {f : Outcome → Program} (hp : p.Within C S) (hf : ∀ r, (f r).Within C S) :
    (p.bind f).Within C S := by
  induction p with
  | done r => exact hf r
  | ask c k ih => exact ⟨hp.1, fun a => ih a (hp.2 a)⟩
  | share i key run k _ ih => exact ⟨hp.1, fun r => ih r (hp.2 r)⟩

theorem andThen {f : Json → Program} (hp : p.Within C S) (hf : ∀ v, (f v).Within C S) :
    (p.andThen f).Within C S := by
  refine hp.bind ?_
  intro r
  cases r with
  | ok v => exact hf v
  | error e => trivial

end Within

end Program

/-- The second program is what the first one goes on with after a reply or an outcome. -/
inductive Program.Goes : Program → Program → Prop where
  | reply {c : Command} {k : c.Reply → Program} (a : c.Reply) : Goes (.ask c k) (k a)
  | outcome {i : Nat} {key : String} {run : Program} {k : Outcome → Program} (r : Outcome) :
      Goes (.share i key run k) (k r)

theorem Program.Within.of_goes {C : Command → Prop} {S : Nat → String → Program → Prop}
    {p p' : Program} (h : p.Goes p') (hp : p.Within C S) : p'.Within C S := by
  cases h with
  | reply a => exact hp.2 a
  | outcome r => exact hp.2 r

/-! ## Programs that are built on others -/

/-- A program comes down to running others, some of them one after the other, and does nothing
else than to give commands of some kind and to return results. -/
inductive Program.BuiltOn (C : Command → Prop) (N : Program → Prop) : Program → Prop where
  | base {p : Program} : N p → BuiltOn C N p
  | ok {v : Json} : BuiltOn C N (.done (.ok v))
  | ask {c : Command} {k : c.Reply → Program} :
      C c → (∀ a, BuiltOn C N (k a)) → BuiltOn C N (.ask c k)
  | andThen {p : Program} {f : Json → Program} :
      N p → (∀ v, BuiltOn C N (f v)) → BuiltOn C N (p.andThen f)

namespace Program.BuiltOn

variable {C C' : Command → Prop} {N N' : Program → Prop} {S : Nat → String → Program → Prop}
  {p : Program}

theorem mono (hp : p.BuiltOn C N) (hC : ∀ c, C c → C' c) (hN : ∀ p, N p → N' p) :
    p.BuiltOn C' N' := by
  induction hp with
  | base h => exact .base (hN _ h)
  | ok => exact .ok
  | ask hc _ ih => exact .ask (hC _ hc) ih
  | andThen h _ ih => exact .andThen (hN _ h) ih

/-- What bounds the others bounds the program as well, if it leaves room for the commands. -/
theorem within (hp : p.BuiltOn C N) (hC : ∀ c, C c → C' c) (hN : ∀ p, N p → p.Within C' S) :
    p.Within C' S := by
  induction hp with
  | base h => exact hN _ h
  | ok => trivial
  | ask hc _ ih => exact ⟨hC _ hc, ih⟩
  | andThen h _ ih => exact (hN _ h).andThen ih

end Program.BuiltOn

/-! ## Uses of a cache -/

/-- The command uses a cache under a key. -/
inductive Command.Uses (i : Nat) (key : String) : Command → Prop where
  | lookup : Uses i key (.lookup i key)
  | keep {v : Json} : Uses i key (.keep i key v)

/-- The command uses no cache but one, and that one only under one key. -/
def Command.KeepsTo (cache : Nat) (key : String) (c : Command) : Prop :=
  ∀ i key', c.Uses i key' → i = cache ∧ key' = key

theorem Command.Uses.keepsTo {cache : Nat} {key : String} {c : Command} (h : c.Uses cache key) :
    c.KeepsTo cache key := by
  intro i key' h'
  cases h <;> cases h' <;> exact ⟨rfl, rfl⟩

/-- A program uses no cache and shares no run. -/
def Program.Aloof (p : Program) : Prop :=
  p.Within (fun c => ∀ i key, ¬c.Uses i key) fun _ _ _ => False

end EthRpc
