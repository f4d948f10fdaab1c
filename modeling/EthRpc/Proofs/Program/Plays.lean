-- SUMMARY: What a program may be told on its way to its end, and of what that of a stage is made.
import EthRpc.Proofs.Machine.Courses

/-!
# Plays

A play of a program is a list of replies, of which each may be any reply to the
command that the program gives. What a task is told on its course is a play of its
program. A stage that treats the stages below it as one step has the plays that it
would have above the endpoint alone, with a play of the stages below in place of
every request.
-/

namespace EthRpc

open Machine (Told TaskId Action)

namespace Machine.Told

/-- The outcome of a request to the stages below, and the request. -/
def run? : Told → Option (Request × Outcome)
  | reply (.send q) r => some (q, r)
  | _ => none

/-- What is told, whether it came at once or with a poll of the task's own. -/
def plain : Told → Told
  | report q _ r => .reply (.query q) (q.report (Tracker.polledHead r))
  | d => d

end Machine.Told

namespace Program

theorem bind_pure (p : Program) : p.bind .done = p := by
  induction p with
  | done r => rfl
  | ask c k ih => simp only [bind, ih]
  | share i key run k _ ih => simp only [bind, ih]

/-- A program may be told these things, one for each command that it gives, and so comes to another
program. -/
inductive Plays : Program → List Told → Program → Prop where
  | refl {p : Program} : Plays p [] p
  | ask {c : Command} {k : c.Reply → Program} {a : c.Reply} {ds : List Told} {p : Program} :
      Plays (k a) ds p → Plays (.ask c k) (.reply c a :: ds) p
  | share {i : Nat} {key : String} {run : Program} {k : Outcome → Program} {r : Outcome}
      {ds : List Told} {p : Program} :
      Plays (k r) ds p → Plays (.share i key run k) (.outcome i key run r :: ds) p

section Plays

variable {p p' : Program} {f : Outcome → Program} {ds : List Told} {r r' : Outcome}

theorem plays_done_iff : (done r).Plays ds (.done r') ↔ ds = [] ∧ r' = r := by
  constructor
  · intro h
    cases h
    exact ⟨rfl, rfl⟩
  · rintro ⟨rfl, rfl⟩
    exact .refl

theorem plays_ask_iff {c : Command} {k : c.Reply → Program} :
    (ask c k).Plays ds (.done r) ↔ ∃ a ds', ds = .reply c a :: ds' ∧ (k a).Plays ds' (.done r) := by
  constructor
  · intro h
    cases h with
    | ask h => exact ⟨_, _, rfl, h⟩
  · rintro ⟨a, ds', rfl, h⟩
    exact .ask h

/-- A program that goes on after another one plays both. -/
theorem exists_of_bind (h : (p.bind f).Plays ds (.done r)) :
    ∃ ds₁ ds₂ r', ds = ds₁ ++ ds₂ ∧ p.Plays ds₁ (.done r') ∧ (f r').Plays ds₂ (.done r) := by
  induction p generalizing ds with
  | done r' => exact ⟨[], ds, r', rfl, .refl, h⟩
  | ask c k ih =>
    cases h with
    | ask h =>
      obtain ⟨ds₁, ds₂, r', rfl, h₁, h₂⟩ := ih _ h
      exact ⟨_, ds₂, r', rfl, .ask h₁, h₂⟩
  | share i key run k _ ih =>
    cases h with
    | share h =>
      obtain ⟨ds₁, ds₂, r', rfl, h₁, h₂⟩ := ih _ h
      exact ⟨_, ds₂, r', rfl, .share h₁, h₂⟩

/-- Whatever a program is told, in view of all before, it comes to its end. -/
theorem exists_plays (tell : List Told → (c : Command) → c.Reply) (p : Program)
    (before : List Told) :
    ∃ ds r, p.Plays ds (.done r) ∧
      ∀ pre c a post, ds = pre ++ .reply c a :: post → a = tell (before ++ pre) c := by
  induction p generalizing before with
  | done r =>
    refine ⟨[], r, .refl, fun pre c a post h => ?_⟩
    cases pre <;> cases h
  | ask c k ih =>
    obtain ⟨ds, r, hplays, htells⟩ := ih (tell before c) (before ++ [.reply c (tell before c)])
    refine ⟨_, r, .ask hplays, fun pre c' a post h => ?_⟩
    cases pre with
    | nil =>
      cases h
      rw [List.append_nil]
    | cons d pre =>
      cases h
      simpa using htells pre c' a post rfl
  | share i key run k _ ih =>
    obtain ⟨ds, r, hplays, htells⟩ :=
      ih (.ok .null) (before ++ [.outcome i key run (.ok .null)])
    refine ⟨_, r, .share hplays, fun pre c a post h => ?_⟩
    cases pre with
    | nil => cases h
    | cons d pre =>
      cases h
      simpa using htells pre c a post rfl

end Plays

end Program

namespace Machine

variable {m : Machine} {t : TaskId} {b b' now now' : List Action} {a : Action} {d : Told}
  {ds : List Told} {p p' q : Program}

theorem Deals.plays (h : m.Deals t b b' a d p p') (hp : p'.Plays ds q) :
    p.Plays (d.plain :: ds) q := by
  cases h with
  | join | lead => exact .share hp
  | _ => exact .ask hp

/-- What a task is told on its way is a play of its program. -/
theorem Course.plays (h : m.Course t now p ds now' p') : p.Plays (ds.map Told.plain) p' := by
  induction h with
  | refl => exact .refl
  | step _ hd _ ih => exact hd.plays ih

end Machine

/-! ## Stages above other stages -/

namespace Program

/-- The program that has the given ones in place of the requests that it sends. -/
def through (next : Request → Program) : Program → Program
  | .done r => .done r
  | .ask (.send q) k => (next q).bind fun r => (k r).through next
  | .ask c k => .ask c fun a => (k a).through next
  | .share i key run k => .share i key run fun r => (k r).through next

/-- A play with a play of the given programs in place of every run of them. -/
inductive Expands (next : Request → Program) : List Told → List Told → Prop where
  | nil : Expands next [] []
  | run {q : Request} {r : Outcome} {ds es rest : List Told} :
      (next q).Plays ds (.done r) → Expands next es rest →
      Expands next (.reply (.send q) r :: es) (ds ++ rest)
  | other {d : Told} {es rest : List Told} :
      d.run? = none → Expands next es rest → Expands next (d :: es) (d :: rest)

section Through

variable {next : Request → Program}

theorem through_send (q : Request) : (send q).through next = next q := bind_pure (next q)

theorem through_ask {c : Command} {k : c.Reply → Program} (h : ∀ q, c ≠ .send q) :
    (ask c k).through next = .ask c fun a => (k a).through next := by
  cases c with
  | send q => exact absurd rfl (h q)
  | _ => rfl

theorem through_bind (p : Program) (f : Outcome → Program) :
    (p.bind f).through next = (p.through next).bind fun r => (f r).through next := by
  induction p with
  | done r => rfl
  | ask c k ih =>
    by_cases hsend : ∃ q, c = .send q
    · obtain ⟨q, rfl⟩ := hsend
      simp only [bind, through, ih, bind_assoc]
    · have hc : ∀ q, c ≠ .send q := fun q hq => hsend ⟨q, hq⟩
      simp only [bind, through_ask hc, ih]
  | share i key run k _ ih => simp only [bind, through, ih]

theorem through_andThen (p : Program) (f : Json → Program) :
    (p.andThen f).through next = (p.through next).andThen fun v => (f v).through next := by
  rw [andThen, andThen, through_bind]
  congr 1
  funext r
  cases r <;> rfl

/-- A play above other stages is one above the endpoint, but for the runs below. -/
theorem exists_of_through {p : Program} {ds : List Told} {r : Outcome}
    (h : (p.through next).Plays ds (.done r)) :
    ∃ es, Expands next es ds ∧ p.Plays es (.done r) := by
  induction p generalizing ds with
  | done r' =>
    obtain ⟨rfl, rfl⟩ := plays_done_iff.1 h
    exact ⟨[], .nil, .refl⟩
  | ask c k ih =>
    by_cases hsend : ∃ q, c = .send q
    · obtain ⟨q, rfl⟩ := hsend
      obtain ⟨ds₁, ds₂, r', rfl, hrun, hrest⟩ := exists_of_bind h
      obtain ⟨es, hexpands, hplays⟩ := ih r' hrest
      exact ⟨_, .run hrun hexpands, .ask hplays⟩
    · have hc : ∀ q, c ≠ .send q := fun q hq => hsend ⟨q, hq⟩
      rw [through_ask hc] at h
      obtain ⟨a, ds', rfl, hrest⟩ := plays_ask_iff.1 h
      obtain ⟨es, hexpands, hplays⟩ := ih a hrest
      have hnone : (Told.reply c a).run? = none := by
        cases c with
        | send q => exact absurd rfl (hc q)
        | _ => rfl
      exact ⟨_, .other hnone hexpands, .ask hplays⟩
  | share i key run k _ ih =>
    cases h with
    | share h =>
      obtain ⟨es, hexpands, hplays⟩ := ih _ h
      exact ⟨_, .other rfl hexpands, .share hplays⟩

end Through

end Program

end EthRpc
