-- SUMMARY: How often and when the stage for empty results asks again, and what comes of it.
import EthRpc.Proofs.Machine.Heads
import EthRpc.Proofs.Program.Plays
import EthRpc.Stage.RetryOnEmpty

/-!
# Asking again

Whatever the stages below and the tracker say, a request is run at least once and
at most as often as the settings allow, always the same one. Each run but the last
came back empty, and the last one gives the result. What happens between the runs
depends on the block parameter: a pause and a look at the head for a block that
should be there, a new head for a request without block parameter, and nothing for
all others, which are run once.
-/

namespace EthRpc

open Machine (Told)

/-! ## Runs -/

/-- Up to a number of runs of one request, all empty but the last, which gives the result. -/
def Attempts (q : Request) (limit : Nat) (es : List Told) (r : Outcome) : Prop :=
  ∃ empties : List Json, es.filterMap Told.run? = empties.map (fun v => (q, .ok v)) ++ [(q, r)] ∧
    (∀ v ∈ empties, v.isEmptyResult) ∧ empties.length < limit

/-- What follows on a run: nothing if its value is the result, or more runs since it was empty. -/
def Continues (q : Request) (left : Nat) (v : Json) (es : List Told) (r : Outcome) : Prop :=
  (es.filterMap Told.run? = [] ∧ r = .ok v) ∨ (v.isEmptyResult ∧ Attempts q left es r)

section Attempts

variable {q : Request} {limit left : Nat} {v : Json} {es es' : List Told} {r : Outcome}

theorem attempts_single (q : Request) (left : Nat) (r : Outcome) :
    Attempts q (left + 1) [.reply (.send q) r] r :=
  ⟨[], rfl, nofun, Nat.succ_pos left⟩

theorem Continues.attempts (h : Continues q left v es r) :
    Attempts q (left + 1) (.reply (.send q) (.ok v) :: es) r := by
  rcases h with ⟨hruns, rfl⟩ | ⟨hempty, empties, hruns, hempties, hlength⟩
  · exact ⟨[], by simp [Told.run?, hruns], nofun, Nat.succ_pos left⟩
  · refine ⟨v :: empties, by simp [Told.run?, hruns], ?_, Nat.succ_lt_succ hlength⟩
    simpa [hempty] using hempties

/-- What is not a run does not count. -/
theorem Attempts.quiet (hquiet : es.filterMap Told.run? = []) (h : Attempts q limit es' r) :
    Attempts q limit (es ++ es') r := by
  obtain ⟨empties, hruns, hrest⟩ := h
  exact ⟨empties, by rw [List.filterMap_append, hquiet, hruns, List.nil_append], hrest⟩

theorem Attempts.cons {d : Told} (hquiet : d.run? = none) (h : Attempts q limit es r) :
    Attempts q limit (d :: es) r := by
  have hone : [d].filterMap Told.run? = [] := List.filterMap_cons_none hquiet
  exact h.quiet hone

theorem Continues.quiet (hquiet : es.filterMap Told.run? = []) (h : Continues q left v es' r) :
    Continues q left v (es ++ es') r := by
  rcases h with ⟨hruns, hr⟩ | ⟨hempty, hattempts⟩
  · exact .inl ⟨by rw [List.filterMap_append, hquiet, hruns, List.nil_append], hr⟩
  · exact .inr ⟨hempty, hattempts.quiet hquiet⟩

theorem Continues.cons {d : Told} (hquiet : d.run? = none) (h : Continues q left v es r) :
    Continues q left v (d :: es) r := by
  have hone : [d].filterMap Told.run? = [] := List.filterMap_cons_none hquiet
  exact h.quiet hone

end Attempts

/-! ## Pauses and new heads -/

/-- The head is read again: the latest, or the known one if asking for it fails. -/
inductive Rereads : List Told → Option BlockHead → Prop where
  | latest (h : BlockHead) : Rereads [.reply (.query .latest) (.ok h)] (some h)
  | known (e : RpcError) (head : Option BlockHead) :
      Rereads [.reply (.query .latest) (.error e), .reply .currentHead head] head

/-- A pause, after which the head is read again. -/
inductive Pauses (interval : Duration) : List Told → Option BlockHead → Prop where
  | intro {es : List Told} {head : Option BlockHead} : Rereads es head →
      Pauses interval (.reply (.count .retries) () :: .reply (.sleep interval) () :: es) head

/-- Runs after a pause each, as long as the head has not gone back behind the first one that is
known. -/
inductive PausedRuns (interval : Duration) (q : Request) :
    Option BlockHead → List Told → Option BlockHead → Prop where
  | nil {base : Option BlockHead} : PausedRuns interval q base [] base
  | run {base head last : Option BlockHead} {pause es : List Told} {r : Outcome} :
      Pauses interval pause head → Program.regressed base head = false →
      PausedRuns interval q (base <|> head) es last →
      PausedRuns interval q base (pause ++ .reply (.send q) r :: es) last

/-- A pause is the end since the head has gone back. -/
def GoesBack (interval : Duration) (base : Option BlockHead) (es : List Told) : Prop :=
  ∃ head, Pauses interval es head ∧ Program.regressed base head = true

theorem not_goesBack_nil {interval : Duration} {base : Option BlockHead} :
    ¬GoesBack interval base [] := by
  rintro ⟨head, ⟨-⟩, -⟩

theorem not_goesBack_exhausted {interval : Duration} {base : Option BlockHead} :
    ¬GoesBack interval base [.reply (.count .exhausted) ()] := by
  rintro ⟨head, ⟨-⟩, -⟩

/-- A run after a new head. -/
def runAtHead (q : Request) (h : BlockHead) (r : Outcome) : List Told :=
  [.reply (.query .latest) (.ok h), .reply (.count .retries) (), .reply (.send q) r]

theorem Rereads.quiet {es : List Told} {head : Option BlockHead} (h : Rereads es head) :
    es.filterMap Told.run? = [] := by
  cases h <;> rfl

theorem Pauses.quiet {interval : Duration} {es : List Told} {head : Option BlockHead}
    (h : Pauses interval es head) : es.filterMap Told.run? = [] := by
  obtain ⟨hreads⟩ := h
  simpa [Told.run?] using hreads.quiet

namespace Program

section Plays

variable {q : Request} {es : List Told} {r : Outcome}

theorem plays_send_andThen {f : Json → Program} (h : ((send q).andThen f).Plays es (.done r)) :
    (∃ e, es = [.reply (.send q) (.error e)] ∧ r = .error e) ∨
      ∃ v es', es = .reply (.send q) (.ok v) :: es' ∧ (f v).Plays es' (.done r) := by
  obtain ⟨a, es', rfl, hrest⟩ := plays_ask_iff.1 h
  cases a with
  | error e =>
    obtain ⟨rfl, rfl⟩ := plays_done_iff.1 hrest
    exact .inl ⟨e, rfl, rfl⟩
  | ok v => exact .inr ⟨v, es', rfl, hrest⟩

theorem plays_withRefreshedHead {k : Option BlockHead → Program}
    (h : (withRefreshedHead k).Plays es (.done r)) :
    ∃ reread head es', es = reread ++ es' ∧ Rereads reread head ∧ (k head).Plays es' (.done r) := by
  obtain ⟨a, es', rfl, hrest⟩ := plays_ask_iff.1 h
  cases a with
  | ok head => exact ⟨_, some head, es', rfl, .latest head, hrest⟩
  | error e =>
    obtain ⟨head, es'', rfl, hknown⟩ := plays_ask_iff.1 hrest
    exact ⟨_, head, es'', rfl, .known e head, hknown⟩

/-! ## Bounded retries -/

variable {interval : Duration} {left : Nat} {retried : Bool} {base : Option BlockHead} {v : Json}

/-- A round of bounded retries: the value is the result, or the head is read after a pause. -/
theorem plays_retryPaused_succ
    (h : (retryPaused interval q send (left + 1) retried base v).Plays es (.done r)) :
    (v.isEmptyResult = false ∧ es = [] ∧ r = .ok v) ∨
      v.isEmptyResult ∧ ∃ pause head es', es = pause ++ es' ∧ Pauses interval pause head ∧
        ((regressed base head ∧ es' = [] ∧ r = .ok v) ∨
          regressed base head = false ∧
            ((send q).andThen fun w =>
              retryPaused interval q send left true (base <|> head) w).Plays es' (.done r)) := by
  rw [retryPaused] at h
  cases hempty : v.isEmptyResult with
  | false =>
    rw [if_neg (by simp [hempty])] at h
    exact .inl ⟨rfl, plays_done_iff.1 h⟩
  | true =>
    rw [if_pos hempty] at h
    obtain ⟨-, _, rfl, hslept⟩ := plays_ask_iff.1 h
    obtain ⟨-, _, rfl, hread⟩ := plays_ask_iff.1 hslept
    obtain ⟨reread, head, es', rfl, hreads, hrest⟩ := plays_withRefreshedHead hread
    refine .inr ⟨rfl, _, head, es', rfl, .intro hreads, ?_⟩
    cases hregressed : regressed base head with
    | true =>
      rw [if_pos hregressed] at hrest
      exact .inl ⟨rfl, plays_done_iff.1 hrest⟩
    | false =>
      rw [if_neg (by simp [hregressed])] at hrest
      exact .inr ⟨rfl, hrest⟩

theorem continues_of_retryPaused
    (h : (retryPaused interval q send left retried base v).Plays es (.done r)) :
    Continues q left v es r := by
  induction left generalizing retried base v es with
  | zero =>
    rw [retryPaused] at h
    split at h
    · obtain ⟨-, es', rfl, hdone⟩ := plays_ask_iff.1 h
      obtain ⟨rfl, rfl⟩ := plays_done_iff.1 hdone
      exact .inl ⟨rfl, rfl⟩
    · obtain ⟨rfl, rfl⟩ := plays_done_iff.1 h
      exact .inl ⟨rfl, rfl⟩
  | succ left ih =>
    rcases plays_retryPaused_succ h with
      ⟨-, rfl, rfl⟩ | ⟨hempty, pause, head, es', rfl, hpause, hrest⟩
    · exact .inl ⟨rfl, rfl⟩
    · refine .quiet hpause.quiet ?_
      rcases hrest with ⟨-, rfl, rfl⟩ | ⟨-, h⟩
      · exact .inl ⟨rfl, rfl⟩
      · rcases plays_send_andThen h with ⟨e, rfl, rfl⟩ | ⟨w, es', rfl, hnext⟩
        · exact .inr ⟨hempty, attempts_single q left _⟩
        · exact .inr ⟨hempty, (ih hnext).attempts⟩

/-- Only a head that has gone back ends bounded retries while the result is empty and attempts are
left. -/
theorem pausedRuns_of_retryPaused
    (h : (retryPaused interval q send left retried base v).Plays es (.done r)) :
    ∃ rounds last ending, es = rounds ++ ending ∧ PausedRuns interval q base rounds last ∧
      (ending = [] ∨ ending = [.reply (.count .exhausted) ()] ∨ GoesBack interval last ending) ∧
      (GoesBack interval last ending ↔
        (∃ w : Json, r = .ok w ∧ w.isEmptyResult) ∧ (es.filterMap Told.run?).length < left) := by
  induction left generalizing retried base v es with
  | zero =>
    rw [retryPaused] at h
    refine ⟨[], base, es, rfl, .nil, ?_⟩
    split at h
    · obtain ⟨⟨⟩, es', rfl, hdone⟩ := plays_ask_iff.1 h
      obtain ⟨rfl, rfl⟩ := plays_done_iff.1 hdone
      exact ⟨.inr (.inl rfl), by simp [not_goesBack_exhausted]⟩
    · obtain ⟨rfl, rfl⟩ := plays_done_iff.1 h
      exact ⟨.inl rfl, by simp [not_goesBack_nil]⟩
  | succ left ih =>
    rcases plays_retryPaused_succ h with
      ⟨hvalue, rfl, rfl⟩ | ⟨hempty, pause, head, es', rfl, hpause, hrest⟩
    · exact ⟨[], base, [], rfl, .nil, .inl rfl, by simp [not_goesBack_nil, hvalue]⟩
    · rcases hrest with ⟨hback, rfl, rfl⟩ | ⟨hstay, h⟩
      · have hgoes : GoesBack interval base (pause ++ []) := by
          rw [List.append_nil]
          exact ⟨head, hpause, hback⟩
        refine ⟨[], base, pause ++ [], rfl, .nil, .inr (.inr hgoes), iff_of_true hgoes ?_⟩
        exact ⟨⟨v, rfl, hempty⟩, by simp [hpause.quiet]⟩
      · rcases plays_send_andThen h with ⟨e, rfl, rfl⟩ | ⟨w, es', rfl, hnext⟩
        · exact ⟨_, _, [], (List.append_nil _).symm, .run hpause hstay .nil, .inl rfl,
            by simp [not_goesBack_nil]⟩
        · obtain ⟨rounds, last, ending, rfl, hrounds, hending, hback⟩ := ih hnext
          refine ⟨pause ++ .reply (.send q) (.ok w) :: rounds, last, ending, by simp,
            .run hpause hstay hrounds, hending, hback.trans ?_⟩
          simp [hpause.quiet, Told.run?]

/-! ## New heads -/

variable {seen : BlockHead}

/-- A round of retries on new heads: the value is the result, or there is no new head, or there
is one and a run after it. -/
theorem plays_retryOnNewHead_succ
    (h : (retryOnNewHead q send (left + 1) seen v).Plays es (.done r)) :
    (v.isEmptyResult = false ∧ es = [] ∧ r = .ok v) ∨
      v.isEmptyResult ∧
        ((∃ a : Except RpcError BlockHead, es = [.reply (.query .latest) a] ∧ r = .ok v ∧
            ∀ head, a = .ok head → head.number ≤ seen.number) ∨
          ∃ head es', seen.number < head.number ∧
            es = .reply (.query .latest) (.ok head) :: .reply (.count .retries) () :: es' ∧
            ((send q).andThen fun w => retryOnNewHead q send left head w).Plays es' (.done r)) := by
  rw [retryOnNewHead] at h
  cases hempty : v.isEmptyResult with
  | false =>
    rw [if_neg (by simp [hempty])] at h
    exact .inl ⟨rfl, plays_done_iff.1 h⟩
  | true =>
    rw [if_pos hempty] at h
    obtain ⟨a, es', rfl, htold⟩ := plays_ask_iff.1 h
    refine .inr ⟨rfl, ?_⟩
    cases a with
    | error e =>
      obtain ⟨rfl, rfl⟩ := plays_done_iff.1 htold
      exact .inl ⟨_, rfl, rfl, nofun⟩
    | ok head =>
      dsimp only at htold
      split at htold
      case isTrue hle =>
        obtain ⟨rfl, rfl⟩ := plays_done_iff.1 htold
        refine .inl ⟨_, rfl, rfl, fun head' heq => ?_⟩
        cases heq
        exact hle
      case isFalse hgt =>
        obtain ⟨⟨⟩, es', rfl, hrest⟩ := plays_ask_iff.1 htold
        exact .inr ⟨head, es', Nat.lt_of_not_le hgt, rfl, hrest⟩

theorem continues_of_retryOnNewHead
    (h : (retryOnNewHead q send left seen v).Plays es (.done r)) : Continues q left v es r := by
  induction left generalizing seen v es with
  | zero =>
    obtain ⟨rfl, rfl⟩ := plays_done_iff.1 h
    exact .inl ⟨rfl, rfl⟩
  | succ left ih =>
    rcases plays_retryOnNewHead_succ h with
      ⟨-, rfl, rfl⟩ | ⟨hempty, ⟨a, rfl, rfl, -⟩ | ⟨head, es', -, rfl, hrest⟩⟩
    · exact .inl ⟨rfl, rfl⟩
    · exact .inl ⟨rfl, rfl⟩
    · refine .inr ⟨hempty, .cons rfl (.cons rfl ?_)⟩
      rcases plays_send_andThen hrest with ⟨e, rfl, rfl⟩ | ⟨w, es', rfl, hnext⟩
      · exact attempts_single q left _
      · exact (ih hnext).attempts

/-- Each run after the first one follows on a head above all before. -/
theorem newHeads_of_retryOnNewHead
    (h : (retryOnNewHead q send left seen v).Plays es (.done r)) :
    ∃ (rounds : List (BlockHead × Outcome)) (ending : List Told),
      es = rounds.flatMap (fun x => runAtHead q x.1 x.2) ++ ending ∧
      (seen :: rounds.map (·.1)).Pairwise (·.number < ·.number) ∧
      (ending = [] ∨ ∃ a : Except RpcError BlockHead, ending = [.reply (.query .latest) a] ∧
        ∀ head, a = .ok head → ∃ m ∈ seen :: rounds.map (·.1), head.number ≤ m.number) := by
  induction left generalizing seen v es with
  | zero =>
    obtain ⟨rfl, rfl⟩ := plays_done_iff.1 h
    exact ⟨[], [], rfl, List.pairwise_singleton _ _, .inl rfl⟩
  | succ left ih =>
    rcases plays_retryOnNewHead_succ h with
      ⟨-, rfl, rfl⟩ | ⟨hempty, ⟨a, rfl, rfl, hold⟩ | ⟨head, es', hlt, rfl, hrest⟩⟩
    · exact ⟨[], [], rfl, List.pairwise_singleton _ _, .inl rfl⟩
    · refine ⟨[], _, rfl, List.pairwise_singleton _ _, .inr ⟨a, rfl, fun head hhead => ?_⟩⟩
      exact ⟨seen, List.mem_cons_self, hold head hhead⟩
    · rcases plays_send_andThen hrest with ⟨e, rfl, rfl⟩ | ⟨w, es', rfl, hnext⟩
      · refine ⟨[(head, .error e)], [], rfl, ?_, .inl rfl⟩
        simpa using hlt
      · obtain ⟨rounds, ending, rfl, hheads, hending⟩ := ih hnext
        refine ⟨(head, .ok w) :: rounds, ending, rfl, List.pairwise_cons.2 ⟨?_, hheads⟩, ?_⟩
        · intro m hm
          rcases List.mem_cons.1 hm with rfl | hm
          · exact hlt
          · exact Nat.lt_trans hlt ((List.pairwise_cons.1 hheads).1 m hm)
        · refine hending.imp_right fun ⟨a, ha, hold⟩ => ⟨a, ha, fun head' hhead => ?_⟩
          obtain ⟨m, hm, hle⟩ := hold head' hhead
          exact ⟨m, List.mem_cons_of_mem _ hm, hle⟩

end Plays

/-! ## Stages below -/

section Through

variable {next : Request → Program} {q : Request}

theorem through_ite {c : Prop} [Decidable c] (p p' : Program) :
    (if c then p else p').through next = if c then p.through next else p'.through next :=
  apply_ite _ c p p'

theorem through_withRefreshedHead (k : Option BlockHead → Program) :
    (withRefreshedHead k).through next = withRefreshedHead fun head => (k head).through next := by
  simp only [withRefreshedHead, through]
  congr 1
  funext a
  cases a <;> rfl

theorem through_retryPaused (interval : Duration) (left : Nat) (retried : Bool)
    (base : Option BlockHead) (v : Json) :
    (retryPaused interval q send left retried base v).through next =
      retryPaused interval q next left retried base v := by
  induction left generalizing retried base v with
  | zero =>
    rw [retryPaused, retryPaused, through_ite]
    rfl
  | succ left ih =>
    simp only [retryPaused, through_ite, through, through_withRefreshedHead, through_andThen,
      through_send, ih]

theorem through_retryOnNewHead (left : Nat) (seen : BlockHead) (v : Json) :
    (retryOnNewHead q send left seen v).through next = retryOnNewHead q next left seen v := by
  induction left generalizing seen v with
  | zero => rfl
  | succ left ih =>
    rw [retryOnNewHead, retryOnNewHead, through_ite]
    congr 1
    simp only [through]
    congr 1
    funext a
    cases a with
    | error e => rfl
    | ok head =>
      simp only [through_ite, through, through_andThen, through_send, ih]

theorem through_askPaused (settings : RetrySettings) :
    (askPaused settings q send).through next = askPaused settings q next := by
  simp only [askPaused, through_andThen, through_send, through, through_retryPaused]

theorem through_askOnNewHead (settings : RetrySettings) :
    (askOnNewHead settings q send).through next = askOnNewHead settings q next := by
  simp only [askOnNewHead, through, through_andThen, through_send]
  congr 1
  funext issuedAt
  cases issuedAt with
  | none => rfl
  | some seen => simp only [through_retryOnNewHead]

end Through

end Program

/-! ## The stage -/

/-- What is told in the course of a request for a block that is named by its number. -/
inductive AskedForNumber (settings : RetrySettings) (q : Request) (n : Nat) :
    List Told → Outcome → Prop where
  /-- The block is above the head, or no head is known. -/
  | once {a : Except RpcError BlockHead} {r : Outcome} :
      (∀ head, a = .ok head → head.number < n) →
      AskedForNumber settings q n [.reply (.query .latest) a, .reply (.send q) r] r
  | failed {head : BlockHead} {e : RpcError} : n ≤ head.number →
      AskedForNumber settings q n
        [.reply (.query .latest) (.ok head), .reply (.send q) (.error e)] (.error e)
  /-- The head that is known after the first run stays the one that later ones are compared with.
  If there is one behind it, and only then, an empty value is the result before all attempts are
  made. -/
  | retried {head : BlockHead} {v : Json} {base last : Option BlockHead}
      {rounds ending : List Told} {r : Outcome} : n ≤ head.number →
      PausedRuns settings.interval q base rounds last → (∀ b, base = some b → last = some b) →
      (ending = [] ∨ ending = [.reply (.count .exhausted) ()] ∨
        GoesBack settings.interval last ending) →
      (GoesBack settings.interval last ending ↔ (∃ w : Json, r = .ok w ∧ w.isEmptyResult) ∧
        ((rounds ++ ending).filterMap Told.run?).length + 1 < max 1 settings.maxAttempts) →
      AskedForNumber settings q n (.reply (.query .latest) (.ok head) ::
        .reply (.send q) (.ok v) :: .reply .currentHead base :: (rounds ++ ending)) r

/-- What is told in the course of a request without block parameter. -/
inductive AskedOnNewHeads (q : Request) : List Told → Outcome → Prop where
  | failed {issuedAt : Option BlockHead} {e : RpcError} :
      AskedOnNewHeads q [.reply .currentHead issuedAt, .reply (.send q) (.error e)] (.error e)
  | once {r : Outcome} : AskedOnNewHeads q [.reply .currentHead none, .reply (.send q) r] r
  /-- Every head that leads to a run is above all that there was a run at. -/
  | retried {issuedAt : BlockHead} {v : Json} {rounds : List (BlockHead × Outcome)}
      {ending : List Told} {r : Outcome} :
      (issuedAt :: rounds.map (·.1)).Pairwise (·.number < ·.number) →
      (ending = [] ∨ ∃ a : Except RpcError BlockHead, ending = [.reply (.query .latest) a] ∧
        ∀ head, a = .ok head → ∃ m ∈ issuedAt :: rounds.map (·.1), head.number ≤ m.number) →
      AskedOnNewHeads q (.reply .currentHead (some issuedAt) :: .reply (.send q) (.ok v) ::
        (rounds.flatMap (fun x => runAtHead q x.1 x.2) ++ ending)) r

theorem PausedRuns.last_eq {interval : Duration} {q : Request} {base last : Option BlockHead}
    {es : List Told} (h : PausedRuns interval q base es last) {b : BlockHead}
    (hb : base = some b) : last = some b := by
  induction h with
  | nil => exact hb
  | run _ _ _ ih => exact ih (by simp [hb])

/-- Requests without block parameter never wait. -/
theorem AskedOnNewHeads.never_sleeps {q : Request} {es : List Told} {r : Outcome}
    (h : AskedOnNewHeads q es r) (d : Duration) : Told.reply (.sleep d) () ∉ es := by
  intro hmem
  cases h with
  | failed | once => simp at hmem
  | retried _ hending =>
    rcases hending with rfl | ⟨a, rfl, -⟩ <;> simp [runAtHead] at hmem

namespace Stage

section RetryOnEmpty

variable {methods : MethodTable} {settings : RetrySettings} {q : Request}
  (hspec : (methods.spec q.method).retryOnEmpty)

include hspec

/-- A block that is named by its number gets retries if it is not above the head. -/
theorem retryOnEmpty_of_number {n : Nat}
    (hblock : BlockParam.classify (methods.spec q.method) q = .concrete (.number n))
    (settings : RetrySettings) (next : Request → Program) :
    ∃ k : Except RpcError BlockHead → Program,
      (Stage.retryOnEmpty methods settings).handle q next = .ask (.query .latest) k ∧
      (∀ h, k (.ok h) = if n ≤ h.number then .askPaused settings q next else next q) ∧
      ∀ e, k (.error e) = next q := by
  simp only [retryOnEmpty, hspec, if_true, hblock]
  exact ⟨_, rfl, fun _ => rfl, fun _ => rfl⟩

theorem retryOnEmpty_of_absent
    (hblock : BlockParam.classify (methods.spec q.method) q = .absent) (next : Request → Program) :
    (Stage.retryOnEmpty methods settings).handle q next = .askOnNewHead settings q next := by
  simp only [retryOnEmpty, hspec, if_true, hblock]

theorem retryOnEmpty_of_other
    (hnumber : ∀ n, BlockParam.classify (methods.spec q.method) q ≠ .concrete (.number n))
    (habsent : BlockParam.classify (methods.spec q.method) q ≠ .absent) (next : Request → Program) :
    (Stage.retryOnEmpty methods settings).handle q next = next q := by
  simp only [retryOnEmpty, hspec, if_true]

/-- The stage takes what is below it as one step. -/
theorem through_retryOnEmpty (next : Request → Program) :
    ((Stage.retryOnEmpty methods settings).handle q .send).through next =
      (Stage.retryOnEmpty methods settings).handle q next := by
  by_cases hnumber : ∃ n, BlockParam.classify (methods.spec q.method) q = .concrete (.number n)
  · obtain ⟨n, hblock⟩ := hnumber
    simp only [retryOnEmpty, hspec, if_true, hblock, Program.through]
    congr 1
    funext a
    cases a with
    | error e => exact Program.through_send q
    | ok head =>
      simp only [Program.through_ite, Program.through_askPaused, Program.through_send]
  · by_cases habsent : BlockParam.classify (methods.spec q.method) q = .absent
    · rw [retryOnEmpty_of_absent hspec habsent, retryOnEmpty_of_absent hspec habsent,
        Program.through_askOnNewHead]
    · have hother : ∀ n, BlockParam.classify (methods.spec q.method) q ≠ .concrete (.number n) :=
        fun n h => hnumber ⟨n, h⟩
      rw [retryOnEmpty_of_other hspec hother habsent, retryOnEmpty_of_other hspec hother habsent,
        Program.through_send]

end RetryOnEmpty

section Outcome

variable {settings : RetrySettings} {q : Request} {es : List Told} {r : Outcome}

theorem plays_send (h : (Program.send q).Plays es (.done r)) : es = [.reply (.send q) r] := by
  obtain ⟨a, es', rfl, hdone⟩ := Program.plays_ask_iff.1 h
  obtain ⟨rfl, rfl⟩ := Program.plays_done_iff.1 hdone
  rfl

theorem attempts_once (q : Request) (settings : RetrySettings) (r : Outcome) :
    Attempts q (max 1 settings.maxAttempts) [.reply (.send q) r] r :=
  ⟨[], rfl, nofun, Nat.lt_of_lt_of_le Nat.zero_lt_one (Nat.le_max_left ..)⟩

theorem attempts_of_askPaused (h : (Program.askPaused settings q .send).Plays es (.done r)) :
    Attempts q (max 1 settings.maxAttempts) es r := by
  have hlimit : max 1 settings.maxAttempts = settings.maxAttempts - 1 + 1 := by omega
  rw [hlimit]
  rcases Program.plays_send_andThen h with ⟨e, rfl, rfl⟩ | ⟨v, es', rfl, hrest⟩
  · exact attempts_single q _ _
  · obtain ⟨base, es', rfl, hretries⟩ := Program.plays_ask_iff.1 hrest
    exact ((Program.continues_of_retryPaused hretries).cons rfl).attempts

theorem attempts_of_askOnNewHead (h : (Program.askOnNewHead settings q .send).Plays es (.done r)) :
    Attempts q (max 1 settings.maxAttempts) es r := by
  have hlimit : max 1 settings.maxAttempts = settings.maxAttempts - 1 + 1 := by omega
  rw [hlimit]
  obtain ⟨issuedAt, es', rfl, hfirst⟩ := Program.plays_ask_iff.1 h
  refine .cons rfl ?_
  rcases Program.plays_send_andThen hfirst with ⟨e, rfl, rfl⟩ | ⟨v, es', rfl, hrest⟩
  · exact attempts_single q _ _
  · cases issuedAt with
    | none =>
      obtain ⟨rfl, rfl⟩ := Program.plays_done_iff.1 hrest
      exact attempts_single q _ _
    | some seen => exact (Program.continues_of_retryOnNewHead hrest).attempts

theorem askedForNumber_of_askPaused {n : Nat} {head : BlockHead} (hn : n ≤ head.number)
    (h : (Program.askPaused settings q .send).Plays es (.done r)) :
    AskedForNumber settings q n (.reply (.query .latest) (.ok head) :: es) r := by
  rcases Program.plays_send_andThen h with ⟨e, rfl, rfl⟩ | ⟨v, es', rfl, hrest⟩
  · exact .failed hn
  · obtain ⟨base, es', rfl, hretries⟩ := Program.plays_ask_iff.1 hrest
    obtain ⟨rounds, last, ending, rfl, hrounds, hending, hback⟩ :=
      Program.pausedRuns_of_retryPaused hretries
    refine .retried hn hrounds (fun b => hrounds.last_eq) hending (hback.trans ?_)
    refine and_congr_right fun _ => ?_
    omega

theorem askedOnNewHeads_of_askOnNewHead
    (h : (Program.askOnNewHead settings q .send).Plays es (.done r)) : AskedOnNewHeads q es r := by
  obtain ⟨issuedAt, es', rfl, hfirst⟩ := Program.plays_ask_iff.1 h
  rcases Program.plays_send_andThen hfirst with ⟨e, rfl, rfl⟩ | ⟨v, es', rfl, hrest⟩
  · exact .failed
  · cases issuedAt with
    | none =>
      obtain ⟨rfl, rfl⟩ := Program.plays_done_iff.1 hrest
      exact .once
    | some seen =>
      obtain ⟨rounds, ending, rfl, hheads, hending⟩ := Program.newHeads_of_retryOnNewHead hrest
      exact .retried hheads hending

theorem course_of_number {methods : MethodTable} {n : Nat}
    (hspec : (methods.spec q.method).retryOnEmpty)
    (hblock : BlockParam.classify (methods.spec q.method) q = .concrete (.number n))
    (h : ((Stage.retryOnEmpty methods settings).handle q .send).Plays es (.done r)) :
    Attempts q (max 1 settings.maxAttempts) es r ∧ AskedForNumber settings q n es r := by
  obtain ⟨k, hk, hok, herror⟩ := retryOnEmpty_of_number hspec hblock settings .send
  rw [hk] at h
  obtain ⟨a, es', rfl, hrest⟩ := Program.plays_ask_iff.1 h
  by_cases hreached : ∃ head : BlockHead, a = .ok head ∧ n ≤ head.number
  · obtain ⟨head, rfl, hn⟩ := hreached
    rw [hok, if_pos hn] at hrest
    exact ⟨(attempts_of_askPaused hrest).cons rfl, askedForNumber_of_askPaused hn hrest⟩
  · have habove : ∀ head : BlockHead, a = .ok head → head.number < n :=
      fun head ha => Nat.lt_of_not_le fun hn => hreached ⟨head, ha, hn⟩
    have honce : k a = .send q := by
      cases a with
      | error e => exact herror e
      | ok head => rw [hok, if_neg (Nat.not_le_of_lt (habove head rfl))]
    rw [honce] at hrest
    obtain rfl := plays_send hrest
    exact ⟨(attempts_once q settings r).cons rfl, .once habove⟩

end Outcome

/-- Whatever is told, a request to a method of the stage comes to an end. Up to what happens in the
runs below, it is run at least once and at most as often as the settings allow, empty but for the
last time, which gives the result; if its block is named by a number, with pauses; if it has no
block parameter, without them, at higher and higher heads; and otherwise once. A task that has been
told a head always finds one known. -/
theorem retryOnEmpty_outcome (methods : MethodTable) (settings : RetrySettings) (q : Request)
    (next : Request → Program) (hspec : (methods.spec q.method).retryOnEmpty) :
    (∀ tell : List Told → (c : Command) → c.Reply, ∃ ds r,
      ((Stage.retryOnEmpty methods settings).handle q next).Plays ds (.done r) ∧
      ∀ pre c a post, ds = pre ++ .reply c a :: post → a = tell pre c) ∧
    (∀ ds r, ((Stage.retryOnEmpty methods settings).handle q next).Plays ds (.done r) →
      ∃ es, Program.Expands next es ds ∧ Attempts q (max 1 settings.maxAttempts) es r ∧
        match BlockParam.classify (methods.spec q.method) q with
        | .concrete (.number n) => AskedForNumber settings q n es r
        | .absent => AskedOnNewHeads q es r ∧ ∀ d, Told.reply (.sleep d) () ∉ es
        | _ => es = [.reply (.send q) r]) ∧
    ∀ {s capacities tables t b b' a h t' c c' x d k p'},
      (Machine.start s capacities tables).Learns t b b' a h → b' ++ [a] <+: c →
      (Machine.start s capacities tables).Deals t' c c' x d (.ask .currentHead k) p' →
      ∃ known, d = .reply .currentHead (some known) := by
  refine ⟨fun tell => ?ends, fun ds r hplays => ?course, ?known⟩
  case ends => exact Program.exists_plays tell _ []
  case course =>
    rw [← through_retryOnEmpty hspec] at hplays
    obtain ⟨es, hexpands, hes⟩ := Program.exists_of_through hplays
    refine ⟨es, hexpands, ?_⟩
    split
    case h_1 n hblock =>
      exact course_of_number hspec hblock hes
    case h_2 hblock =>
      rw [retryOnEmpty_of_absent hspec hblock] at hes
      have hasked := askedOnNewHeads_of_askOnNewHead hes
      exact ⟨attempts_of_askOnNewHead hes, hasked, hasked.never_sleeps⟩
    case h_3 hnumber habsent =>
      rw [retryOnEmpty_of_other hspec hnumber habsent] at hes
      obtain rfl := plays_send hes
      exact ⟨attempts_once q settings r, rfl⟩
  case known =>
    intro s capacities tables t b b' a h t' c c' x d k p' hlearns hlater hd
    obtain ⟨known, hknown, -⟩ := hlearns.knows.of_isPrefix hlater
    exact ⟨known, by rw [hd.of_currentHead.1, hknown]⟩

/-! ### A node that needs a second -/

def balanceAtHundred : Request :=
  ⟨.number 7, "eth_getBalance", [.string "0xaa", .string "0x64"]⟩

def retriedBalances : MethodTable :=
  [("eth_getBalance", { cache := .block, blockParam := some 1, retryOnEmpty := true })]

/-- The block is that of the head; the first result is empty, and the second, a pause later, is
not. -/
def emptyOnce : List Told :=
  [.reply (.query .latest) (.ok ⟨100, .ofNat 100⟩),
    .reply (.send balanceAtHundred) (.ok .null),
    .reply .currentHead (some ⟨100, .ofNat 100⟩),
    .reply (.count .retries) (),
    .reply (.sleep (.ofSeconds 1)) (),
    .reply (.query .latest) (.ok ⟨101, .ofNat 101⟩),
    .reply (.send balanceAtHundred) (.ok (.string "0x10"))]

theorem plays_emptyOnce :
    ((Stage.retryOnEmpty retriedBalances .default).handle balanceAtHundred .send).Plays emptyOnce
      (.done (.ok (.string "0x10"))) :=
  .ask (.ask (.ask (.ask (.ask (.ask (.ask .refl))))))

theorem retryOnEmpty_outcome_of_emptyOnce :
    ∃ es, Program.Expands .send es emptyOnce ∧
      Attempts balanceAtHundred 10 es (.ok (.string "0x10")) ∧
      AskedForNumber .default balanceAtHundred 100 es (.ok (.string "0x10")) :=
  (retryOnEmpty_outcome retriedBalances .default balanceAtHundred .send rfl).2.1 _ _ plays_emptyOnce

end Stage

end EthRpc
