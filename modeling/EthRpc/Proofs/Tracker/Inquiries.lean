-- SUMMARY: Who wants the tracked head to catch up with a number goes on once it has, or with a poll of its own.
import EthRpc.Proofs.Machine.Lives
import EthRpc.Proofs.Tracker.Polls

/-!
# Catching up with a number

A task that asks the tracker to catch up with a number looks at the head at once
and again when it has the turn, as somebody else may have polled meanwhile. So it
goes on when there is no head to compare with, when the tracked head has come to
the number, or when its own poll is over, whatever that brings. The number itself
is only compared with: the tracked head is what polls report.
-/

namespace EthRpc.Machine

/-! ## From the question to the answer -/

/-- Between two moments, a task has sent a poll. -/
def HasPolled (m : Machine) (t : TaskId) (b now : List Action) : Prop :=
  ∃ poll q, b <+: poll ∧ poll ++ [.step t] <+: now ∧ .sent t true q ∈ (m.run poll).events (.step t)

/-- A task that has asked at some moment to catch up with a number is at it. -/
inductive Inquires (m : Machine) (t : TaskId) (n : Nat) (k : (Query.ifBehind n).Answer → Program)
    (b now : List Action) : Prop where
  | comes : (m.run now).activity? t = some (.running (.ask (.query (.ifBehind n)) k)) →
      Inquires m t n k b now
  | wants {old : Activity} : (m.run now).activity? t = some old →
      old.Wants (.query (.ifBehind n) k) → Inquires m t n k b now
  | polls {poll : Request} : (m.run now).activity? t = some (.polling poll (.query (.ifBehind n) k)) →
      m.HasPolled t b now → Inquires m t n k b now
  | hears {r : Outcome} : (m.run now).activity? t = some (.polled r (.query (.ifBehind n) k)) →
      m.HasPolled t b now → Inquires m t n k b now

/-- Why a task that has asked at some moment need not do more to catch up with a number, as it is
told by an action: there is no head, or it has come to the number, or the task has sent a poll of
its own that is over. -/
inductive CaughtUp (m : Machine) (t : TaskId) (n : Nat) (b last : List Action) (a : Action) :
    Prop where
  | unknown : (m.run last).tracker.head? = none → CaughtUp m t n b last a
  | reached : (m.run (last ++ [a])).Knows n → CaughtUp m t n b last a
  | polled {r : Except RpcError BlockHead} : m.HasPolled t b last →
      .polled t r ∈ (m.run last).events a → CaughtUp m t n b last a

/-- By an action, a task leaves the question: it goes on with an answer, or is taken down, or goes
away. -/
inductive Leaves (m : Machine) (t : TaskId) (n : Nat) (k : (Query.ifBehind n).Answer → Program)
    (b last : List Action) (a : Action) : Prop where
  | answered {answer : (Query.ifBehind n).Answer} :
      (m.run (last ++ [a])).activity? t = some (.running (k answer)) →
      m.CaughtUp t n b last a → Leaves m t n k b last a
  | crashed : (m.run (last ++ [a])).activity? t = some .crashed → Leaves m t n k b last a
  | cancelled : (m.run (last ++ [a])).activity? t = some .cancelled → Leaves m t n k b last a

section Inquires

variable {m : Machine} {t : TaskId} {n : Nat} {k : (Query.ifBehind n).Answer → Program}
  {b now last actions : List Action} {a : Action} {old new : Activity}

theorem HasPolled.later (h : m.HasPolled t b now) (a : Action) : m.HasPolled t b (now ++ [a]) := by
  obtain ⟨poll, q, hb, hnow, hsent⟩ := h
  exact ⟨poll, q, hb, hnow.trans (List.prefix_append _ _), hsent⟩

/-- Who need not poll to catch up with a number knows no head, or one that has come to it. -/
theorem caughtUp_of_answer? {answer : (Query.ifBehind n).Answer}
    (h : (m.run last).tracker.answer? (m.run last).isRunning (m.run last).now (.ifBehind n) =
      some answer) : m.CaughtUp t n b last a := by
  have hnot : (m.run last).tracker.isBehind n = false := by
    by_contra hbehind
    simp [Tracker.answer?, hbehind] at h
  unfold Tracker.isBehind at hnot
  split at hnot
  next hnone => exact .unknown hnone
  next head hhead =>
    refine .reached ?_
    have hknows : (m.run last).Knows n := ⟨head, hhead, by simpa using hnot⟩
    exact hknows.of_isPrefix (List.prefix_append _ _)

section Moves

variable (hnew : (m.run (now ++ [a])).activity? t = some new)

include hnew

theorem inquires_or_leaves_of_comes
    (hmoves : Moves (m.run now) a t (.running (.ask (.query (.ifBehind n)) k)) new) :
    m.Inquires t n k b (now ++ [a]) ∨ m.Leaves t n k b now a := by
  cases hmoves with
  | stay | stopped => exact .inl (.comes hnew)
  | crashed => exact .inr (.crashed hnew)
  | cancelled => exact .inr (.cancelled hnew)
  | own hadv =>
    cases hadv with
    | reply hr =>
      cases hr with
      | known ha => exact .inr (.answered hnew (caughtUp_of_answer? ha))
    | inquire => exact .inl (.wants hnew .seeking)
    | learn hl _ | poll hl _ | give hl => cases hl

theorem inquires_or_leaves_of_wants (hb : b <+: now)
    (hold : (m.run now).activity? t = some old) (hw : old.Wants (.query (.ifBehind n) k))
    (hmoves : Moves (m.run now) a t old new) :
    m.Inquires t n k b (now ++ [a]) ∨ m.Leaves t n k b now a := by
  cases hmoves with
  | stay => exact .inl (.wants hnew hw)
  | crashed => exact .inr (.crashed hnew)
  | cancelled => exact .inr (.cancelled hnew)
  | admitted =>
    cases hw
    exact .inl (.wants hnew .admitted)
  | stopped =>
    have hstop : old.stop = old := by cases hw <;> rfl
    rw [hstop] at hnew
    exact .inl (.wants hnew hw)
  | own hadv =>
    cases hadv with
    | wait =>
      cases hw
      exact .inl (.wants hnew .queued)
    | learn hl ha =>
      cases hl.wants hw
      exact .inr (.answered hnew (caughtUp_of_answer? ha))
    | poll hl hneeds =>
      cases hl.wants hw
      have hevents := events_of_needsPoll hold hl hneeds
      have hpolled : m.HasPolled t b (now ++ [.step t]) :=
        ⟨now, _, hb, List.prefix_refl _, hevents ▸ List.mem_singleton_self _⟩
      exact .inl (.polls hnew hpolled)
    | give hl => cases hl.wants hw
    | _ => cases hw
  | _ => cases hw

theorem inquires_or_leaves_of_polls {poll : Request} (hpolled : m.HasPolled t b now)
    (hmoves : Moves (m.run now) a t (.polling poll (.query (.ifBehind n) k)) new) :
    m.Inquires t n k b (now ++ [a]) ∨ m.Leaves t n k b now a := by
  cases hmoves with
  | stay | stopped => exact .inl (.polls hnew (hpolled.later _))
  | informed => exact .inl (.hears hnew (hpolled.later _))
  | crashed => exact .inr (.crashed hnew)
  | cancelled => exact .inr (.cancelled hnew)
  | own hadv =>
    cases hadv with
    | learn hl _ | poll hl _ | give hl => cases hl

theorem inquires_or_leaves_of_hears {r : Outcome} (hpolled : m.HasPolled t b now)
    (hold : (m.run now).activity? t = some (.polled r (.query (.ifBehind n) k)))
    (hmoves : Moves (m.run now) a t (.polled r (.query (.ifBehind n) k)) new) :
    m.Inquires t n k b (now ++ [a]) ∨ m.Leaves t n k b now a := by
  cases hmoves with
  | stay | stopped => exact .inl (.hears hnew (hpolled.later _))
  | crashed => exact .inr (.crashed hnew)
  | cancelled => exact .inr (.cancelled hnew)
  | own hadv =>
    cases hadv with
    | digest =>
      have hended : .polled t (Tracker.polledHead r) ∈ (m.run now).events (.step t) := by
        simp [events, hold]
      exact .inr (.answered hnew (.polled hpolled hended))
    | learn hl _ | poll hl _ | give hl => cases hl

end Moves

/-- Whatever happens, a task that is at a question stays at it or leaves it. -/
theorem Inquires.act (h : m.Inquires t n k b now) (hb : b <+: now) (a : Action) :
    m.Inquires t n k b (now ++ [a]) ∨ m.Leaves t n k b now a := by
  have hmovesTo (old : Activity) (hold : (m.run now).activity? t = some old) :
      ∃ new, (m.run (now ++ [a])).activity? t = some new ∧ Moves (m.run now) a t old new := by
    rw [run_concat]
    exact movesTo_act (m.run now) a t old hold
  cases h with
  | comes hold =>
    obtain ⟨new, hnew, hmoves⟩ := hmovesTo _ hold
    exact inquires_or_leaves_of_comes hnew hmoves
  | wants hold hw =>
    obtain ⟨new, hnew, hmoves⟩ := hmovesTo _ hold
    exact inquires_or_leaves_of_wants hnew hb hold hw hmoves
  | polls hold hpolled =>
    obtain ⟨new, hnew, hmoves⟩ := hmovesTo _ hold
    exact inquires_or_leaves_of_polls hnew hpolled hmoves
  | hears hold hpolled =>
    obtain ⟨new, hnew, hmoves⟩ := hmovesTo _ hold
    exact inquires_or_leaves_of_hears hnew hpolled hold hmoves

/-- A task that comes to a question is at it up to some moment, and there it leaves it if there is
more to the run. -/
theorem exists_inquiry
    (hcomes : (m.run b).activity? t = some (.running (.ask (.query (.ifBehind n)) k)))
    (hb : b <+: actions) :
    ∃ last, b <+: last ∧ last <+: actions ∧
      (∀ now, b <+: now → now <+: last → m.Inquires t n k b now) ∧
      (last = actions ∨ ∃ a, last ++ [a] <+: actions ∧ m.Leaves t n k b last a) := by
  obtain ⟨rest, rfl⟩ := hb
  induction rest using List.reverseRecOn with
  | nil =>
    rw [List.append_nil]
    refine ⟨b, List.prefix_refl _, List.prefix_refl _, fun now hb hnow => ?_, .inl rfl⟩
    obtain rfl := hb.eq_of_length_le hnow.length_le
    exact .comes hcomes
  | append_singleton rest a ih =>
    rw [← List.append_assoc]
    obtain ⟨last, hb, hlast, hat, rfl | ⟨x, hx, hleaves⟩⟩ := ih
    · rcases (hat _ hb (List.prefix_refl _)).act hb a with hstays | hleaves
      · refine ⟨_, hb.trans (List.prefix_append _ _), List.prefix_refl _, fun now hb hnow => ?_,
          .inl rfl⟩
        rcases List.prefix_concat_iff.1 hnow with rfl | hnow
        · exact hstays
        · exact hat now hb hnow
      · exact ⟨_, hb, List.prefix_append _ _, hat, .inr ⟨a, List.prefix_refl _, hleaves⟩⟩
    · exact ⟨last, hb, hlast.trans (List.prefix_append _ _), hat,
        .inr ⟨x, hx.trans (List.prefix_append _ _), hleaves⟩⟩

theorem Inquires.isOver_eq_false (h : m.Inquires t n k b now)
    (hold : (m.run now).activity? t = some old) : old.isOver = false := by
  cases h with
  | wants hold' hw =>
    rw [hold] at hold'
    cases hold'
    cases hw <;> rfl
  | comes hold' | polls hold' | hears hold' =>
    rw [hold] at hold'
    cases hold'
    rfl

/-- A task at a question sends a poll only while the number is above the tracked head. -/
theorem Inquires.head?_of_sent (h : m.Inquires t n k b now) {q : Request}
    (hsent : .sent t true q ∈ (m.run now).events a) :
    ∃ head, (m.run now).tracker.head? = some head ∧ head.number < n := by
  obtain ⟨-, -, old, s, hold, hl, hneeds⟩ := exists_of_sent_poll hsent
  have hwarrants := warrants_of_needsPoll hneeds
  have hs : s = .query (.ifBehind n) k := by
    cases h with
    | wants hold' hw =>
      rw [hold] at hold'
      cases hold'
      exact (hl.wants hw).symm
    | comes hold' | polls hold' | hears hold' =>
      rw [hold] at hold'
      cases hold'
      cases hl
  rw [hs] at hwarrants
  exact hwarrants

end Inquires

/-! ## What becomes the tracked head -/

/-- A head that is tracked after an action was tracked before, or is reported by a poll that is over
with this action. -/
theorem head?_act_cases {m : Machine} {a : Action} {head : BlockHead}
    (h : (m.act a).tracker.head? = some head) :
    m.tracker.head? = some head ∨ ∃ t, .polled t (.ok head) ∈ m.events a := by
  cases ha : m.reported? a with
  | none =>
    rw [head?_act_of_reported?_none ha] at h
    exact .inl h
  | some reported =>
    rw [tracker_act_of_reported? ha] at h
    rcases Tracker.head?_observe h with rfl | hold
    · exact .inr (exists_polled_of_reported? ha)
    · exact .inl hold

end EthRpc.Machine
