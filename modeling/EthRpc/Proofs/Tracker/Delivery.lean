-- SUMMARY: What a subscriber is given: all changes since it came, in order, but for those that it left unread too long.
import Mathlib.Data.List.Chain
import EthRpc.Proofs.Machine.Audience
import EthRpc.Proofs.Tracker.Records

/-!
# Delivery

The changes that were made since a subscription began are of two kinds: those up
to the last one that the subscriber was given, and those behind it. Of the
latter, the last 64 can still be read. Each reading gives the first of these and
moves it to the former, together with those before it that are lost.
-/

namespace EthRpc

/-! ## The history of changes -/

/-- A change goes on from the head that the one before it went to, and goes up. -/
def HeadChange.Follows (c c' : HeadChange) : Prop :=
  c'.previous = some c.current ∧ c.current.number < c'.current.number

/-- The changes form a chain that ends at the tracked head. -/
structure Tracker.Linked (t : Tracker) : Prop where
  chain : t.changes.IsChain HeadChange.Follows
  head : t.head? = t.changes.getLast?.map (·.current)

theorem Tracker.Linked.observe {t : Tracker} (ht : t.Linked) (h : BlockHead) (now : Duration) :
    (t.observe h now).Linked := by
  have hhead := ht.head
  unfold Tracker.observe
  split
  next previous hprevious =>
    split
    next => exact ⟨ht.chain, hhead.symm ▸ hprevious.symm⟩
    next hgt =>
      refine ⟨List.isChain_append.2 ⟨ht.chain, .singleton _, ?_⟩, by simp [head?]⟩
      intro c hc c' hc'
      obtain rfl : _ = c' := by simpa using hc'
      rw [hprevious, Option.mem_def.1 hc] at hhead
      cases hhead
      exact ⟨rfl, Nat.lt_of_not_le hgt⟩
  next hnone =>
    have hnil : t.changes = [] := by
      rw [hnone] at hhead
      simpa using hhead.symm
    exact ⟨by simp [hnil], by simp [head?]⟩

namespace Machine

theorem linked_run (settings : Tracker.Settings) (capacities : List Nat) (tables : Nat)
    (actions : List Action) :
    ((start settings capacities tables).run actions).tracker.Linked := by
  induction actions using List.reverseRecOn with
  | nil => exact ⟨.nil, rfl⟩
  | append_singleton actions a ih =>
    rw [run_concat]
    cases ha : ((start settings capacities tables).run actions).reported? a with
    | none =>
      obtain ⟨hobserved, hchanges⟩ := tracker_act_of_reported?_none ha
      refine ⟨hchanges ▸ ih.chain, ?_⟩
      rw [Tracker.head?, hobserved, hchanges]
      exact ih.head
    | some h =>
      rw [tracker_act_of_reported? ha]
      exact ih.observe h _

end Machine

/-! ## One reading -/

namespace Subscription

variable {s : Subscription} {t : Tracker}

theorem next?_of_change {s' : Subscription} {c : HeadChange} (h : s.read t = (.change c, s')) :
    s.next? t = some (c, s') := by
  rw [next?.eq_def]
  split <;> simp_all only [Prod.mk.injEq, reduceCtorEq, false_and, Reading.change.injEq]

theorem next?_of_lagged {s' : Subscription} {missed : Nat} (h : s.read t = (.lagged missed, s')) :
    s.next? t = s'.next? t := by
  rw [next?.eq_def]
  split <;> simp_all only [Prod.mk.injEq, reduceCtorEq, false_and]

theorem next?_of_empty {s' : Subscription} (h : s.read t = (.empty, s')) : s.next? t = none := by
  rw [next?.eq_def]
  split <;> simp_all only [Prod.mk.injEq, reduceCtorEq, false_and]

theorem next?_of_le (h : oldest t ≤ s.position) :
    s.next? t = (t.changes[s.position]?).map fun c => (c, ⟨s.position + 1⟩) := by
  cases hc : t.changes[s.position]? with
  | none => exact next?_of_empty (by rw [read, if_neg (Nat.not_lt.2 h), hc])
  | some c => exact next?_of_change (by rw [read, if_neg (Nat.not_lt.2 h), hc])

/-- A subscriber that is told of a lag reads again, and is told of none then. -/
theorem next?_eq (s : Subscription) (t : Tracker) :
    s.next? t = (t.changes[max s.position (oldest t)]?).map fun c =>
      (c, ⟨max s.position (oldest t) + 1⟩) := by
  rcases Nat.lt_or_ge s.position (oldest t) with hbehind | hle
  · have hread : s.read t = (.lagged (oldest t - s.position), ⟨oldest t⟩) := if_pos hbehind
    rw [next?_of_lagged hread, Nat.max_eq_right (Nat.le_of_lt hbehind)]
    exact next?_of_le (Nat.le_refl _)
  · rw [Nat.max_eq_left hle]
    exact next?_of_le hle

/-! ## What a subscriber was given -/

/-- Of changes that can be read in time, those that still can. -/
def kept (pending : List HeadChange) : List HeadChange :=
  pending.drop (pending.length - Tracker.backlog)

/-- A subscriber was given some of the changes that were made after some earlier ones: some of those
that are gone, up to the last of these, and none of those that are pending. -/
structure Given (s : Subscription) (t : Tracker) (earlier given gone pending : List HeadChange) :
    Prop where
  changes : t.changes = earlier ++ gone ++ pending
  position : s.position = (earlier ++ gone).length
  sublist : given.Sublist gone
  last : given.getLast? = gone.getLast?

section Given

variable {earlier given gone pending : List HeadChange}

theorem kept_eq_self (h : pending.length ≤ Tracker.backlog) : kept pending = pending := by
  rw [kept, Nat.sub_eq_zero_of_le h, List.drop_zero]

theorem kept_ne_nil (h : pending ≠ []) : kept pending ≠ [] := by
  have hpos := List.length_pos_iff.2 h
  have hbacklog : 0 < Tracker.backlog := by decide
  simp only [kept, ne_eq, List.drop_eq_nil_iff]
  omega

theorem length_kept_le (pending : List HeadChange) : (kept pending).length ≤ Tracker.backlog := by
  simp only [kept, List.length_drop]
  omega

theorem given_start (t : Tracker) : (start t).Given t t.changes [] [] [] :=
  ⟨by simp, by simp [start], .slnil, rfl⟩

variable (h : s.Given t earlier given gone pending)

include h

theorem Given.grow {t' : Tracker} {new : List HeadChange} (ht : t'.changes = t.changes ++ new) :
    s.Given t' earlier given gone (pending ++ new) :=
  ⟨by rw [ht, h.changes, List.append_assoc], h.position, h.sublist, h.last⟩

/-- A reading gives the first change that is kept, and those before it are gone with it. -/
theorem Given.next? : kept pending = [] ∧ s.next? t = none ∨
    ∃ c rest s', kept pending = c :: rest ∧ s.next? t = some (c, s') ∧
      s'.Given t earlier (given ++ [c])
        (gone ++ pending.take (pending.length - Tracker.backlog) ++ [c]) rest := by
  have hmax : max s.position (oldest t) =
      (earlier ++ gone).length + (pending.length - Tracker.backlog) := by
    simp only [oldest, h.position, h.changes, List.length_append]
    omega
  have hnext : s.next? t = (kept pending).head?.map fun c =>
      (c, ⟨(earlier ++ gone).length + (pending.length - Tracker.backlog) + 1⟩) := by
    rw [next?_eq, hmax, h.changes, List.getElem?_append_right (Nat.le_add_right _ _),
      Nat.add_sub_cancel_left, kept, List.head?_drop]
  have hsplit := List.take_append_drop (pending.length - Tracker.backlog) pending
  cases hkept : kept pending with
  | nil => exact .inl ⟨rfl, by rw [hnext, hkept]; rfl⟩
  | cons c rest =>
    refine .inr ⟨c, rest, _, rfl, by rw [hnext, hkept]; rfl, ?_, ?_, ?_, ?_⟩
    · have hpending : pending =
          pending.take (pending.length - Tracker.backlog) ++ c :: rest := by
        rw [← hkept, kept, hsplit]
      rw [h.changes]
      refine (congrArg (earlier ++ gone ++ ·) hpending).trans ?_
      simp
    · simp only [List.length_append, List.length_take, List.length_singleton]
      omega
    · exact (h.sublist.trans (List.sublist_append_left _ _)).append (List.Sublist.refl _)
    · rw [List.getLast?_concat, List.getLast?_concat]

end Given

end Subscription

namespace Machine

/-! ## One action -/

/-- The change that an action gives to a subscriber. -/
def given? (m : Machine) (i : Nat) : Action → Option HeadChange
  | .receive j => if j = i then (m.receive i).map (·.1) else none
  | _ => none

/-- The changes that a subscriber is given in a run, in order. -/
def received (m : Machine) (i : Nat) : List Action → List HeadChange
  | [] => []
  | a :: rest => (m.given? i a).toList ++ (m.act a).received i rest

section Step

variable {m : Machine} {a : Action} {i : Nat} {s : Subscription}

theorem received_append (m : Machine) (i : Nat) (b c : List Action) :
    m.received i (b ++ c) = m.received i b ++ (m.run b).received i c := by
  induction b generalizing m with
  | nil => rfl
  | cons a b ih => simp only [List.cons_append, received, ih, List.append_assoc]; rfl

theorem received_concat (m : Machine) (i : Nat) (b : List Action) (a : Action) :
    m.received i (b ++ [a]) = m.received i b ++ ((m.run b).given? i a).toList := by
  rw [received_append, received, received, List.append_nil]

theorem exists_changes_act (m : Machine) (a : Action) :
    ∃ new, (m.act a).tracker.changes = m.tracker.changes ++ new := by
  cases ha : m.reported? a with
  | none => exact ⟨[], by rw [(tracker_act_of_reported?_none ha).2, List.append_nil]⟩
  | some h =>
    rw [tracker_act_of_reported? ha]
    unfold Tracker.observe
    split
    · split
      · exact ⟨[], (List.append_nil _).symm⟩
      · exact ⟨_, rfl⟩
    · exact ⟨_, rfl⟩

/-- A subscription is left alone, or ended for good, or gives the next change. -/
theorem subscription_act {slot : Option Subscription} (hold : m.subscriptions[i]? = some slot)
    (a : Action) :
    (m.act a).subscriptions[i]? = some slot ∧ m.given? i a = none ∨
      (m.act a).subscriptions[i]? = some none ∧ m.given? i a = none ∨
      ∃ s c s', a = .receive i ∧ slot = some s ∧ s.next? m.tracker = some (c, s') ∧
        m.given? i a = some c ∧ (m.act a).subscriptions[i]? = some (some s') := by
  cases a with
  | subscribe =>
    have hlt : i < m.subscriptions.size := (Array.getElem?_eq_some_iff.1 hold).1
    refine .inl ⟨?_, rfl⟩
    show m.subscribe.subscriptions[i]? = _
    rw [m.subscribe_spec.2.1, Array.getElem?_push, if_neg (Nat.ne_of_lt hlt), hold]
  | unsubscribe j =>
    have hreleased : (m.released j).subscriptions[i]? = some slot ∨
        (m.released j).subscriptions[i]? = some none := by
      simp only [released, Array.getElem?_modify, hold]
      split
      · exact .inr rfl
      · exact .inl rfl
    have hsubscriptions : (m.unsubscribe j).subscriptions[i]? = some slot ∨
        (m.unsubscribe j).subscriptions[i]? = some none := by
      rcases m.unsubscribe_cases j with ⟨h, -⟩ | ⟨-, ⟨-, h⟩ | ⟨-, ⟨-, h⟩ | ⟨t, -, h⟩⟩⟩
      · rw [h]
        exact .inl hold
      · rwa [h]
      · rwa [h]
      · rw [h]
        show ((m.released j).stopLoop t).subscriptions[i]? = _ ∨ _
        rwa [(quiet_stopLoop (m.released j) t).subscriptions]
    rcases hsubscriptions with h | h
    · exact .inl ⟨h, rfl⟩
    · exact .inr (.inl ⟨h, rfl⟩)
  | receive j =>
    by_cases hj : j = i
    · subst hj
      simp only [given?, act, receive, hold, if_true]
      cases slot with
      | none => exact .inl ⟨hold, rfl⟩
      | some s =>
        cases hnext : s.next? m.tracker with
        | none => exact .inl ⟨by simpa [hnext] using hold, by simp [hnext]⟩
        | some next =>
          refine .inr (.inr ⟨s, next.1, next.2, trivial, rfl, hnext, by simp [hnext], ?_⟩)
          simp [hnext, Array.getElem?_modify, hold]
    · refine .inl ⟨?_, if_neg hj⟩
      rcases m.receive_cases j with h | ⟨s₁, s₂, -, h⟩
      · rw [h, hold]
      · rw [h]
        simp only [Array.getElem?_modify, if_neg hj, hold]
  | pass d => exact .inl ⟨hold, rfl⟩
  | _ =>
    refine .inl ⟨?_, rfl⟩
    rw [(undisturbed_act rfl).subscriptions, hold]

/-- Reading is no matter of the tracker. -/
theorem tracker_receive (m : Machine) (i : Nat) : (m.act (.receive i)).tracker = m.tracker := by
  rw [(effect_act m _).tracker]
  rfl

end Step

/-! ## Runs -/

section Run

variable {m : Machine} {i : Nat} {s : Subscription} {earlier : List HeadChange}
  {actions : List Action}

/-- The changes that were made in a run. -/
def emitted (m : Machine) (actions : List Action) : List HeadChange :=
  (m.run actions).tracker.changes.drop m.tracker.changes.length

/-- A subscriber never leaves more changes unread than can be kept for it. -/
def KeepsUp (m : Machine) (i : Nat) (actions : List Action) : Prop :=
  ∀ now, now <+: actions →
    (m.emitted now).length ≤ (m.received i now).length + Tracker.backlog

/-- After a run, a subscriber was given some of the changes of the run, all of them up to the last
one if it has kept up, and the next ones are pending if the subscription has not ended. -/
structure Delivers (m : Machine) (i : Nat) (actions : List Action) : Prop where
  received : (m.received i actions).Sublist (m.emitted actions)
  live : ∀ s, (m.run actions).subscriptions[i]? = some (some s) → ∃ gone pending,
    s.Given (m.run actions).tracker m.tracker.changes (m.received i actions) gone pending ∧
      (m.KeepsUp i actions → m.received i actions = gone)
  slot : ∃ slot, (m.run actions).subscriptions[i]? = some slot

theorem emitted_eq {s : Subscription} {given gone pending : List HeadChange}
    (h : s.Given (m.run actions).tracker m.tracker.changes given gone pending) :
    m.emitted actions = gone ++ pending := by
  rw [emitted, h.changes, List.append_assoc, List.drop_left]

theorem emitted_concat (m : Machine) (actions : List Action) (a : Action) :
    (m.emitted actions).Sublist (m.emitted (actions ++ [a])) := by
  obtain ⟨new, hnew⟩ := exists_changes_act (m.run actions) a
  have hrun : (m.run (actions ++ [a])).tracker.changes =
      (m.run actions).tracker.changes ++ new := by rw [run_concat, hnew]
  rw [emitted, emitted, hrun]
  exact (List.sublist_append_left _ _).drop _

/-- Whatever happens, a subscriber is given nothing or the next change that is kept. -/
theorem Delivers.concat (h : m.Delivers i actions) (a : Action) :
    m.Delivers i (actions ++ [a]) := by
  have hrun := run_concat m actions a
  have hreceived := received_concat m i actions a
  obtain ⟨slot, hslot⟩ := h.slot
  have hkeepsUp (hup : m.KeepsUp i (actions ++ [a])) : m.KeepsUp i actions :=
    fun now hnow => hup now (hnow.trans (List.prefix_append _ _))
  rcases subscription_act hslot a with ⟨hsame, hnone⟩ | ⟨hended, hnone⟩ |
    ⟨s, c, s', rfl, rfl, hnext, hgiven, hnew⟩
  · rw [hnone, Option.toList_none, List.append_nil] at hreceived
    refine ⟨?_, fun s hs => ?_, slot, hrun ▸ hsame⟩
    · rw [hreceived]
      exact h.received.trans (emitted_concat m actions a)
    · rw [hrun, hsame] at hs
      cases hs
      obtain ⟨gone, pending, hstands, hup⟩ := h.live s hslot
      obtain ⟨new, hnew⟩ := exists_changes_act (m.run actions) a
      rw [hreceived, hrun]
      exact ⟨gone, pending ++ new, hstands.grow hnew, fun h => hup (hkeepsUp h)⟩
  · rw [hnone, Option.toList_none, List.append_nil] at hreceived
    refine ⟨?_, fun s hs => ?_, none, hrun ▸ hended⟩
    · rw [hreceived]
      exact h.received.trans (emitted_concat m actions a)
    · rw [hrun, hended] at hs
      cases hs
  · obtain ⟨gone, pending, hstands, hup⟩ := h.live s hslot
    rcases hstands.next? with ⟨-, hnone⟩ | ⟨c', rest, s'', -, hsome, hstands'⟩
    · rw [hnext] at hnone
      cases hnone
    rw [hnext] at hsome
    cases hsome
    rw [← tracker_receive, ← hrun] at hstands'
    rw [hgiven, Option.toList_some] at hreceived
    refine ⟨?_, fun s hs => ?_, some s', hrun ▸ hnew⟩
    · rw [hreceived, emitted_eq hstands']
      exact hstands'.sublist.trans (List.sublist_append_left _ _)
    · rw [hrun, hnew] at hs
      cases hs
      rw [hreceived]
      refine ⟨_, rest, hstands', fun hall => ?_⟩
      -- Who has kept up has missed nothing so far, and has no more to read than can be kept.
      have hgone := hup (hkeepsUp hall)
      have hle := hall actions (List.prefix_append _ _)
      rw [emitted_eq hstands, hgone, List.length_append, Nat.add_le_add_iff_left] at hle
      rw [hgone, Nat.sub_eq_zero_of_le hle, List.take_zero, List.append_nil]

theorem delivers_run (m : Machine) (actions : List Action) :
    m.subscribe.Delivers m.subscriptions.size actions := by
  have hspec := m.subscribe_spec.2.1
  have htracker : m.subscribe.tracker = m.tracker := by
    simp only [subscribe]
    split <;> rfl
  induction actions using List.reverseRecOn with
  | nil =>
    have hslot : (m.subscribe.run []).subscriptions[m.subscriptions.size]? =
        some (some (.start m.tracker)) := by
      show m.subscribe.subscriptions[m.subscriptions.size]? = _
      rw [hspec, Array.getElem?_push_size]
    refine ⟨List.nil_sublist _, fun s hs => ?_, _, hslot⟩
    rw [hslot] at hs
    cases hs
    refine ⟨[], [], ?_, fun _ => rfl⟩
    rw [← htracker]
    exact Subscription.given_start _
  | append_singleton actions a ih => exact ih.concat a

/-! ## Reading on -/

/-- Whoever reads on without anything else happening is given all that is kept. -/
theorem received_replicate {given gone pending : List HeadChange} (n : Nat)
    (hs : m.subscriptions[i]? = some (some s))
    (h : s.Given m.tracker earlier given gone pending) :
    m.received i (List.replicate n (.receive i)) = (Subscription.kept pending).take n := by
  induction n generalizing m s given gone pending with
  | zero => rfl
  | succ n ih =>
    rw [List.replicate_succ, received]
    rcases h.next? with ⟨hkept, hnone⟩ | ⟨c, rest, s', hkept, hsome, h'⟩
    · have hreceive : m.receive i = none := by simp only [receive, hs, hnone, Option.map_none]
      have hact : m.act (.receive i) = m := by simp only [act, hreceive]; rfl
      have hgiven : m.given? i (.receive i) = none := by simp only [given?, hreceive]; rfl
      rw [hact, hgiven, ih hs h, hkept, List.take_nil, List.take_nil]
      rfl
    · have hreceive : m.receive i = some (c, { m with
          subscriptions := m.subscriptions.modify i fun _ => some s' }) := by
        simp only [receive, hs, hsome, Option.map_some]
      have hgiven : m.given? i (.receive i) = some c := by simp only [given?, hreceive]; rfl
      have hs' : (m.act (.receive i)).subscriptions[i]? = some (some s') := by
        simp only [act, hreceive, Option.map_some, Option.getD_some, Array.getElem?_modify, hs]
        rfl
      rw [← tracker_receive m i] at h'
      have hrest : rest.length ≤ Tracker.backlog := by
        have hle := Subscription.length_kept_le pending
        rw [hkept] at hle
        exact Nat.le_of_succ_le hle
      rw [hgiven, ih hs' h', Subscription.kept_eq_self hrest, hkept]
      rfl

end Run

/-- From the moment of a subscription on, whatever happens, a subscriber is given changes that were
made since, in their order and each once. All changes behind the last one that it was given are
pending; the last 64 of these are kept for it and are what it is given next, and those before them
are lost. Nothing is lost as long as no more than 64 changes are unread. -/
theorem changes_delivered_in_order (settings : Tracker.Settings) (capacities : List Nat)
    (tables : Nat) (before actions : List Action) :
    let m₀ := ((start settings capacities tables).run before).subscribe
    let i := ((start settings capacities tables).run before).subscriptions.size
    let m := m₀.run actions
    (m₀.received i actions).Sublist (m₀.emitted actions) ∧
      (m₀.received i actions).Pairwise (fun c c' => c.current.number < c'.current.number) ∧
      (m₀.emitted actions).IsChain (fun c c' => c'.previous = some c.current) ∧
      ∀ s, m.subscriptions[i]? = some (some s) → ∃ gone pending,
        m₀.emitted actions = gone ++ pending ∧
        (m₀.received i actions).getLast? = gone.getLast? ∧
        (m.receive i).map (·.1) = (pending.drop (pending.length - 64)).head? ∧
        (pending ≠ [] → (m.receive i).isSome) ∧
        (∀ n, m.received i (List.replicate n (.receive i)) =
          (pending.drop (pending.length - 64)).take n) ∧
        ((∀ now, now <+: actions →
            (m₀.emitted now).length ≤ (m₀.received i now).length + 64) →
          m₀.received i actions ++ pending.drop (pending.length - 64) = m₀.emitted actions) := by
  intro m₀ i m
  have hdelivers : m₀.Delivers i actions := delivers_run _ actions
  have hlinked : m.tracker.Linked := by
    have hrun : m = (start settings capacities tables).run (before ++ .subscribe :: actions) := by
      rw [run_append]
      rfl
    rw [hrun]
    exact linked_run ..
  have hchain : (m₀.emitted actions).IsChain HeadChange.Follows := hlinked.chain.drop _
  refine ⟨hdelivers.received, ?ascending, hchain.imp fun _ _ h => h.1, ?live⟩
  case ascending =>
    let Below (c c' : HeadChange) : Prop := c.current.number < c'.current.number
    have : Trans Below Below Below := ⟨Nat.lt_trans⟩
    have hascending : (m₀.emitted actions).IsChain Below := hchain.imp fun _ _ h => h.2
    exact hascending.pairwise.sublist hdelivers.received
  case live =>
    intro s hs
    obtain ⟨gone, pending, hgiven, hup⟩ := hdelivers.live s hs
    have hemitted := emitted_eq hgiven
    have hall (n : Nat) := received_replicate n hs hgiven
    have hnext : (m.receive i).map (·.1) = (Subscription.kept pending).head? := by
      have hone := hall 1
      rw [List.replicate_one, received, received, List.append_nil, given?, if_pos rfl] at hone
      cases hreceive : (m.receive i).map (·.1) <;> rw [hreceive] at hone <;>
        cases hkept : Subscription.kept pending <;> simp_all
    refine ⟨gone, pending, hemitted, hgiven.last, hnext, fun hne => ?_, hall, fun hkeeps => ?_⟩
    · rw [← Option.isSome_map, hnext, List.isSome_head?]
      simpa using Subscription.kept_ne_nil hne
    · have hgone := hup hkeeps
      have hle := hkeeps actions (List.prefix_refl _)
      rw [hemitted, hgone, List.length_append, Nat.add_le_add_iff_left] at hle
      show _ ++ Subscription.kept pending = _
      rw [Subscription.kept_eq_self hle, hemitted, hgone]

end Machine

end EthRpc
