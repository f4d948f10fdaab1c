-- SUMMARY: A head that a node reports has a number that fits, and the tracked head is as high as what was observed.
import EthRpc.Tracker.Basic

/-!
# Heads
-/

namespace EthRpc

namespace Quantity

theorem lt_of_loose? {s : String} {n : Nat} (h : loose? s = some n) : n < 1 <<< 64 := by
  obtain ⟨m, -, hm⟩ := Option.bind_eq_some_iff.1 h
  obtain ⟨rfl, hlt⟩ := below64?_eq_some_iff.1 hm
  exact hlt

end Quantity

namespace BlockHead

theorem lt_of_looseNumber? {s : Json.Source} {n : Nat} (h : looseNumber? s = some n) :
    n < 1 <<< 64 := by
  unfold looseNumber? at h
  split at h
  next text =>
    obtain ⟨s, -, hs⟩ := Option.bind_eq_some_iff.1 h
    exact Quantity.lt_of_loose? hs
  next =>
    unfold Json.Source.nat? at h
    split at h
    · obtain ⟨rfl, hlt⟩ := below64?_eq_some_iff.1 h
      exact hlt
    · cases h

theorem number_lt_of_ofBlock? {block : Json} {h : BlockHead} (hblock : ofBlock? block = some h) :
    h.number < 1 <<< 64 := by
  unfold ofBlock? at hblock
  split at hblock
  · obtain ⟨n, hn, hrest⟩ := Option.bind_eq_some_iff.1 hblock
    obtain ⟨hash, -, heq⟩ := Option.bind_eq_some_iff.1 hrest
    cases heq
    exact lt_of_looseNumber? hn
  · cases hblock

end BlockHead

namespace Tracker

/-- A polled head has a number that fits into 64 bits. -/
theorem number_lt_of_polledHead {r : Outcome} {h : BlockHead}
    (hr : polledHead r = .ok h) : h.number < 1 <<< 64 := by
  unfold polledHead at hr
  split at hr
  · cases hr
  · split at hr
    next hblock =>
      cases hr
      exact BlockHead.number_lt_of_ofBlock? hblock
    next => cases hr

/-- The tracked head after an observation is the one observed, or the one before if that is as
high. -/
theorem observe_cases (t : Tracker) (h : BlockHead) (now : Duration) :
    ∃ c, (t.observe h now).head? = some c ∧ (c = h ∨ t.head? = some c ∧ h.number ≤ c.number) ∧
      ∀ old, t.head? = some old → old.number ≤ c.number := by
  unfold observe
  cases hhead : t.head? with
  | none => exact ⟨h, rfl, .inl rfl, nofun⟩
  | some previous =>
    dsimp only
    split
    next hle =>
      refine ⟨previous, rfl, .inr ⟨rfl, hle⟩, fun old ho => ?_⟩
      cases ho
      exact Nat.le_refl _
    next hgt =>
      refine ⟨h, rfl, .inl rfl, fun old ho => ?_⟩
      cases ho
      exact Nat.le_of_not_le hgt

theorem head?_observe {t : Tracker} {h head : BlockHead} {now : Duration}
    (hhead : (t.observe h now).head? = some head) : head = h ∨ t.head? = some head := by
  obtain ⟨c, hc, hcases, -⟩ := t.observe_cases h now
  rw [hc] at hhead
  cases hhead
  exact hcases.imp_right And.left

/-- Who need not poll for the latest head is told the tracked one. -/
theorem head?_of_answer? {t : Tracker} {running : Bool} {now : Duration} {h : BlockHead}
    (ha : t.answer? running now .latest = some (.ok h)) : t.head? = some h := by
  obtain ⟨head, hfresh, heq⟩ := Option.map_eq_some_iff.1 ha
  cases heq
  unfold fresh? at hfresh
  unfold head?
  split at hfresh
  next => cases hfresh
  next hobserved =>
    split at hfresh
    · cases hfresh
      rw [hobserved]
      rfl
    · cases hfresh

end Tracker

end EthRpc
