-- SUMMARY: Responses come back as they are, and one that names a block above the tracked head has it looked for first.
import EthRpc.Proofs.Block.Spelling
import EthRpc.Proofs.Client.Passing
import EthRpc.Proofs.Program.Plays
import EthRpc.Proofs.Tracker.Inquiries

/-!
# Inspected responses

A response that names a block above the tracked head says that the tracker is
behind. The stage that sees this waits until the tracker has caught up, or until
it has polled itself and knows no better, and returns the response unchanged. The
number that it has seen is never taken for a head.
-/

namespace EthRpc

/-! ## The number in a response -/

/-- A value is an object with a text that begins with `0x` and spells a number, as its
`blockNumber`, or as its `number` if there is no `blockNumber`. -/
def Json.Embeds (v : Json) (n : Nat) : Prop :=
  ∃ members s, v = .object members ∧
    (Dict.get? "blockNumber" members = some (.string s) ∨
      Dict.get? "blockNumber" members = none ∧ Dict.get? "number" members = some (.string s)) ∧
    ['0', 'x'] <+: s.toList ∧ Quantity.Spells s n ∧ n < 1 <<< 64

theorem Json.string?_eq_some_iff {v : Json} {s : String} : v.string? = some s ↔ v = .string s := by
  cases v <;> simp [Json.string?]

theorem Json.blockNumber?_eq_some_iff {v : Json} {n : Nat} :
    v.blockNumber? = some n ↔ v.Embeds n := by
  constructor
  · intro h
    unfold blockNumber? at h
    split at h
    next w hnumber =>
      obtain ⟨s, hs, hread⟩ := Option.bind_eq_some_iff.1 h
      obtain rfl := string?_eq_some_iff.1 hs
      cases v with
      | object members => exact ⟨members, s, rfl, .inl hnumber, Quantity.strict?_eq_some_iff.1 hread⟩
      | _ => cases hnumber
    next hnone =>
      obtain ⟨s, hs, hread⟩ := Option.bind_eq_some_iff.1 h
      obtain ⟨w, hnumber, hs⟩ := Option.bind_eq_some_iff.1 hs
      obtain rfl := string?_eq_some_iff.1 hs
      cases v with
      | object members =>
        exact ⟨members, s, rfl, .inr ⟨hnone, hnumber⟩, Quantity.strict?_eq_some_iff.1 hread⟩
      | _ => cases hnumber
  · rintro ⟨members, s, rfl, hs, hspells⟩
    have hread := Quantity.strict?_eq_some_iff.2 hspells
    rcases hs with hnumber | ⟨hnone, hnumber⟩
    · simp [blockNumber?, get?, hnumber, string?, hread]
    · simp [blockNumber?, get?, hnone, hnumber, string?, hread]

namespace Client

open Machine (Action TaskId)

/-- An outcome is a response that embeds a block number. -/
def Names (o : Outcome) (n : Nat) : Prop := ∃ v, o = .ok v ∧ v.Embeds n

section Names

variable {o r : Outcome} {n : Nat} {q : Request} {next : Request → Program}
  {f : Outcome → Program} {ds : List Machine.Told}

theorem passOn_of_names (h : Names o n) :
    passOn o = .ask (.query (.ifBehind n)) fun _ => .done o := by
  obtain ⟨v, rfl, hv⟩ := h
  simp only [passOn, Json.blockNumber?_eq_some_iff.2 hv]

theorem passOn_of_not_names (h : ∀ n, ¬Names o n) : passOn o = .done o := by
  cases o with
  | error e => rfl
  | ok v =>
    have hnone : v.blockNumber? = none := by
      refine Option.eq_none_iff_forall_ne_some.2 fun n hn => ?_
      exact h n ⟨v, rfl, Json.blockNumber?_eq_some_iff.1 hn⟩
    simp only [passOn, hnone]

/-- Whatever is known of the head, an outcome comes back as it is. -/
theorem eq_of_passOn_plays (h : (passOn o).Plays ds (.done r)) : r = o := by
  rcases passOn_cases o with hpass | ⟨n, hpass⟩
  · rw [hpass] at h
    exact (Program.plays_done_iff.1 h).2
  · rw [hpass] at h
    obtain ⟨a, ds', -, hrest⟩ := Program.plays_ask_iff.1 h
    exact (Program.plays_done_iff.1 hrest).2

theorem inspector_handle (q : Request) (next : Request → Program) :
    Stage.inspector.handle q next = (next q).bind passOn := by
  refine congrArg (next q).bind ?_
  funext o
  cases o <;> rfl

end Names

/-- The stage returns the outcome of the stages below, whatever it is told of the head. If the
outcome names no block number then it returns at once. If it names one then the stage is at the
question whether the tracker has caught up, and polls only while the number is above a tracked head,
up to the moment when it has an answer: there is no head to compare with, or the tracked head has
come to the number, or a poll is over that the task has sent itself since. What is tracked are heads
that polls report. -/
theorem responses_inspected (m : Machine) (q : Request) (next : Request → Program)
    (f : Outcome → Program) (t : TaskId) (actions : List Action) :
    (∀ ds r, (Stage.inspector.handle q next).Plays ds (.done r) →
      ∃ ds₁ ds₂, ds = ds₁ ++ ds₂ ∧ (next q).Plays ds₁ (.done r)) ∧
    (Stage.inspector.handle q next).bind f = (next q).bind (fun o => (passOn o).bind f) ∧
    (∀ o, (∀ n, ¬Names o n) → (passOn o).bind f = f o) ∧
    (∀ o n arrived, Names o n → arrived <+: actions →
      (m.run arrived).activity? t = some (.running ((passOn o).bind f)) →
      ∃ last, arrived <+: last ∧ last <+: actions ∧
        (∀ now, arrived <+: now → now <+: last →
          m.Inquires t n (fun _ => f o) arrived now ∧
          ∀ a poll, .sent t true poll ∈ (m.run now).events a →
            ∃ head, (m.run now).tracker.head? = some head ∧ head.number < n) ∧
        (last = actions ∨
          ∃ a, last ++ [a] <+: actions ∧ m.Leaves t n (fun _ => f o) arrived last a)) ∧
    ∀ now a head, (m.run (now ++ [a])).tracker.head? = some head →
      (m.run now).tracker.head? = some head ∨ ∃ u, .polled u (.ok head) ∈ (m.run now).events a := by
  refine ⟨?unchanged, ?program, ?unnamed, ?named, ?heads⟩
  case unchanged =>
    intro ds r hplays
    rw [inspector_handle] at hplays
    obtain ⟨ds₁, ds₂, o, rfl, hbelow, hpass⟩ := Program.exists_of_bind hplays
    obtain rfl := eq_of_passOn_plays hpass
    exact ⟨ds₁, ds₂, rfl, hbelow⟩
  case program => rw [inspector_handle, Program.bind_assoc]
  case unnamed =>
    intro o hnot
    rw [passOn_of_not_names hnot, Program.bind_done]
  case named =>
    intro o n arrived hnames harrived hrunning
    rw [passOn_of_names hnames] at hrunning
    obtain ⟨last, hlater, hlast, hat, hends⟩ := Machine.exists_inquiry hrunning harrived
    refine ⟨last, hlater, hlast, fun now hnow hbefore => ?_, hends⟩
    exact ⟨hat now hnow hbefore, fun a poll hsent => (hat now hnow hbefore).head?_of_sent hsent⟩
  case heads =>
    intro now a head hhead
    rw [Machine.run_concat] at hhead
    exact Machine.head?_act_cases hhead

/-! ### A response that is ahead of all nodes -/

/-- A receipt in block 101. -/
def receipt : Json := .object [("blockNumber", .string "0x65")]

/-- The head is 100, and somebody who asks for a receipt is told that it is in block 101. -/
def tellsReceipt : List Action :=
  [.launch (askTracker .latest), .step 0, .step 0,
    .answer 0 (.ok (BlockHead.toJson ⟨100, .ofNat 100⟩)), .step 0, .step 0,
    .launch ((Work.dispatch ⟨.number 7, "eth_getTransactionReceipt", [.string "0xaa"]⟩).program
      (stages [] .default)),
    .step 1, .answer 1 (.ok receipt)]

/-- The head is polled, and a node that lags reports 99. -/
def inspectsReceipt : List Action :=
  tellsReceipt ++ [.step 1, .step 1, .answer 1 (.ok (BlockHead.toJson ⟨99, .ofNat 99⟩)), .step 1,
    .step 1]

set_option maxRecDepth 2000 in
/-- The receipt is returned after this poll, and the tracked head stays where it was. -/
theorem responses_inspected_of_receipt :
    (∃ last a, tellsReceipt <+: last ∧ last ++ [a] <+: inspectsReceipt ∧
      (start .default).Leaves 1 101 (fun _ => .done (.ok receipt)) tellsReceipt last a) ∧
    ((start .default).run inspectsReceipt).activity? 1 = some (.finished (.ok receipt)) ∧
    ((start .default).run inspectsReceipt).tracker.head? = some ⟨100, .ofNat 100⟩ := by
  have hnames : Names (.ok receipt) 101 :=
    ⟨receipt, rfl, Json.blockNumber?_eq_some_iff.1 (by decide)⟩
  obtain ⟨-, -, -, hnamed, -⟩ := responses_inspected (start .default)
    ⟨.number 7, "eth_getTransactionReceipt", [.string "0xaa"]⟩ .send .done 1 inspectsReceipt
  obtain ⟨last, hlater, hlast, hat, hends⟩ :=
    hnamed (.ok receipt) 101 tellsReceipt hnames (List.prefix_append _ _) rfl
  refine ⟨?_, rfl, rfl⟩
  rcases hends with rfl | ⟨a, ha, hleaves⟩
  · cases (hat _ hlater (List.prefix_refl _)).1.isOver_eq_false rfl
  · exact ⟨last, a, hlater, ha, hleaves⟩

end Client

end EthRpc
