-- SUMMARY: Every answer of a client is what the endpoint answered to the request, pinned or not, in the same run.
import EthRpc.Proofs.Client.Obedience

/-!
# Provenance

The result of a request may come from the cache, from a run that another caller
started, or from the last of several attempts. Wherever it comes from, the
endpoint gave it in the same run, and it gave it to the method of the request and
to its parameters, but for the block that the client pinned.
-/

namespace EthRpc

/-! ## Responses -/

section Dispatch

variable {stages : List Stage} {q : Request} {o : Outcome}

@[simp] theorem Client.id_response_dispatch : ((dispatch stages q).response o).id = q.id := by
  cases o <;> rfl

theorem Client.outcome_response_dispatch_eq_ok {v : Json}
    (h : ((dispatch stages q).response o).outcome = .ok v) : o = .ok v := by
  cases o with
  | ok w =>
    cases h
    rfl
  | error e => cases h

end Dispatch

/-! ## More heads, more pins -/

section Mono

variable {heads heads' : BlockHead → Prop} (h : ∀ head, heads head → heads' head)

include h

theorem BlockParam.Names.mono {param : Option Json} {n : Nat} (hn : Names heads param n) :
    Names heads' param n := by
  cases hn with
  | number hr => exact .number hr
  | earliest hr => exact .earliest hr
  | latest hr hh => exact .latest hr (h _ hh)
  | null hh => exact .null (h _ hh)
  | omitted hh => exact .omitted (h _ hh)

theorem Pinned.mono {spec : MethodSpec} {ps qs : List Json} (hp : Pinned heads spec ps qs) :
    Pinned heads' spec ps qs := by
  rcases hp with hsame | ⟨index, n, hindex, hn, hqs⟩
  · exact .inl hsame
  · exact .inr ⟨index, n, hindex, hn.mono h, hqs⟩

end Mono

/-! ## Dispatched requests -/

namespace Client

open Machine (Action TaskId)

/-- Whatever else goes on in a client, the response to a request has the id of the request, and a
result in it is what the endpoint has answered by then to the method and the parameters of the
request, where the parameter at the position of the block may be the number of the block that it
names. The table may be any plain one, such as the one of the known methods. -/
theorem dispatch_provenance :
    MethodTable.builtin.Plain ∧
    ∀ {methods : MethodTable} {s : Settings} {actions : List Action} {t : TaskId} {r : Request}
      {o : Outcome} {v : Json}, methods.Plain → Serves methods s actions →
      Employs methods s actions t (.dispatch r) →
      ((start s).run actions).activity? t = some (.finished o) →
      ((dispatch (stages methods s.retry) r).response o).outcome = .ok v →
      ((dispatch (stages methods s.retry) r).response o).id = r.id ∧
        ∃ q, ((start s).run actions).Exchanged q (.ok v) ∧ q.method = r.method ∧
          Pinned ((start s).run actions).Reported (methods.spec r.method) r.params q.params := by
  refine ⟨MethodTable.plain_builtin, ?_⟩
  intro methods s actions t r o v hplain hserves ht hfinished hv
  obtain rfl := outcome_response_dispatch_eq_ok hv
  have hobedient := obedient hplain hserves
  obtain ⟨q, hq⟩ := hobedient.returns ht.role? hfinished _ ht r rfl
  exact ⟨id_response_dispatch, q, hq.answered, hq.method, hq.pinned.mono fun _ hh => hh.1⟩

/-- The second of two callers, who gets the answer that was given to the first. -/
theorem dispatch_provenance_of_hit :
    let methods : MethodTable := [("net_version", { cache := .permanent })]
    let r : Request := ⟨.number 7, "net_version", []⟩
    let caller : Action :=
      .launch ((Work.dispatch r).program (stages methods Settings.default.retry))
    let m := (start Settings.default).run
      [caller, .step 0, .step 0, .step 1, .answer 1 (.ok (.bool true)), .step 1, .step 0, .step 0,
        caller, .step 2, .step 2]
    ∃ q, m.Exchanged q (.ok (.bool true)) ∧ q.method = "net_version" ∧
      Pinned m.Reported ((MethodTable.spec methods) "net_version") [] q.params := by
  dsimp only
  refine (dispatch_provenance.2 (t := 2) (r := ⟨.number 7, "net_version", []⟩)
    (o := .ok (.bool true)) ?plain ?serves ?employs ?finished rfl).2
  case plain => decide
  case serves =>
    intro p hp
    refine ⟨.dispatch ⟨.number 7, "net_version", []⟩, ?_⟩
    simp only [List.mem_cons, List.not_mem_nil, or_false, reduceCtorEq, false_or] at hp
    rcases hp with hp | hp
    all_goals exact (Action.launch.inj hp).symm
  case employs =>
    refine ⟨[_, _, _, _, _, _, _, _], [.step 2, .step 2], rfl, ?_⟩
    decide +kernel
  case finished => rfl

end Client

end EthRpc
