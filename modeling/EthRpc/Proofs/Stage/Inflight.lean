-- SUMMARY: Requests in flight: who arrives joins the open run of its fingerprint, and gets the outcome of that run.
import EthRpc.Proofs.Machine.SharedRuns
import EthRpc.Stage.Inflight

/-!
# Requests in flight

A caller that arrives while a run of its fingerprint is open joins that run, and
starts a new one otherwise. From then on it waits until the run ends, and goes
on with the outcome of this run and of no other, unless it is taken away first.
-/

namespace EthRpc.Machine

/-! ## Waiting until the end -/

/-- What a task does that waits for a run, and what it is told if the run dies. -/
inductive WaitsFor (run : TaskId) (k : Outcome → Program) : Activity → RpcError → Prop where
  | joined : WaitsFor run k (.joined run k) abandoned
  | leading : WaitsFor run k (.leading run k) failedRun

/-- A run has just come to its end with an outcome, or died, which is told as an error. -/
def HasEnded (m : Machine) (run : TaskId) (lost : RpcError) (r : Outcome) : Prop :=
  m.activity? run = some (.finished r) ∨ m.activity? run = some .crashed ∧ r = .error lost

/-- What can have become of a task that waited for a run: it still waits for the open run; or it
was taken away while it waited; or it went on with the outcome as the run ended. -/
def Waited (m : Machine) (later : List Action) (t run : TaskId) (wait : Activity)
    (k : Outcome → Program) (lost : RpcError) : Prop :=
  ((m.run later).activity? t = some wait ∧
      ∃ a, (m.run later).activity? run = some a ∧ a.isOver = false) ∨
    (∃ pre post, later = pre ++ .abort t :: post ∧ (m.run pre).activity? t = some wait) ∨
    ∃ pre a post r, later = pre ++ a :: post ∧ (m.run pre).activity? t = some wait ∧
      ((m.run pre).act a).activity? t = some (.running (k r)) ∧
      ((m.run pre).act a).HasEnded run lost r

variable {m : Machine} {t run : TaskId} {k : Outcome → Program} {wait : Activity} {lost : RpcError}

/-- In one action, a wait goes on, is given up, or is over with the run. -/
theorem waits_act (hw : WaitsFor run k wait lost) (h : m.activity? t = some wait) (a : Action) :
    (m.act a).activity? t = some wait ∨
      (a = .abort t ∧ (m.act a).activity? t = some .cancelled) ∨
      ∃ r, (m.act a).activity? t = some (.running (k r)) ∧ (m.act a).HasEnded run lost r := by
  obtain ⟨new, hnew, hmoves⟩ := movesTo_act m a t wait h
  cases hw with
  | joined =>
    rcases moves_joined hmoves with rfl | ⟨r, r', hend, rfl⟩ | ⟨rfl, rfl⟩
    · exact .inl hnew
    · refine .inr (.inr ⟨r, hnew, ?_⟩)
      rcases hend.activity? with ⟨hrun, -⟩ | ⟨hrun, hr, -⟩
      · exact .inl hrun
      · exact .inr ⟨hrun, hr⟩
    · exact .inr (.inl ⟨rfl, hnew⟩)
  | leading =>
    rcases moves_leading hmoves with rfl | ⟨r, r', hend, rfl⟩ | ⟨rfl, rfl⟩
    · exact .inl hnew
    · refine .inr (.inr ⟨r', hnew, ?_⟩)
      rcases hend.activity? with ⟨hrun, rfl⟩ | ⟨hrun, -, hr⟩
      · exact .inl hrun
      · exact .inr ⟨hrun, hr⟩
    · exact .inr (.inl ⟨rfl, hnew⟩)

/-- Who waits goes on waiting, is taken away, or has come to go on with the outcome. -/
theorem waits_run (hw : WaitsFor run k wait lost) (h : m.activity? t = some wait)
    (later : List Action) :
    (m.run later).activity? t = some wait ∨ (m.run later).activity? t = some .cancelled ∨
      ∃ pre post r, later = pre ++ post ∧ (m.run pre).activity? t = some (.running (k r)) ∧
        (m.run pre).HasEnded run lost r := by
  induction later generalizing m with
  | nil => exact .inl h
  | cons a later ih =>
    rcases waits_act hw h a with hstill | ⟨-, hcancelled⟩ | ⟨r, hgoes, hend⟩
    · rcases ih hstill with hwaits | hcancelled | ⟨pre, post, r, rfl, hgoes, hend⟩
      · exact .inl hwaits
      · exact .inr (.inl hcancelled)
      · exact .inr (.inr ⟨a :: pre, post, r, rfl, hgoes, hend⟩)
    · exact .inr (.inl (activity?_run_of_isOver hcancelled rfl later))
    · exact .inr (.inr ⟨[a], later, r, rfl, hgoes, hend⟩)

namespace Orderly

theorem run_not_over (hm : m.Orderly) (hw : WaitsFor run k wait lost)
    (h : m.activity? t = some wait) : ∃ a, m.activity? run = some a ∧ a.isOver = false := by
  cases hw with
  | joined =>
    obtain ⟨i, e, he, rfl, -⟩ := hm.joined h
    exact (hm.listed he).2
  | leading =>
    obtain ⟨i, key, a, -, ha⟩ := hm.leading h
    exact ⟨a, ha⟩

theorem waited (hm : m.Orderly) (hw : WaitsFor run k wait lost) (h : m.activity? t = some wait)
    (later : List Action) : m.Waited later t run wait k lost := by
  induction later generalizing m with
  | nil => exact .inl ⟨h, hm.run_not_over hw h⟩
  | cons a later ih =>
    rcases waits_act hw h a with hstill | ⟨rfl, -⟩ | ⟨r, hgoes, hend⟩
    · rcases ih (hm.act a) hstill with
        hwaits | ⟨pre, post, rfl, hpre⟩ | ⟨pre, b, post, r, rfl, hpre, hgoes, hend⟩
      · exact .inl hwaits
      · exact .inr (.inl ⟨a :: pre, post, rfl, hpre⟩)
      · exact .inr (.inr ⟨a :: pre, b, post, r, rfl, hpre, hgoes, hend⟩)
    · exact .inr (.inl ⟨[], later, rfl, h⟩)
    · exact .inr (.inr ⟨[], a, later, r, rfl, h, hgoes, hend⟩)

/-! ## Entries and open runs -/

theorem isOpen_unique (hm : m.Orderly) {i : Nat} {key : String} {t t' : TaskId}
    (hi : i < m.tables.size) (h : m.IsOpen i key t) (h' : m.IsOpen i key t') : t = t' := by
  obtain ⟨e, he, hkey, rfl⟩ := hm.known hi h
  obtain ⟨e', he', hkey', rfl⟩ := hm.known hi h'
  rw [hm.eq_of_key he he' (hkey.trans hkey'.symm)]

theorem listed_iff (hm : m.Orderly) {i : Nat} (hi : i < m.tables.size) (key : String) :
    (∃ e ∈ m.table i, e.key = key) ↔ ∃! t, m.IsOpen i key t := by
  constructor
  · rintro ⟨e, he, rfl⟩
    exact ⟨e.run, hm.listed he, fun t ht => hm.isOpen_unique hi ht (hm.listed he)⟩
  · rintro ⟨t, ht, -⟩
    obtain ⟨e, he, hkey, -⟩ := hm.known hi ht
    exact ⟨e, he, hkey⟩

/-- Nobody is listed with a run that is over, or waits for it. -/
theorem forgotten (hm : m.Orderly) {old : Activity} (h : m.activity? run = some old)
    (hover : old.isOver) :
    (∀ i, ∀ e ∈ m.table i, e.run ≠ run) ∧
      ∀ t k, m.activity? t ≠ some (.joined run k) ∧ m.activity? t ≠ some (.leading run k) := by
  have hclosed : ¬∃ a, m.activity? run = some a ∧ a.isOver = false := by
    rintro ⟨a, ha, hnot⟩
    rw [h] at ha
    cases ha
    rw [hover] at hnot
    cases hnot
  refine ⟨?_, fun t k => ⟨?_, ?_⟩⟩
  · rintro i e he rfl
    exact hclosed (hm.listed he).2
  · exact fun hwait => hclosed (hm.run_not_over .joined hwait)
  · exact fun hwait => hclosed (hm.run_not_over .leading hwait)

/-! ## Arrivals -/

section Arrivals

variable {i : Nat} {key : String} {p : Program}

theorem joins (hm : m.Orderly) (hi : i < m.tables.size)
    (h : m.activity? t = some (.running (.share i key p k))) (hopen : m.IsOpen i key run) :
    (m.act (.step t)).activity? t = some (.joined run k) ∧
      (m.act (.step t)).tasks.size = m.tasks.size ∧
      ∃ e ∈ (m.act (.step t)).table i, e.run = run ∧ t ∈ e.joiners := by
  obtain ⟨e, he, rfl, rfl⟩ := hm.known hi hopen
  have hs : m.sharedRun? i e.key = some e := hm.sharedRun?_eq_some_iff.2 ⟨he, rfl⟩
  refine ⟨?_, ?_, e.join e.key t, ?_, ?_⟩
  · have hfind : (m.table i).find? (·.key = e.key) = some e := hs
    simp only [Machine.act, advance, h, share, hfind]
    exact activity?_setActivity_self h
  · have hsize := (effect_act m (.step t)).size
    simpa [spawned?, h, hs] using hsize
  · rw [table_act_of_join h hs]
    exact List.mem_map_of_mem he
  · simp [SharedRun.join]

theorem leads (hm : m.Orderly) (h : m.activity? t = some (.running (.share i key p k)))
    (hopen : ∀ run, ¬m.IsOpen i key run) :
    (m.act (.step t)).activity? t = some (.leading m.tasks.size k) ∧
      (m.act (.step t)).tasks[m.tasks.size]? = some ⟨.run i key t, .running p⟩ := by
  have hs : m.sharedRun? i key = none := by
    cases hs : m.sharedRun? i key with
    | none => rfl
    | some e =>
      obtain ⟨he, rfl⟩ := hm.sharedRun?_eq_some_iff.1 hs
      exact absurd (hm.listed he) (hopen e.run)
  constructor
  · have hfind : (m.table i).find? (·.key = key) = none := hs
    simp only [Machine.act, advance, h, share, hfind]
    apply activity?_setActivity_self
    have hne : t ≠ m.tasks.size := Nat.ne_of_lt (lt_size_of_activity? h)
    simpa [activity?, spawn, setTable, count, Array.getElem?_push, hne] using h
  · have hfresh := (effect_act m (.step t)).fresh
    simpa [spawned?, h, hs] using hfresh

end Arrivals

end Orderly

/-! ## Safety -/

/-- In every reachable state: a key is in the table exactly if one run of its fingerprint is open,
and never are two; a run that is over is listed nowhere and nobody waits for it; a request that
arrives joins the open run of its fingerprint, and otherwise starts a new one of its own; and who
joined or leads a run waits until that run ends and is told its outcome, whatever happens, unless
it is taken away first. -/
theorem inflight_shares_open_runs (settings : Tracker.Settings) (capacities : List Nat)
    (tables : Nat) (actions : List Action) (methods : MethodTable) (i : Fin tables) :
    let m := (start settings capacities tables).run actions
    (∀ key, (∃ e ∈ m.table i, e.key = key) ↔ ∃! t, m.IsOpen i key t) ∧
      (∀ key t t', m.IsOpen i key t → m.IsOpen i key t' → t = t') ∧
      (∀ run old, m.activity? run = some old → old.isOver →
        (∀ e ∈ m.table i, e.run ≠ run) ∧
          ∀ t k, m.activity? t ≠ some (.joined run k) ∧ m.activity? t ≠ some (.leading run k)) ∧
      (∀ t q next k, (methods.spec q.method).cache ≠ .never →
        m.activity? t = some (.running (((Stage.inflight methods i).handle q next).bind k)) →
        let m' := m.act (.step t)
        (∀ run, m.IsOpen i q.fingerprint run →
          m'.activity? t = some (.joined run k) ∧ m'.tasks.size = m.tasks.size ∧
            ∃ e ∈ m'.table i, e.run = run ∧ t ∈ e.joiners) ∧
        ((∀ run, ¬m.IsOpen i q.fingerprint run) →
          m'.activity? t = some (.leading m.tasks.size k) ∧
            m'.tasks[m.tasks.size]? = some ⟨.run i q.fingerprint t, .running (next q)⟩)) ∧
      ∀ t run k later,
        (m.activity? t = some (.joined run k) →
          m.Waited later t run (.joined run k) k abandoned) ∧
        (m.activity? t = some (.leading run k) →
          m.Waited later t run (.leading run k) k failedRun) := by
  intro m
  have hm : m.Orderly := (orderly_start settings capacities tables).run actions
  have hi : i < m.tables.size := by
    rw [tables_size_run]
    simp [start]
  refine ⟨hm.listed_iff hi, fun key t t' => hm.isOpen_unique hi, ?_, ?_, ?_⟩
  · intro run old h hover
    obtain ⟨hlisted, hwaits⟩ := hm.forgotten h hover
    exact ⟨hlisted i, hwaits⟩
  · intro t q next k hcache h m'
    have hhandle : ((Stage.inflight methods i).handle q next).bind k =
        .share i q.fingerprint (next q) k := by
      simp only [Stage.inflight]
      rfl
    rw [hhandle] at h
    exact ⟨fun run => hm.joins hi h, hm.leads h⟩
  · intro t run k later
    exact ⟨fun h => hm.waited .joined h later, fun h => hm.waited .leading h later⟩

/-- The leader goes away before the run takes its first step, and the joiner is answered. -/
example :
    let code : Program := .share 0 "eth_getCode:[]" (.send ⟨.none, "eth_getCode", []⟩) .done
    ((start Tracker.Settings.default [] 1).run
      [.launch code, .launch code, .step 0, .step 1, .abort 0, .step 2, .answer 2 (.ok .null),
        .step 2]).activity? 1 = some (.running (.done (.ok .null))) := by
  cbv

end EthRpc.Machine
