-- SUMMARY: Responses survive the wire: what is read from the text of a response is the outcome it was made from.
import EthRpc.Proofs.Json.Reading
import EthRpc.Rpc.Response

/-!
# Responses

The text of a response is read back as the outcome that the response was made
from, with every error told as an error object. Members are written in an order
that is not the order of dictionaries; reading sets that right. An error with
`null` data would come back without data, and one nested too deep not at all.
-/

namespace EthRpc

/-! ## What can be written and read back -/

/-- An id that is a number fits into 64 bits. -/
def RequestId.Fits : RequestId → Prop
  | .number n => n < 1 <<< 64
  | _ => True

/-- Numbers are in range and read back without loss, and members stand in order. -/
structure Json.WellFormed (v : Json) : Prop where
  faithful : v.Faithful
  ordered : v.Ordered

/-- The code fits into 64 bits, and data that are there are not `null`. -/
structure ErrorObject.WellFormed (e : ErrorObject) : Prop where
  code : within64? e.code = some e.code
  data : ∀ d ∈ e.data, d.WellFormed ∧ d.isNull = false

def Outcome.WellFormed : Outcome → Prop
  | .ok v => v.WellFormed
  | .error (.protocol e) => e.WellFormed
  | .error _ => True

/-! ## Leaves -/

theorem RequestId.faithful_toJson {id : RequestId} (h : id.Fits) : id.toJson.Faithful := by
  cases id with
  | number n => exact .number h
  | string s => exact .string s
  | none => exact .null

theorem RequestId.settled_toJson (id : RequestId) : id.toJson.settled = id.toJson := by
  cases id <;> rfl

theorem RequestId.depth_toJson (id : RequestId) : id.toJson.depth = 0 := by
  cases id <;> rfl

namespace Json

theorem within64?_self_iff {i : Int} :
    within64? i = some i ↔ -9223372036854775808 ≤ i ∧ i < 9223372036854775808 := by
  simp [within64?]

theorem faithful_ofInt {i : Int} (h : within64? i = some i) : (ofInt i).Faithful := by
  obtain ⟨hlow, hhigh⟩ := within64?_self_iff.1 h
  cases i with
  | ofNat n =>
    have hn : n < 18446744073709551616 := by
      simp only [Int.ofNat_eq_natCast] at hhigh
      omega
    exact .number hn
  | negSucc n =>
    have hn : 0 < n + 1 ∧ n + 1 ≤ 9223372036854775808 := by omega
    exact .number hn

theorem settled_ofInt (i : Int) : (ofInt i).settled = ofInt i := by
  cases i <;> rfl

theorem int?_ofInt {i : Int} (h : within64? i = some i) :
    Source.int? (.ofJson (ofInt i)) = some i := by
  obtain ⟨-, hhigh⟩ := within64?_self_iff.1 h
  cases i with
  | ofNat n =>
    have hn : n < 9223372036854775808 := by
      simp only [Int.ofNat_eq_natCast] at hhigh
      omega
    simp [ofInt, Source.ofJson, Source.int?, int?, hn]
  | negSucc n =>
    simp only [ofInt, Source.ofJson, Source.int?, int?, Option.some.injEq]
    omega

theorem optional?_ofJson {v : Json} (h : v.isNull = false) (read : Source → Option α) :
    Source.optional? read (.ofJson v) = (read (.ofJson v)).map some := by
  cases v <;> first | rfl | cases h

theorem WellFormed.settled {v : Json} (h : v.WellFormed) : v.settled = v :=
  settled_of_ordered v h.ordered

end Json

/-! ## Error objects -/

namespace ErrorObject

theorem faithful_members {e : ErrorObject} (h : e.WellFormed) :
    (Json.object e.members).Faithful := by
  refine .object fun m hm => ?_
  simp only [members, List.cons_append, List.nil_append, List.mem_cons] at hm
  rcases hm with rfl | rfl | hm
  case inl => exact Json.faithful_ofInt h.code
  case inr.inl => exact .string _
  case inr.inr =>
    cases hdata : e.data with
    | none => simp [hdata] at hm
    | some d =>
      rw [hdata, List.mem_singleton] at hm
      subst hm
      exact (h.data d hdata).1.faithful

theorem settled_members {e : ErrorObject} (h : e.WellFormed) :
    (Json.object e.members).settled = e.toJson := by
  rw [toJson, Json.settled]
  congr 1
  cases hdata : e.data with
  | none => simp [members, hdata, Json.settledMembers, Json.settled_ofInt, Json.settled]
  | some d =>
    have hd := (h.data d hdata).1.settled
    simp [members, hdata, Json.settledMembers, Json.settled_ofInt, Json.settled, hd]

theorem depth_lt_of_data {e : ErrorObject} {d : Json} (h : d ∈ e.data) :
    d.depth < (Json.object e.members).depth := by
  simp only [members, Option.mem_def.1 h, Json.depth, List.cons_append, List.nil_append,
    Json.membersDepth]
  omega

/-- The members in the order of a dictionary. -/
theorem toJson_eq_object (e : ErrorObject) :
    e.toJson = .object ([("code", .ofInt e.code)] ++ (e.data.map fun d => ("data", d)).toList
      ++ [("message", .string e.message)]) := by
  have hmessage : ¬ "message" < "code" := by decide
  have hdata : ¬ "data" < "code" := by decide
  have hlast : "data" < "message" := by decide
  obtain ⟨code, message, data⟩ := e
  cases data with
  | none =>
    simp only [toJson, members, Json.ofMembers, Dict.ofList, Option.map_none, Option.toList_none,
      List.cons_append, List.nil_append, List.append_nil, List.foldl_cons, List.foldl_nil,
      Dict.insert, if_neg hmessage, if_neg (by decide : ¬ "message" = "code")]
  | some d =>
    simp only [toJson, members, Json.ofMembers, Dict.ofList, Option.map_some, Option.toList_some,
      List.cons_append, List.nil_append, List.foldl_cons, List.foldl_nil, Dict.insert,
      if_neg hmessage, if_neg hdata, if_pos hlast, if_neg (by decide : ¬ "message" = "code"),
      if_neg (by decide : ¬ "data" = "code")]

/-- An error object is read back from its value. -/
theorem ofSource?_toJson {e : ErrorObject} (h : e.WellFormed) {limit : Nat}
    (hdepth : ∀ d ∈ e.data, d.depth ≤ limit) :
    ofSource? (limit + 1) (.ofJson e.toJson) = some e := by
  have hcode := Json.int?_ofInt h.code
  rw [toJson_eq_object]
  obtain ⟨code, message, data⟩ := e
  cases data with
  | none =>
    simp [Json.Source.ofJson, Json.Source.ofMembers, ofSource?, Json.Source.fields?,
      Json.Source.named?, Json.Source.string?, hcode]
  | some d =>
    obtain ⟨hd, hnull⟩ := h.data d rfl
    have hvalue := Json.value?_ofJson d (hdepth d rfl)
    rw [hd.settled] at hvalue
    simp [Json.Source.ofJson, Json.Source.ofMembers, ofSource?, Json.Source.fields?,
      Json.Source.named?, Json.Source.string?, hcode, Json.optional?_ofJson hnull, hvalue]

end ErrorObject

/-- What a caller at the other end of a wire is told of an error is well formed if the error is. -/
theorem RpcError.wellFormed_toObject {x : RpcError} (h : Outcome.WellFormed (.error x)) :
    x.toObject.WellFormed := by
  have hplain : ∀ code message, within64? code = some code →
      (ErrorObject.mk code message none).WellFormed := fun code message hcode => ⟨hcode, nofun⟩
  unfold toObject
  split
  · exact h
  all_goals exact hplain _ _ (by decide)

/-! ## Responses -/

namespace Response

/-- The member of a response that carries an outcome. -/
def carrier : Outcome → String × Json
  | .ok v => ("result", v)
  | .error x => ("error", .object x.toObject.members)

theorem wireValue_ofOutcome (id : RequestId) (r : Outcome) :
    (ofOutcome id r).wireValue =
      .object [("jsonrpc", .string "2.0"), ("id", id.toJson), carrier r] := by
  cases r <;> rfl

theorem depth_wireValue (id : RequestId) (r : Outcome) :
    (ofOutcome id r).wireValue.depth = (carrier r).2.depth + 1 := by
  simp [wireValue_ofOutcome, Json.depth, Json.membersDepth, RequestId.depth_toJson]

theorem faithful_wireValue {id : RequestId} {r : Outcome} (hid : id.Fits) (hr : r.WellFormed) :
    (ofOutcome id r).wireValue.Faithful := by
  have hcarrier : (carrier r).2.Faithful := by
    cases r with
    | ok v => exact hr.faithful
    | error x => exact ErrorObject.faithful_members (RpcError.wellFormed_toObject hr)
  rw [wireValue_ofOutcome]
  refine .object fun m hm => ?_
  simp only [List.mem_cons, List.not_mem_nil, or_false] at hm
  rcases hm with rfl | rfl | rfl
  · exact .string _
  · exact RequestId.faithful_toJson hid
  · exact hcarrier

/-- The text of a response is read as an object with the members in order. -/
theorem parse?_wire {id : RequestId} {r : Outcome} (hid : id.Fits) (hr : r.WellFormed)
    (hdepth : (ofOutcome id r).wireValue.depth ≤ Json.depthLimit) :
    Json.parse? (ofOutcome id r).wire =
      some (.ofMembers [("jsonrpc", .string "2.0"), ("id", id.toJson),
        ((carrier r).1, (carrier r).2.settled)]) := by
  rw [wire, Json.parse?_compact (faithful_wireValue hid hr) hdepth, wireValue_ofOutcome]
  simp [Json.settled, Json.settledMembers, RequestId.settled_toJson]

/-- The outcome as it is told to a caller: every error as an error object. -/
def told (r : Outcome) : Outcome := r.mapError fun x => .protocol x.toObject

/-- What is read from the text of a response is the outcome with its error as an error object. -/
theorem parse_wire {id : RequestId} {r : Outcome} (hid : id.Fits) (hr : r.WellFormed)
    (hdepth : (ofOutcome id r).wireValue.depth ≤ Json.depthLimit) :
    parse (ofOutcome id r).wire = told r := by
  have hparse := parse?_wire hid hr hdepth
  cases r with
  | ok v =>
    simp [parse, hparse, carrier, Json.ofMembers, Dict.ofList, Dict.get?_insert, hr.settled,
      told, Except.mapError]
  | error x =>
    have hobject := RpcError.wellFormed_toObject hr
    have hdata : ∀ d ∈ x.toObject.data, d.depth ≤ Json.depthLimit := by
      intro d hd
      have hlt : d.depth < (carrier (.error x)).2.depth := ErrorObject.depth_lt_of_data hd
      rw [depth_wireValue] at hdepth
      omega
    have hsource := ErrorObject.ofSource?_toJson hobject hdata
    have hsettled := ErrorObject.settled_members hobject
    have hnull : x.toObject.toJson.isNull = false := rfl
    simp [parse, hparse, carrier, Json.ofMembers, Dict.ofList, Dict.get?_insert_self, hsettled, hnull,
      Option.filter, hsource, told, Except.mapError]

/-! ### Relaying -/

theorem outcome_ofOutcome (id : RequestId) (r : Outcome) :
    (ofOutcome id r).outcome.mapError .protocol = told r := by
  cases r <;> rfl

theorem wellFormed_told {r : Outcome} (h : r.WellFormed) : (told r).WellFormed := by
  cases r with
  | ok v => exact h
  | error x => exact RpcError.wellFormed_toObject h

theorem carrier_told (r : Outcome) : carrier (told r) = carrier r := by
  cases r <;> rfl

theorem told_told (r : Outcome) : told (told r) = told r := by
  cases r <;> rfl

/-- A response is read back as the outcome it was made from: a value as it was, an error object as
it was, and any other error as the error object that stands for it. The response itself gives the
same account, and what was read can be passed on in another response without a change. -/
theorem outcome_survives_wire {id relayId : RequestId} {r : Outcome} (hid : id.Fits)
    (hrelay : relayId.Fits) (hr : r.WellFormed)
    (hdepth : (ofOutcome id r).wireValue.depth ≤ Json.depthLimit) :
    (∀ v, r = .ok v → parse (ofOutcome id r).wire = .ok v) ∧
      (∀ e, r = .error (.protocol e) →
        parse (ofOutcome id r).wire = .error (.protocol e)) ∧
      (∀ x, r = .error x → parse (ofOutcome id r).wire = .error (.protocol x.toObject)) ∧
      parse (ofOutcome id r).wire = (ofOutcome id r).outcome.mapError .protocol ∧
      parse (ofOutcome relayId (parse (ofOutcome id r).wire)).wire =
        parse (ofOutcome id r).wire := by
  have hparse := parse_wire hid hr hdepth
  have hrelayed : parse (ofOutcome relayId (told r)).wire = told (told r) := by
    refine parse_wire hrelay (wellFormed_told hr) ?_
    rwa [depth_wireValue, carrier_told, ← depth_wireValue id]
  rw [hparse, hrelayed, told_told]
  refine ⟨?value, ?object, ?other, (outcome_ofOutcome id r).symm, rfl⟩
  case value =>
    rintro v rfl
    rfl
  case object =>
    rintro e rfl
    rfl
  case other =>
    rintro x rfl
    rfl

/-- Data with a fraction and a `null` in them come back with the error object that has them. -/
theorem error_data_survive_wire :
    parse (ofOutcome (.number 7) (.error (.protocol ⟨-32000, "header not found",
        some (.array [.number (.double ⟨false, 0x3FF8000000000000⟩), .null])⟩))).wire =
      .error (.protocol ⟨-32000, "header not found",
        some (.array [.number (.double ⟨false, 0x3FF8000000000000⟩), .null])⟩) := by
  have hfraction : (Json.Number.double ⟨false, 0x3FF8000000000000⟩).Faithful := by decide +kernel
  have hdata : (Json.array [.number (.double ⟨false, 0x3FF8000000000000⟩), .null]).WellFormed := by
    constructor
    · refine .array fun v hv => ?_
      simp only [List.mem_cons, List.not_mem_nil, or_false] at hv
      rcases hv with rfl | rfl
      · exact .number hfraction
      · exact .null
    · refine .array fun v hv => ?_
      simp only [List.mem_cons, List.not_mem_nil, or_false] at hv
      rcases hv with rfl | rfl
      · exact .number _
      · exact .null
  have hobject : Outcome.WellFormed (.error (.protocol ⟨-32000, "header not found", some
      (.array [.number (.double ⟨false, 0x3FF8000000000000⟩), .null])⟩)) := by
    refine ⟨by decide, ?_⟩
    rintro d ⟨⟩
    exact ⟨hdata, rfl⟩
  have hid : (RequestId.number 7).Fits := show 7 < 1 <<< 64 by decide
  exact (outcome_survives_wire hid hid hobject (by decide +kernel)).2.1 _ rfl

end Response

end EthRpc
