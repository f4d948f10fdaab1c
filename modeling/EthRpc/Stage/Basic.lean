-- SUMMARY: Stages of the pipeline and some simple ones.
import EthRpc.Program

/-!
# Stages

A stage handles a request with the help of the stages below it, which it may ask
never, once or several times, and with another request than its own. Below the
last stage is the endpoint.
-/

namespace EthRpc

structure Stage where
  name : String
  handle : Request → (Request → Program) → Program

namespace Stage

/-- The program of a request that goes through the stages, outermost first. -/
def pipeline : List Stage → Request → Program
  | [], q => .send q
  | s :: rest, q => s.handle q (pipeline rest)

/-- A stage that answers everything with one value. -/
def answering (name : String) (value : Json) : Stage := ⟨name, fun _ _ => .done (.ok value)⟩

/-- A stage that fails everything. -/
def failing (name : String) (e : RpcError) : Stage := ⟨name, fun _ _ => .done (.error e)⟩

/-- A stage that adds a parameter. -/
def appending (name : String) (value : Json) : Stage :=
  ⟨name, fun q next => next { q with params := q.params ++ [value] }⟩

/-- A stage that leaves a mark on the way in and on the way out. -/
def marking (name label : String) : Stage :=
  ⟨name, fun q next =>
    .ask (.mark label true) fun _ =>
      (next q).bind fun r => .ask (.mark label false) fun _ => .done r⟩

/-- A stage that asks twice and answers with both results and a value of its own. -/
def repeating (name : String) (value : Json) : Stage :=
  ⟨name, fun q next =>
    (next q).andThen fun first =>
      (next q).andThen fun second => .done (.ok (.array [first, second, value]))⟩

end Stage

/-- Results that say nothing: `null`, and the text by which some nodes spell it. -/
def Json.isEmptyResult : Json → Bool
  | .null => true
  | .string s => s == "<nil>"
  | _ => false

end EthRpc
