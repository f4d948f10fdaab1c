-- SUMMARY: Events for the log, and reporting a failure on the way past.
import EthRpc.Text.Quoted

/-!
# Log events
-/

namespace EthRpc

inductive Log.Level where
  | trace | debug | info | warn | error
  deriving DecidableEq

namespace Log.Level

def text : Level → String
  | trace => "TRACE"
  | debug => "DEBUG"
  | info => "INFO"
  | warn => "WARN"
  | error => "ERROR"

def ofText? (s : String) : Option Level := [trace, debug, info, warn, error].find? (·.text == s)

end Log.Level

structure Log.Event where
  level : Log.Level
  message : String
  deriving DecidableEq

/-- The event that a failure causes; a success causes none. The result itself goes on unchanged. -/
def Log.onError (level : Log.Level) (context : String) : Except String α → List Log.Event
  | .ok _ => []
  | .error e => [⟨level, context ++ ": " ++ Text.quoted e⟩]

end EthRpc
