-- SUMMARY: What can be said on the command line, and what it means.
import EthRpc.Client
import EthRpc.Config.Value
import EthRpc.Url.Parser

/-!
# Options

Every option can be given before or after the command, and all of them also by a
variable. An option holds text, a number, a URL, or is a switch.
-/

namespace EthRpc.CommandLine

/-- What an option holds. -/
inductive Kind where
  | text
  /-- A number below `2 ^ 32`, with a sign if one likes. -/
  | number32
  /-- A number below `2 ^ 64`, with a plus sign if one likes. -/
  | number64
  | url
  | switch
  deriving DecidableEq

namespace Kind

/-- A number below `2 ^ 32`. -/
def number32? (s : String) : Option Nat :=
  match s.toList with
  | '-' :: rest => (readDecimal? rest).filter (· = 0)
  | '+' :: rest => (readDecimal? rest).filter (· < 1 <<< 32)
  | cs => (readDecimal? cs).filter (· < 1 <<< 32)

/-- A number below `2 ^ 64`. -/
def number64? (s : String) : Option Nat := Config.Value.decimal? s

/-- A text fits an option. -/
def fits (s : String) : Kind → Bool
  | text => true
  | number32 => (number32? s).isSome
  | number64 => (number64? s).isSome
  | url => (Url.parse? s).isSome
  | switch => s == "true" || s == "false"

end Kind

/-- An option and where its value comes from when it is not given. -/
structure OptionSpec where
  name : String
  kind : Kind
  /-- The variable that is looked at. -/
  variableName : Option String := none
  /-- What it is if the variable is not there either. -/
  fallback : Option String := none

/-- The options that go with every command. -/
def commonOptions : List OptionSpec :=
  [⟨"network", .text, some "NETWORK", some "mainnet"⟩,
   ⟨"network_spec", .text, some "NETWORK_SPEC", none⟩,
   ⟨"infura_project_id", .text, some "INFURA_PROJECT_ID", none⟩,
   ⟨"rpc_url", .url, some "RPC_URL", none⟩,
   ⟨"method_table", .text, some "METHOD_TABLE", none⟩,
   ⟨"tracker.poll_interval_millis", .number64, some "TRACKER_POLL_INTERVAL_MILLIS", some "20000"⟩,
   ⟨"tracker.block_reset_millis", .number64, some "TRACKER_BLOCK_RESET_MILLIS", some "20000"⟩,
   ⟨"cache.capacity", .number32, some "CACHE_CAPACITY", some "10000"⟩,
   ⟨"retry.max_attempts", .number32, some "RETRY_MAX_ATTEMPTS", some "10"⟩,
   ⟨"retry.interval_millis", .number64, some "RETRY_INTERVAL_MILLIS", some "1000"⟩,
   ⟨"request_timeout_millis", .number64, some "REQUEST_TIMEOUT_MILLIS", some "30000"⟩,
   ⟨"log.file", .text, some "LOG_FILE", none⟩,
   ⟨"log.json", .switch, some "LOG_JSON", none⟩]

inductive Command where
  /-- Send one request and print the response. -/
  | request (method : String) (params : Option String)
  /-- Print new heads, as many as asked for or for ever. -/
  | watch (count : Option Nat)
  deriving DecidableEq

structure Options where
  command : Command
  network : String
  networkFile : Option String
  projectId : Option String
  endpoint : Option Url
  methodFile : Option String
  client : Client.Settings
  /-- How long a request to the endpoint may take. -/
  timeout : Duration
  logFile : Option String
  logJson : Bool

/-- The options that a dictionary of values gives. -/
def Options.ofValues (command : Command) (values : Dict String) : Options :=
  let text? (name : String) : Option String := values.get? name
  let millis (name : String) : Duration :=
    .ofMillis (((text? name).bind Kind.number64?).getD 0)
  let count (name : String) : Nat := ((text? name).bind Kind.number32?).getD 0
  { command
    network := (text? "network").getD ""
    networkFile := text? "network_spec"
    projectId := text? "infura_project_id"
    endpoint := (text? "rpc_url").bind Url.parse?
    methodFile := text? "method_table"
    client := {
      tracker := { Tracker.Settings.default with
        pollInterval := millis "tracker.poll_interval_millis"
        blockReset := millis "tracker.block_reset_millis" }
      cacheCapacity := count "cache.capacity"
      retry := ⟨count "retry.max_attempts", millis "retry.interval_millis"⟩ }
    timeout := millis "request_timeout_millis"
    logFile := text? "log.file"
    logJson := text? "log.json" == some "true" }

end EthRpc.CommandLine
