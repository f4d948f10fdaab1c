-- SUMMARY: The program: one request, or a watch on the head, against an endpoint on the network.
import EthRpc.CommandLine.Launch
import EthRpc.Http.Exchange
import EthRpc.Http.Message
import EthRpc.Machine.Demand
import Std.Async.DNS
import Std.Async.TCP
import Std.Async.Timer

/-!
# The program

All decisions are made elsewhere. Here the files and variables are looked up,
bytes are sent and received, and the clock is read.
-/

namespace EthRpc.Main

open Std.Async

/-! ## Files and variables -/

/-- Look at a real file or directory. -/
def lookAt : Look IO := fun path => do
  try
    let real ← IO.FS.realPath path
    if ← real.isDir then return some .directory
    else return some (.file (← IO.FS.readBinFile real).toList)
  catch _ => return none

/-- A variable in a list of texts of the form `name=value`. -/
def variableOf? (text : String) : Option (String × String) :=
  match text.splitOn "=" with
  | name :: value :: more => some (name, String.intercalate "=" (value :: more))
  | _ => none

/-- The variables around. -/
def environment : IO (List (String × String)) := do
  try
    let bytes ← IO.FS.readBinFile "/proc/self/environ"
    return ((String.fromUTF8? bytes).getD "").splitOn "\x00" |>.filterMap variableOf?
  catch _ =>
    let names := CommandLine.commonOptions.filterMap (·.variableName)
    names.filterMapM fun name => do return (← IO.getEnv name).map (name, ·)

/-- The file of variables in this directory or the nearest one above it. -/
partial def findVariables (directory : String) : IO (Option (List UInt8)) := do
  match ← lookAt (directory ++ "/.env") with
  | some (.file content) => return some content
  | _ => if directory = "" then return none else findVariables (parent directory)
where
  parent (directory : String) : String :=
    String.intercalate "/" (directory.splitOn "/").dropLast

/-! ## Exchanges -/

def address (host : Url.Host) : Async (Option Std.Net.IPAddr) := do
  match host with
  | .v4 a =>
    let byte (i : Nat) : UInt8 := (a >>> (8 * i) % 256).toUInt8
    return some (.v4 (.ofParts (byte 3) (byte 2) (byte 1) (byte 0)))
  | .v6 _ => return (Std.Net.IPv6Addr.ofString (host.text.drop 1 |>.dropEnd 1 |>.toString)).map .v6
  | host => return (← DNS.getAddrInfo host.text "")[0]?

/-- Receive until the reply is complete. -/
partial def receive (socket : TCP.Socket.Client) (bytes : List UInt8) : Async Http.Exchange := do
  let more ← socket.recv? 65536
  let bytes := bytes ++ (more.map (·.toList)).getD []
  match Http.progress bytes more.isNone with
  | .incomplete => receive socket bytes
  | .malformed => return .broken "invalid reply"
  | .complete status body => return .reply status body

/-- Send a request and wait for the reply. -/
def talk (u : Url) (q : Request) : Async Http.Exchange := do
  if u.scheme ≠ "http" then return .broken ("no transport for scheme " ++ u.scheme)
  let some a := u.authority | return .broken "no host"
  let some ip ← address a.host | return .broken "unknown host"
  let port := (u.port?.getD 80).toUInt16
  let socket ← TCP.Socket.Client.mk
  socket.connect (match ip with
    | .v4 ip => .v4 ⟨ip, port⟩
    | .v6 ip => .v6 ⟨ip, port⟩)
  socket.send (Http.requestText u q.wire).toUTF8
  receive socket []

instance : Inhabited Http.Exchange := ⟨.late⟩

/-- What comes of a request within the time allowed. -/
def exchange (setup : CommandLine.Setup) (q : Request) : IO Http.Exchange := do
  try
    let bound : Std.Time.Millisecond.Offset := .ofNat setup.timeout.millis
    (Async.race (talk setup.network.endpoint q) (do
      sleep bound
      return .late)).block
  catch e => return .broken (toString e)

/-! ## Running a client -/

/-- The client with its clock set. -/
def clocked (start : Nat) (m : Machine) : IO Machine := do
  return m.setClock ((← IO.monoNanosNow) - start)

/-- Let the client work until `done` or until it has nothing to wait for. -/
partial def runClient (setup : CommandLine.Setup) (start : Nat)
    (done : Machine → IO (Option Machine)) (m : Machine) : IO Machine := do
  let m ← clocked start m
  let some m ← done m | return m
  match m.work? with
  | some m => runClient setup start done m
  | none =>
    match m.nextDemand? with
    | none => return m
    | some (.exchange t q) =>
      let outcome := (← exchange setup q).outcome
      runClient setup start done ((← clocked start m).act (.answer t outcome))
    | some (.time t d) =>
      if d ≤ m.now then runClient setup start done (m.act (.fire t))
      else
        IO.sleep (min ((d - m.now).millis + 1) (1 <<< 31)).toUInt32
        runClient setup start done m

def newClient (setup : CommandLine.Setup) : Machine := Client.start setup.settings

/-- Handle one request and print the response. -/
def request (setup : CommandLine.Setup) (q : Request) : IO UInt32 := do
  let d := Client.dispatch (Client.stages setup.methods setup.settings.retry) q
  let m := (newClient setup).act (.launch d.program)
  let isDone (m : Machine) : IO (Option Machine) :=
    return if (m.activity? 0).all (·.isOver) then none else some m
  let start ← IO.monoNanosNow
  let seen ← IO.mkRef m
  let _ ← runClient setup start (fun m => do seen.set m; isDone m) m
  match (← seen.get).activity? 0 with
  | some (.finished outcome) =>
    IO.print (CommandLine.responseText (d.response outcome))
    return 0
  | _ => return 1

/-- Print heads as they come. -/
def watch (setup : CommandLine.Setup) (count : Option Nat) : IO UInt32 := do
  let printed ← IO.mkRef 0
  let rec print (m : Machine) : Nat → IO (Option Machine)
    | 0 => return some m
    | fuel + 1 =>
      match m.receive 0 with
      | none => return some m
      | some (c, m) => do
        IO.println (CommandLine.headLine c.current)
        printed.modify (· + 1)
        let n ← printed.get
        if count.any (· ≤ n) then return none else print m fuel
  let _ ← runClient setup (← IO.monoNanosNow) (print · Tracker.backlog) ((newClient setup).act .subscribe)
  return 0

/-! ## The command line -/

def usage : String :=
  "Usage: ethrpc [OPTIONS] <request METHOD [PARAMS] | watch [--count N]>\n\nOptions:\n"
    ++ String.join (CommandLine.commonOptions.map fun o => "  --" ++ o.name ++ "\n")

def refuse (r : CommandLine.Refusal) : IO UInt32 := do
  match r with
  | .help => IO.print usage
  | .version => IO.println "ethrpc 0.1.0"
  | _ => IO.eprint usage
  return r.exitCode.toUInt32

/-- Give up before anything is set up. -/
def fail (message : String) : IO UInt32 := do
  IO.eprintln message
  return CommandLine.brokenSetupCode.toUInt32

def run (arguments : List String) : IO UInt32 := do
  let around ← environment
  let here := toString (← IO.FS.realPath ".")
  let environment := match ← findVariables here with
    | some content => CommandLine.Variables.load? around content
    | none => some around
  let some environment := environment | fail "a variable cannot be taken over"
  match ← CommandLine.launch lookAt environment arguments with
  | .refused r => refuse r
  | .brokenSetup => fail "the log or a setting has no place"
  | .failed message =>
    IO.eprintln ("Error: " ++ message)
    return 1
  | .request setup q => request setup q
  | .watch setup count => watch setup count

end EthRpc.Main

def main (arguments : List String) : IO UInt32 := EthRpc.Main.run arguments
