-- SUMMARY: From the command line to a client that is ready to run.
import EthRpc.CommandLine.Arguments
import EthRpc.CommandLine.Variables
import EthRpc.Network.Resolve

/-!
# Launching

The command line is read first, then the log is opened, then the network is
resolved, then the method table is loaded, and last come the parameters of the
request. The first of these that goes wrong ends the program, with a message
unless it is the log or a setting that has no place.
-/

namespace EthRpc

/-! ## Configuration files in JSON -/

/-- Why a file in JSON is of no use. -/
inductive FileProblem where
  | missing (path : String)
  | malformed (path : String)
  deriving DecidableEq

def FileProblem.message : FileProblem → String
  | missing path => "should open " ++ path
  | malformed path => "should parse " ++ path

variable {m : Type → Type} [Monad m] {α : Type}

/-- Read a file that has to be there. -/
def loadFile (look : Look m) (read : String → Option α) (path : String) :
    m (Except FileProblem α) := do
  match ← look path with
  | none => return .error (.missing path)
  | some e =>
    match e.text?.bind read with
    | some a => return .ok a
    | none => return .error (.malformed path)

namespace CommandLine

/-- The table of a file takes the place of the built-in one. -/
def Options.methods (look : Look m) (o : Options) : m (Except FileProblem MethodTable) :=
  match o.methodFile with
  | none => pure (.ok .builtin)
  | some path => loadFile look MethodTable.parse? path

/-- The longest name a file can have, in bytes. -/
def longestName : Nat := 255

/-- A log can be kept in a file: directories that are missing on the way are made, and so is the file,
but nothing is put in place of something else. A log without a name is named by the day. -/
def canLog (look : Look m) (path : String) : m Bool := do
  if path = "" then return true
  else
    match Path.fileName? path with
    | none => return false
    | some name =>
      if longestName < name.utf8ByteSize then return false
      let onTheWay ← (Path.ancestors path).mapM look
      return !onTheWay.any (fun e => e.any (· ≠ .directory)) && (← look path) != some .directory

def Options.logWorks (look : Look m) (o : Options) : m Bool :=
  match o.logFile with
  | none => pure true
  | some path => canLog look path

/-- The exit code of a program that cannot be set up: it has no log to write to, or a variable or a
setting that it cannot take over. -/
def brokenSetupCode : Nat := 101

/-! ## Launching -/

/-- All that a client needs. -/
structure Setup where
  network : Network
  methods : MethodTable
  settings : Client.Settings
  timeout : Duration

/-- What comes of a command line. -/
inductive Launch where
  | refused (r : Refusal)
  /-- The log or a setting has no place. -/
  | brokenSetup
  | failed (message : String)
  | request (s : Setup) (q : Request)
  | watch (s : Setup) (count : Option Nat)

/-- The parameters of a request, which are a list. -/
def params? : Option String → Option (List Json)
  | none => some []
  | some text => (Json.parse? text).bind Json.array?

def paramsProblem : String := "params should be a JSON array"

/-- Prepare what the command line asks for. -/
def launch (look : Look m) (environment : List (String × String)) (arguments : List String) :
    m Launch := do
  match read environment arguments with
  | .error r => return .refused r
  | .ok o =>
    let asked : Network.Request := ⟨o.network, o.networkFile, o.projectId, o.endpoint⟩
    if !(← o.logWorks look) then return .brokenSetup
    match ← Network.resolve look environment asked with
    | .error .noPlace => return .brokenSetup
    | .error p => return .failed p.message
    | .ok network =>
      match ← o.methods look with
      | .error p => return .failed p.message
      | .ok methods =>
        let setup : Setup := ⟨network, methods, o.client, o.timeout⟩
        match o.command with
        | .watch count => return .watch setup count
        | .request method params =>
          match params? params with
          | none => return .failed paramsProblem
          | some params => return .request setup ⟨.number 1, method, params⟩

/-! ## What is printed -/

/-- The response to a request as it is printed. -/
def responseText (r : Response) : String := r.wireValue.pretty ++ "\n"

/-- A new head as it is printed. -/
def headLine (h : BlockHead) : String := toString h.number ++ " " ++ h.hash.text

/-- The first line of a message, without its line end. -/
def firstLine (s : String) : String :=
  let line := s.toList.takeWhile (· ≠ '\n')
  String.ofList (if line.getLast? = some '\r' then line.dropLast else line)

end CommandLine

end EthRpc
