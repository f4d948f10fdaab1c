-- SUMMARY: From the name of a network to its chain id and endpoint.
import EthRpc.Config.Format
import EthRpc.Network.Spec

/-!
# Resolving networks

What is known of a network comes in layers: its name, what is built in, a file,
and variables, each over the one before. The endpoint may leave a place for the
caller's project id, and a caller who names an endpoint needs none of this.
-/

namespace EthRpc.Network

/-! ## Built-in networks -/

/-- Names and chain ids. -/
def known : List (String × Nat) :=
  [("mainnet", 1), ("ropsten", 3), ("rinkeby", 4), ("kovan", 42), ("goerli", 5),
   ("sepolia", 11155111)]

/-- What stands for the project id in an endpoint. -/
def placeholder : String := "\x7bproject_id\x7d"

def knownConfig? (name : String) : Option Config :=
  (known.find? (·.1 == name)).map fun (name, chainId) =>
    Dict.ofList [
      ("name", .text name),
      ("chain_id", .whole chainId),
      ("rpc_url", .text ("https://" ++ name ++ ".infura.io/v3/" ++ placeholder))]

/-! ## What can go wrong -/

inductive Problem where
  | unknownNetwork (name : String)
  /-- The file is missing, or cannot be read. -/
  | unreadable
  /-- A key leads nowhere. -/
  | noPlace
  /-- Something is missing, or not of the kind it has to be. -/
  | incomplete
  | zeroChainId
  | missingProjectId (endpoint : String)
  | invalidEndpoint (endpoint : String)
  deriving DecidableEq

def Problem.message : Problem → String
  | unknownNetwork name =>
    "unknown network " ++ name ++ ", expected one of "
      ++ String.intercalate ", " (known.map (·.1)) ++ " or a network spec file"
  | unreadable => "should build network config"
  | noPlace => "no place for an entry of the network config"
  | incomplete => "should deserialize network config"
  | zeroChainId => "chain id must be non-zero"
  | missingProjectId endpoint =>
    "endpoint " ++ endpoint ++ " needs a project id, set INFURA_PROJECT_ID or RPC_URL"
  | invalidEndpoint endpoint => "invalid endpoint url " ++ endpoint

/-! ## Resolving -/

/-- What the caller says. -/
structure Request where
  name : String
  file : Option String
  projectId : Option String
  /-- An endpoint that needs no filling in. -/
  endpoint : Option Url

/-- The beginning of the names of variables about the network. -/
def variableMark : List Char := "network_".toList

def Problem.ofFault : Config.Fault → Problem
  | .unreadable => unreadable
  | .noPlace => noPlace

/-- The entry that a variable makes. -/
def ofVariable? (v : String × String) : Option (String × Config.Value) :=
  let name := (Text.lowercase v.1).toList
  if variableMark.isPrefixOf name then
    some (String.ofList (name.drop variableMark.length), .text v.2)
  else none

/-- The layer that variables make; of two that differ in case only the later counts. -/
def ofVariables (vs : List (String × String)) : Dict Config.Value :=
  Dict.ofList (vs.filterMap ofVariable?)

/-- Put the project id where the endpoint leaves a place for it. -/
def fillEndpoint (template : String) (projectId : Option String) : Except Problem Url :=
  let filled : Except Problem String :=
    match template.splitOn placeholder, projectId with
    | [_], _ => .ok template
    | _, none => .error (.missingProjectId template)
    | pieces, some id => .ok (String.intercalate id pieces)
  filled.bind fun endpoint =>
    match Url.parse? endpoint with
    | some u => .ok u
    | none => .error (.invalidEndpoint endpoint)

/-- The network that a configuration describes. -/
def ofConfig (c : Config) (r : Request) : Except Problem Network :=
  match (c.get? "name").bind (·.text?), (c.get? "chain_id").bind (·.nat?),
      (c.get? "rpc_url").bind (·.text?) with
  | some name, some chainId, some template =>
    if chainId = 0 then .error .zeroChainId
    else do
      let endpoint ← match r.endpoint with
        | some u => .ok u
        | none => fillEndpoint template r.projectId
      return ⟨name, chainId, endpoint⟩
  | _, _, _ => .error .incomplete

variable {m : Type → Type} [Monad m]

/-- Layers, the lowest one first, laid over each other. -/
def stack (layers : List (List (String × Config.Value))) : Except Problem Config :=
  match layers.foldlM (fun c top => Config.layer? top c) [] with
  | some c => .ok c
  | none => .error .noPlace

/-- Resolve a network, given the variables around. -/
def resolve (look : Look m) (environment : List (String × String)) (r : Request) :
    m (Except Problem Network) := do
  let r := { r with name := Text.lowercase r.name }
  let builtin := knownConfig? r.name
  if builtin.isNone ∧ r.file.isNone then return .error (.unknownNetwork r.name)
  else
    let fromFile ← match r.file with
      | none => pure (.ok [])
      | some path => Config.load look path
    match fromFile with
    | .error f => return .error (.ofFault f)
    | .ok entries =>
      let named := [("name", Config.Value.text r.name)]
      return (stack [named, builtin.getD [], entries, ofVariables environment]).bind (ofConfig · r)

end EthRpc.Network
