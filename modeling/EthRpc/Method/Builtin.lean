-- SUMMARY: The methods that the client knows without being told.
import EthRpc.Method.Spec

/-!
# Known methods
-/

namespace EthRpc.MethodTable

/-- Facts about the chain that never change, and blocks and transactions by hash. -/
def permanentMethods : List String :=
  ["web3_clientVersion", "web3_sha3", "net_version", "eth_chainId", "eth_protocolVersion",
   "eth_getCompilers", "eth_compileLLL", "eth_compileSolidity", "eth_compileSerpent",
   "shh_version", "eth_getBlockByHash", "eth_getBlockTransactionCountByHash",
   "eth_getUncleCountByBlockHash", "eth_getUncleByBlockHashAndIndex",
   "eth_getTransactionByBlockHashAndIndex"]

/-- Transactions by their own hash, which are not final before they are in a block. -/
def transactionMethods : List String :=
  ["eth_getTransactionByHash", "eth_getTransactionReceipt"]

/-- Methods with a block parameter, its position, and whether an empty answer is asked for again. -/
def blockMethods : List (String × Nat × Bool) :=
  [("eth_getBlockByNumber", 0, true),
   ("eth_getBlockTransactionCountByNumber", 0, false),
   ("eth_getUncleCountByBlockNumber", 0, false),
   ("eth_getUncleByBlockNumberAndIndex", 0, false),
   ("eth_getTransactionByBlockNumberAndIndex", 0, false),
   ("eth_getBalance", 1, true),
   ("eth_getCode", 1, true),
   ("eth_getTransactionCount", 1, true),
   ("eth_call", 1, true),
   ("eth_getStorageAt", 2, true),
   ("eth_getProof", 2, false)]

/-- Methods whose answers change with the head. -/
def headMethods : List String :=
  ["eth_blockNumber", "eth_gasPrice", "eth_maxPriorityFeePerGas", "eth_feeHistory",
   "eth_estimateGas", "eth_getLogs", "eth_getFilterLogs"]

/-- Writes, subscriptions, and what depends on the node alone. -/
def uncachedMethods : List String :=
  ["eth_sendRawTransaction", "eth_sendTransaction", "eth_sign", "eth_signTransaction",
   "eth_signTypedData", "personal_sign", "eth_accounts", "eth_coinbase", "eth_syncing",
   "eth_mining", "eth_hashrate", "net_listening", "net_peerCount", "eth_newFilter",
   "eth_newBlockFilter", "eth_newPendingTransactionFilter", "eth_uninstallFilter",
   "eth_getFilterChanges", "eth_subscribe", "eth_unsubscribe", "eth_submitWork",
   "eth_submitHashrate"]

def builtinEntries : List (String × MethodSpec) :=
  permanentMethods.map (·, { cache := .permanent })
    ++ transactionMethods.map
      (·, { cache := .permanent, retryOnEmpty := true, requireBlockHash := true })
    ++ blockMethods.map
      (fun (name, index, retry) =>
        (name, { cache := .block, blockParam := some index, retryOnEmpty := retry }))
    ++ headMethods.map (·, { cache := .head })
    ++ uncachedMethods.map (·, { cache := .never })

/-- The table of all known methods. -/
def builtin : MethodTable := Dict.ofList builtinEntries

end EthRpc.MethodTable
