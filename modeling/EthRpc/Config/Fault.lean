-- SUMMARY: What can be wrong with a configuration.

/-!
# Faults

A configuration may not be readable at all, or it may be readable but have
entries that cannot be kept.
-/

namespace EthRpc.Config

/-- Why a configuration cannot be used. -/
inductive Fault where
  /-- There is no file, or its format is not known or not kept to. -/
  | unreadable
  /-- An entry has no place to go to. -/
  | noPlace
  deriving DecidableEq

end EthRpc.Config
