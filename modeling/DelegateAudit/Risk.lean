import DelegateAudit.Abi
import DelegateAudit.Evidence

/-!
# DelegateAudit — risk

One tier sums up what is known about a contract. Only a DELEGATECALL in code that runs
counts at all. It is likely reachable when something callable leads to it and a source
file confirms it; one sign alone makes it medium, and a fallback entry alone is no sign.
-/

namespace DelegateAudit

/-- How risky a contract looks. -/
inductive Tier where
  | low
  | medium
  | likelyReachable
deriving DecidableEq, Repr

namespace Tier

/-- The name of a tier. -/
def name : Tier → Text
  | .low => "LOW"
  | .medium => "MEDIUM"
  | .likelyReachable => "LIKELY-REACHABLE"

/-- All tiers, from low to high. -/
def all : List Tier := [.low, .medium, .likelyReachable]

/-- The tier of a name. -/
def ofName (name : Text) : Except Fault Tier :=
  match all.find? fun tier => tier.name = name with
  | some tier => .ok tier
  | none => .error (.unknownTier name)

/-- The place of a tier in the order from low to high. -/
def rank : Tier → Nat
  | .low => 0
  | .medium => 1
  | .likelyReachable => 2

end Tier

/-- The tier of what was found in the code, in the ABI, in the main source and in the imports. -/
def classify (evidence : Evidence) (surface : Abi.Surface) (sourceHit : Bool)
    (importHits : List Text) : Tier :=
  let confirmed := sourceHit || !importHits.isEmpty
  if !evidence.runtimeStripped then .low
  else if (surface.hasForwarder || surface.hasFallback) && confirmed then .likelyReachable
  else if surface.hasForwarder || confirmed then .medium
  else .low

end DelegateAudit
