import Mathlib.Data.List.Basic

/-!
# `Haaukins.Guacamole.IPTables`: the firewall rules of an event (`svcs/guacamole/iptables.go`)

The chain `DOCKER-USER` is a list of rules. An `--insert` puts a rule at its head, and a `-D`
deletes the first rule that is equal. Each command may fail, and then the chain stays as it
is; the callers ignore the error, so the functions return the chain only.

The destinations of an ACCEPT rule are the list that the source joins with commas.
-/

set_option autoImplicit false

namespace Haaukins.Guacamole

/-- A rule of the chain, with the source `-s` and the destinations `-d`. -/
inductive Rule where
  /-- `-j REJECT --reject-with icmp-port-unreachable`. -/
  | reject (labSubnet : String)
  /-- `-m state --state RELATED,ESTABLISHED -j RETURN`. -/
  | state (labSubnet : String)
  /-- `-d vpnIPs -j ACCEPT`. -/
  | accept (labSubnet : String) (vpnIPs : List String)
  deriving DecidableEq, Repr

/-- The chain `DOCKER-USER`. -/
abbrev Chain := List Rule

namespace Chain

variable (chain : Chain)

/-- `iptables --insert DOCKER-USER`, where `ok` is false when the command fails. -/
def insertRule (r : Rule) (ok : Bool) : Chain := if ok then r :: chain else chain

/-- `iptables -D DOCKER-USER`. -/
def deleteRule (r : Rule) (ok : Bool) : Chain := if ok then chain.erase r else chain

/-- `createRejectRule`. -/
def createRejectRule (labSubnet : String) (ok : Bool) : Chain :=
  chain.insertRule (.reject labSubnet) ok

/-- `createStateRule`. -/
def createStateRule (labSubnet : String) (ok : Bool) : Chain :=
  chain.insertRule (.state labSubnet) ok

/-- `createAcceptRule`. -/
def createAcceptRule (labSubnet : String) (vpnIPs : List String) (ok : Bool) : Chain :=
  chain.insertRule (.accept labSubnet vpnIPs) ok

/-- `removeRejectRule`. -/
def removeRejectRule (labSubnet : String) (ok : Bool) : Chain :=
  chain.deleteRule (.reject labSubnet) ok

/-- `removeStateRule`. -/
def removeStateRule (labSubnet : String) (ok : Bool) : Chain :=
  chain.deleteRule (.state labSubnet) ok

/-- `removeAcceptRule`. -/
def removeAcceptRule (labSubnet : String) (vpnIps : List String) (ok : Bool) : Chain :=
  chain.deleteRule (.accept labSubnet vpnIps) ok

variable {chain}

/-- An inserted rule is there if the command worked; the others stay. -/
theorem mem_insertRule {r r' : Rule} {ok : Bool} :
    r ∈ chain.insertRule r' ok ↔ (ok = true ∧ r = r') ∨ r ∈ chain := by
  cases ok <;> simp [insertRule]

end Chain

end Haaukins.Guacamole
