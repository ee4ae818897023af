/-
# The parts of an instance

What is attached to a virtual machine besides its disks: tags, metadata,
service accounts, scheduling and network interfaces. An unset field is
`none`, which is not the same as an empty list.

Key definitions: `Tags`, `Metadata`, `ServiceAccount`, `Scheduling`,
`AccessConfig`, `NetworkInterface`.
-/
import VmResource.Choice
import VmResource.Identity.Basic

namespace VmResource

/-- Network tags, by which firewalls pick their sources and targets. -/
structure Tags where
  values : Option (List Text)
  /-- Set by the service, and needed to change the tags. -/
  fingerprint : Option Text
deriving DecidableEq, Repr

/-- Pairs of key and value that the metadata server hands out, in order; a
value is unset if the entry came without one. -/
structure Metadata where
  items : Option (List (Text × Option Text))
  /-- Set by the service, and needed to change the metadata. -/
  fingerprint : Option Text
deriving DecidableEq, Repr

namespace Metadata

/-- The entries with `value` for `key`: in the place of the first key that is
the same as it, otherwise at the end. -/
def put {κ β : Type} (same : κ → κ → Bool) (key : κ) (value : β) : List (κ × β) → List (κ × β)
  | [] => [(key, value)]
  | (k, v) :: rest =>
    if same k key then (k, value) :: rest else (k, v) :: put same key value rest

/-- One entry for each key, at its first place and with its last value. -/
def lastOfEach {κ β : Type} (same : κ → κ → Bool) (pairs : List (κ × β)) : List (κ × β) :=
  pairs.foldl (fun es (k, v) => put same k v es) []

/-- The values by key. -/
def values (m : Metadata) : List (Text × Option Text) :=
  lastOfEach (· == ·) (m.items.getD [])

end Metadata

/-- An account under which the instance acts, and what it may do. -/
structure ServiceAccount where
  email : NonemptyText
  scopes : Option (List Text)
deriving DecidableEq, Repr

/-- What happens to an instance while its host is maintained. -/
inductive Maintenance where
  | migrate
  | terminate
deriving DecidableEq, Repr

instance : Choice Maintenance where
  members := [.migrate, .terminate]
  name
    | .migrate => "MIGRATE"
    | .terminate => "TERMINATE"
  mem_members a := by cases a <;> decide
  name_injective {a b} := by cases a <;> cases b <;> decide

/-- When an instance is stopped, and whether it starts again. -/
structure Scheduling where
  automaticRestart : Option Bool
  maintenance : Option Maintenance
  preemptible : Option Bool
deriving DecidableEq, Repr

namespace Scheduling

/-- A preemptible instance neither restarts nor moves to another host. -/
def preemptibleInstance : Scheduling := ⟨some false, some .terminate, some true⟩

end Scheduling

/-- How an interface is reached from outside. -/
inductive AccessType where
  | oneToOneNat
deriving DecidableEq, Repr

instance : Choice AccessType where
  members := [.oneToOneNat]
  name _ := "ONE_TO_ONE_NAT"
  mem_members a := by cases a; decide
  name_injective {a b} _ := by cases a; cases b; rfl

/-- External access of a network interface. -/
structure AccessConfig where
  name : Option Text
  /-- The external address, an ephemeral one if unset. -/
  natIp : Option Text
  type : Option AccessType
deriving DecidableEq, Repr

/-- How an instance is attached to a network. The service gives an interface
its name. -/
structure NetworkInterface where
  network : Identity .network
  name : Option Text
  networkIp : Option Text
  subnetwork : Option (Identity .subnetwork)
  accessConfigs : Option (List AccessConfig)
deriving DecidableEq, Repr

namespace NetworkInterface

/-- The interface to a network of which nothing else is known. -/
def of (network : Identity .network) : NetworkInterface := ⟨network, none, none, none, none⟩

end NetworkInterface
end VmResource
