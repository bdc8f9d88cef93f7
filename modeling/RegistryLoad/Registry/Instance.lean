/-!
# Registered things and interests in them

Service instances, the sources that register copies of them, and the interests that clients
take in a part of the registry.
-/

namespace RegistryLoad

/-- A service instance of an application behind a virtual address. -/
structure Instance where
  id : String
  application : String
  virtualAddress : String
  hostname : String
  ipAddress : String
  port : UInt16
  deriving DecidableEq, Repr, Inhabited

/-- An instance at the local host, its host name formed from its id. -/
def Instance.named (id application virtualAddress : String) : Instance where
  id := id
  application := application
  virtualAddress := virtualAddress
  hostname := id ++ ".perf.internal"
  ipAddress := "127.0.0.1"
  port := 7001

/-- Where a registration comes from. -/
inductive Origin where
  | localRegistry
  | replicated
  deriving DecidableEq, Repr

def Origin.text : Origin → String
  | localRegistry => "local"
  | replicated => "replicated"

/-- The owner of a copy of an instance. -/
structure Source where
  origin : Origin
  name : String
  deriving DecidableEq, Repr

/-- The source of everything that a load run registers. -/
def Source.perf : Source := ⟨.localRegistry, "perf"⟩

def Source.text (s : Source) : String := s.origin.text ++ ":" ++ s.name

/-- The part of the registry that a client wants to hear of. -/
inductive Interest where
  | fullRegistry
  | application (name : String)
  | virtualAddress (address : String)
  deriving DecidableEq, Repr

namespace Interest

def text : Interest → String
  | fullRegistry => "full-registry"
  | application name => "application=" ++ name
  | virtualAddress address => "vip=" ++ address

/-- Whether a change of the instance concerns the client. -/
def covers : Interest → Instance → Bool
  | fullRegistry, _ => true
  | application name, i => i.application == name
  | virtualAddress address, i => i.virtualAddress == address

end Interest

end RegistryLoad
