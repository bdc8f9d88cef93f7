import RegistryLoad.Registry.Instance
import RegistryLoad.Text.Numeral
import RegistryLoad.Topology.Keystream

/-!
# Topologies

A topology provides the instances that a run registers, a replacement for each instance that it
retires, and interests in them.

* `Topology`: what a run asks of a topology.
* `Generator`: a made-up topology of numbered applications and instances, in which instance `n`
  belongs to application `n` modulo the number of applications, and all network addresses come
  from one random stream.
* `Generator.create?`: a topology of any size, if there can be one.
-/

namespace RegistryLoad

open RegistryLoad.Text

/-- A source of instances. -/
class Topology (τ : Type) where
  /-- The instances at the start. -/
  servicePool : τ → List Instance
  /-- An instance to take the place of a retired one. -/
  replacementFor : τ → Instance → Instance × τ

/-- Why a topology cannot be made. -/
inductive TopologyError where
  | emptyName
  | noApplications (name : String)
  deriving DecidableEq, Repr

def TopologyError.message : TopologyError → String
  | .emptyName => "Topology name must not be empty"
  | .noApplications name => "Topology '" ++ name ++ "' needs at least one application"

/-- The name of application `k`. -/
def applicationName (k : Nat) : String := String.ofList ("app".toList ++ decimalPadded 3 k)

/-- The virtual address of application `k` in a topology. -/
def virtualAddressOf (topology : String) (k : Nat) : String :=
  applicationName k ++ "." ++ topology ++ ".vip"

/-- The id of the instance with number `index`. -/
def instanceId (topology application : String) (index : UInt64) : String :=
  topology ++ "-" ++ application ++ "-" ++ String.ofList (decimalPadded 6 index.toNat)

/-- A network address and a port. -/
structure Endpoint where
  ipAddress : String
  port : UInt16
  deriving DecidableEq, Repr

namespace Endpoint

/-- An address within `10.0.0.0` to `10.255.255.254`, no last part being zero, and a port from
7000 to 8999. -/
def draw (s : Keystream) : Endpoint × Keystream :=
  let (a, s) := s.byte
  let (b, s) := s.byte
  let (c, s) := s.below 254
  let (p, s) := s.below 2000
  let part (n : Nat) : List Char := '.' :: decimal n
  (⟨String.ofList ("10".toList ++ part a ++ part b ++ part (c + 1)), UInt16.ofNat (7000 + p)⟩, s)

/-- An instance reached at the endpoint. -/
def place (e : Endpoint) (i : Instance) : Instance :=
  { i with ipAddress := e.ipAddress, port := e.port }

end Endpoint

/-- A topology under construction: its random stream and the number of its next instance. -/
structure Generator where
  name : String
  applications : UInt64
  services : List Instance
  nextIndex : UInt64
  stream : Keystream

namespace Generator

/-- The instance with number `index` of the application `app` at `address`, at the next
endpoint of the stream. -/
def instanceAt (name app address : String) (index : UInt64) (s : Keystream) :
    Instance × Keystream :=
  let (endpoint, s) := Endpoint.draw s
  (endpoint.place (Instance.named (instanceId name app index) app address), s)

/-- The first `n` instances from number `start` on, and the stream behind them.  They are
collected in front of `made`, latest first. -/
def pool (name : String) (applications : UInt64) :
    Nat → UInt64 → Keystream → List Instance → List Instance × Keystream
  | 0, _, s, made => (made.reverse, s)
  | n + 1, start, s, made =>
    let app := (start % applications).toNat
    let (i, s) := instanceAt name (applicationName app) (virtualAddressOf name app) start s
    pool name applications n (start + 1) s (i :: made)

/-- A topology of `instances` instances over `applications` applications.  It needs a name and
an application. -/
def create (name : String) (applications instances seed : UInt64) :
    Except TopologyError Generator :=
  if name.isEmpty then .error .emptyName
  else if applications = 0 then .error (.noApplications name)
  else
    let (services, stream) := pool name applications instances.toNat 0 (Keystream.ofSeed seed) []
    .ok ⟨name, applications, services, instances, stream⟩

/-- The most applications for which there can be a table: it has 48 bytes for each, and less than
`2 ^ 63` bytes in all. -/
def maxApplications : Nat := (Nat.pow 2 63 - 1) / 48

/-- A topology, unless the table of its applications is too large to be made. -/
def create? (name : String) (applications instances seed : UInt64) :
    Option (Except TopologyError Generator) :=
  if name.isEmpty ∨ applications.toNat ≤ maxApplications then
    some (create name applications instances seed)
  else none

/-- A fresh instance of the application of another one, under the next number. -/
def replacementFor (g : Generator) (i : Instance) : Instance × Generator :=
  let (fresh, stream) := instanceAt g.name i.application i.virtualAddress g.nextIndex g.stream
  (fresh, { g with nextIndex := g.nextIndex + 1, stream := stream })

theorem replacementFor_eq (g : Generator) (i : Instance) :
    g.replacementFor i =
      ((instanceAt g.name i.application i.virtualAddress g.nextIndex g.stream).1,
        { g with
          nextIndex := g.nextIndex + 1
          stream :=
            (instanceAt g.name i.application i.virtualAddress g.nextIndex g.stream).2 }) := by
  unfold replacementFor
  generalize instanceAt g.name i.application i.virtualAddress g.nextIndex g.stream = drawn
  rfl

instance : Topology Generator where
  servicePool := services
  replacementFor := replacementFor

/-- Query `k` of the endless sequence of interests: each application by its name and by its
address, then the whole registry, and so on from the start. -/
def query (g : Generator) (k : Nat) : Interest :=
  let r := k % (2 * g.applications.toNat + 1)
  if r = 2 * g.applications.toNat then .fullRegistry
  else if r % 2 = 0 then .application (applicationName (r / 2))
  else .virtualAddress (virtualAddressOf g.name (r / 2))

end Generator

end RegistryLoad
