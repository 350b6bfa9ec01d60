import ServerTrials.Net.Literal

/-!
The network interfaces of a host, as far as a server's options can ask about them: the address behind
an interface name, and the distinct addresses of a family.
-/

namespace ServerTrials

/-- A named interface and its addresses. -/
structure Interface where
  name : String
  addresses : List IpAddress
  deriving DecidableEq, Repr

/-- A host is the list of its interfaces. -/
structure Host where
  interfaces : List Interface
  deriving DecidableEq, Repr

namespace Host

/-- A host without interfaces. -/
def bare : Host := ⟨[]⟩

/-- A host with a loopback and one routable interface, each with an address of either family. -/
def dualHomed : Host :=
  ⟨[⟨"lo", [.quad 127 0 0 1, .ofGroups [0, 0, 0, 0, 0, 0, 0, 1]]⟩,
    ⟨"eth0", [.quad 10 0 0 2, .ofGroups [0xfd00, 0, 0, 0, 0, 0, 0, 2]]⟩]⟩

/-- The first address of that family on the first interface of that name. -/
def addressFor? (host : Host) (family : Family) (name : String) : Option IpAddress := do
  let i ← host.interfaces.find? (·.name == name)
  i.addresses.find? (·.family == family)

/-- Appends an address that is not there yet. -/
def addDistinct (known : List IpAddress) (a : IpAddress) : List IpAddress :=
  if a ∈ known then known else known ++ [a]

/-- The addresses of a family in interface order, each once. -/
def addresses (host : Host) (family : Family) : List IpAddress :=
  ((host.interfaces.flatMap (·.addresses)).filter (·.family == family)).foldl addDistinct []

end Host
end ServerTrials
