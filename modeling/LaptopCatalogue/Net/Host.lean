import LaptopCatalogue.Net.SocketAddress
import LaptopCatalogue.System.Failure

/-!
# Listening

Whether a program can listen at an address of a machine. Low ports are reserved, whatever the
address is; other addresses must belong to the machine and must be free. A machine without a network
has no address but its own loopback.
-/

namespace LaptopCatalogue.Net

def SocketAddress.port : SocketAddress → UInt16
  | .v4 _ port | .v6 _ _ port => port

/-- Whether an address of version 4 leads back to the machine or stands for all its addresses. -/
def Ipv4.isLocal (ip : Ipv4) : Bool := ip.a = 127 || ip = ⟨0, 0, 0, 0⟩

/-- Whether an address of version 6 leads back to the machine or stands for all its addresses. -/
def Ipv6.isLocal (ip : Ipv6) : Bool :=
  ip.groups.dropLast.all (· = 0) && ip.groups.getLast?.all (· ≤ 1)

/-- Whether an address leads back to the machine or stands for all its addresses. -/
def SocketAddress.isLocal : SocketAddress → Bool
  | .v4 ip _ => ip.isLocal
  | .v6 ip _ _ => ip.isLocal

/-- A machine without a network. -/
structure Host where
  /-- The addresses at which programs listen. -/
  taken : List SocketAddress
deriving DecidableEq, Repr

namespace Host

/-- The first port that is not reserved. -/
def firstFreePort : UInt16 := 1024

/-- Why a program cannot listen at an address, if so. A port of 0 stands for any free one. -/
def refusal (host : Host) (address : SocketAddress) : Option SystemFailure :=
  if 0 < address.port && address.port < firstFreePort then some .permissionDenied
  else if host.taken.contains address then some .addressInUse
  else if !address.isLocal then some .addressNotAvailable
  else none

end Host

end LaptopCatalogue.Net
