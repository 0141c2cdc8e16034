import ListInvocation.Network.Address

/-!
Contract: a host without interfaces and without privileges.

Owns: which addresses such a host refuses to listen on, with the system's wording.

Does not own: hosts that have interfaces; on those the system decides.
-/

namespace ListInvocation.Network

/-- Ports below this one are for privileged programs. -/
def firstOpenPort : Nat := 1024

/-- The system's word for a privileged port. -/
def permissionDenied : String := "Permission denied (os error 13)"

/-- The system's word for an address of another host. -/
def addressNotAvailable : String := "Cannot assign requested address (os error 99)"

/-- The system's word for an address that no interface leads to. -/
def networkUnreachable : String := "Network is unreachable (os error 101)"

/-- Why the host does not listen on an address, if it does not. A port is checked before
the address; of the addresses of eight groups it has the unspecified one only. -/
def refusal? (socket : SocketAddress) : Option String :=
  if 0 < socket.port ∧ socket.port < firstOpenPort then some permissionDenied
  else
    match socket.address with
    | .octets _ => none
    | .groups groups => if groups.all (· == 0) then none else some addressNotAvailable

end ListInvocation.Network
