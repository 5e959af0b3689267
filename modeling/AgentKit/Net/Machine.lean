import AgentKit.Fault.Errno
import AgentKit.Net.Address
/-!
# The network of the machine

The machine listens on every address in four octets, also when it is written in groups. Of the other
addresses in groups it listens on the one of its loopback interface and on the one that stands for
all of them.

A refusal of an address in groups says more than that the address is not there: one of many machines
is no place to listen at all, and one that is valid on a link only needs the number of an
interface.
-/
namespace AgentKit.Net

/-- The numbers of the interfaces. -/
def interfaces : List Nat := [1, 2, 3, 4]

/-- Why the machine does not listen on an address of eight groups, if it does not. The zone counts
only where an address is valid on one link. -/
def refusalOfSix? (groups : List Nat) (zone : Nat) : Option Errno :=
  match groups with
  | [0, 0, 0, 0, 0, 0xFFFF, _, _] => none
  | [0, 0, 0, 0, 0, 0, 0, last] => if last ≤ 1 then none else some .addressNotAvailable
  | first :: _ =>
    if 0xFF00 ≤ first then some .invalidArgument
    else if 0xFE80 ≤ first ∧ first < 0xFEC0 then
      if zone = 0 then some .invalidArgument
      else if interfaces.contains zone then some .addressNotAvailable
      else some .noDevice
    else some .addressNotAvailable
  | [] => some .addressNotAvailable

/-- Why the machine does not listen on an address, if it does not. -/
def refusal? : Address → Option Errno
  | .four _ => none
  | .six groups zone => refusalOfSix? groups zone

end AgentKit.Net
