import WebServer.Ipv6
import WebServer.Text.Split

/-!
# WebServer.Address

The addresses that a server can listen on: `host:port`, with a host of this
machine. The machine takes every IPv4 address for its own and has no IPv6
addresses besides the one that stands for all of them.
-/

namespace WebServer

namespace Address

/-- Whether this machine has an IPv6 address. -/
def isOwn (a : Ipv6) : Bool := a.isUnspecified || a.isMapped

/-- Reads an IPv6 address, behind which a zone may be given by number. -/
def zoned? (cs : List Char) : Option Ipv6 :=
  match splitOnce '%' cs with
  | some (text, zone) => if (digits? 10 zone).any (· < 0x100000000) then Ipv6.ofText? text else none
  | none => Ipv6.ofText? cs

/-- Whether a host is this machine, by its name or an address. -/
def isOwnHost (host : List Char) : Bool :=
  foldCase host == "localhost".toList || (Ipv4.ofLoose? host).isSome || (zoned? host).any isOwn

/-- Whether a number is a port. -/
def isPort (n : Nat) : Bool := n < 0x10000

/-- Whether a server can listen on an address. An IPv6 address in brackets takes a
port of digits alone. -/
def isBindable (address : String) : Bool :=
  match address.toList with
  | '[' :: rest =>
      match splitOnce ']' rest with
      | some (host, ':' :: port) => (zoned? host).any isOwn && (digits? 10 port).any isPort
      | _ => false
  | cs =>
      match splitOnceLast ':' cs with
      | some (host, port) => isOwnHost host && (unsigned? 10 port).any isPort
      | none => false

end Address

end WebServer
