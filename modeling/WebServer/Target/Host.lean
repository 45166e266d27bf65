import WebServer.Domain
import WebServer.Ipv6
import WebServer.Text.Lossy

/-!
# WebServer.Target.Host

Which hosts an absolute request target may name. A host in brackets is an IPv6
address. A host of a well-known scheme whose last label is a number is an IPv4
address, any other is a domain name; the host of an unknown scheme is any text
without delimiters.
-/

namespace WebServer

namespace Host

/-! ## Addresses -/

/-- Reads a number of an IPv4 address; `0x` alone is zero. -/
def ipv4Number? (cs : List Char) : Option Nat :=
  if cs = ['0', 'x'] || cs = ['0', 'X'] then some 0 else Ipv4.number? cs

/-- Whether a domain must be read as an IPv4 address: its last label that is not
empty is a number. -/
def endsInNumber (d : Domain) : Bool :=
  let last := match d.labels.reverse with
    | [] :: l :: _ => l
    | l :: _ => l
    | [] => []
  (!last.isEmpty && last.all Char.isDigit) || (ipv4Number? last).isSome

/-- Reads a domain as an IPv4 address; an empty last label does not count. -/
def ipv4? (d : Domain) : Option Ipv4 :=
  let labels := if d.labels.getLast? = some [] then d.labels.dropLast else d.labels
  (labels.mapM ipv4Number?).bind Ipv4.ofParts?

/-- Whether a host that opens a bracket is an IPv6 address in brackets. -/
def isBracketed (cs : List Char) : Bool :=
  match cs with
  | '[' :: rest => rest.getLast? = some ']' && (Ipv6.ofText? rest.dropLast).isSome
  | _ => false

/-! ## Hosts -/

/-- The domain name that a host writes, after percent coding is undone. One whose
last label is a number must be an IPv4 address. -/
def domain? (cs : List Char) : Option Domain :=
  (Domain.ofText? (lossyText (percentDecode (utf8 (String.ofList cs)))).toList).filter fun d =>
    !endsInNumber d || (ipv4? d).isSome

/-- Whether a well-known scheme accepts the host. -/
def isSpecial (cs : List Char) : Bool :=
  if cs.head? = some '[' then isBracketed cs else (domain? cs).isSome

/-- Whether a host is the name of this machine. -/
def isLocalhost (cs : List Char) : Bool := domain? cs = some Domain.localhost

/-- Delimiters that the host of an unknown scheme may not hold. -/
def delimiters : List Char :=
  ['\x00', '\t', '\n', '\r', ' ', '#', '/', ':', '<', '>', '?', '@', '[', '\\', ']', '^', '|']

/-- Whether an unknown scheme accepts the host. -/
def isOpaque (cs : List Char) : Bool :=
  if cs.head? = some '[' then isBracketed cs else !cs.any delimiters.contains

end Host

end WebServer
