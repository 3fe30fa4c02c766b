import EnvTemplate.Url.Domain
import EnvTemplate.Url.Ipv4
import EnvTemplate.Url.Ipv6
import EnvTemplate.Url.Percent
/-! Hosts of URLs. A special URL has a domain name or an address; in any other URL a host that is no
IPv6 address is kept as it is written. -/
namespace EnvTemplate.Url

inductive Host
  | domain (name : List Char)
  | ipv4 (address : Nat)
  | ipv6 (pieces : List Nat)
deriving DecidableEq

namespace Host

def text : Host → List Char
  | domain name => name
  | ipv4 address => Ipv4.text address
  | ipv6 pieces => '[' :: (Ipv6.text pieces ++ [']'])

/-- The address between the brackets of a host that starts with one. -/
def ofBrackets? (inner : List Char) : Option Host :=
  match inner.getLast? with
  | some ']' => (Ipv6.parse? inner.dropLast).map ipv6
  | _ => none

def ofSpecial? : List Char → Option Host
  | '[' :: inner => ofBrackets? inner
  | written => do
    let name ← Utf8.decode? (Form.unescape (Utf8.encode written))
    let name ← Domain.toAscii? name
    if name.isEmpty then none
    else if Ipv4.endsInNumber name then (Ipv4.parse? name).map ipv4
    else some (domain name)

def isForbidden (c : Char) : Bool :=
  c == '\x00' || c == '\t' || c == '\n' || c == '\r' || " #/:<>?@[\\]^|".toList.contains c

/-- The host of a URL that is not special. -/
def ofOpaque? : List Char → Option Host
  | '[' :: inner => ofBrackets? inner
  | written =>
    if written.any isForbidden then none else some (domain (percentEncode inControls written))

end Host

end EnvTemplate.Url
