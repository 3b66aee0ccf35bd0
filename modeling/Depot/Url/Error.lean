/-!
# Texts that are no addresses

Why a text cannot be read as an address, with the words in which that is told.
-/

namespace Depot

/-- What is wrong with an address. -/
inductive UrlError where
  /-- It is relative, and there is nothing that it could be relative to. -/
  | noBase
  /-- It is relative to an address without a hierarchy. -/
  | flatBase
  | emptyHost
  /-- The name of the host cannot be a domain name. -/
  | domainName
  /-- The name of the host holds a character that has a meaning of its own. -/
  | hostCharacter
  | ipv4
  | ipv6
  | port
  deriving DecidableEq

def UrlError.message : UrlError → String
  | noBase => "relative URL without a base"
  | flatBase => "relative URL with a cannot-be-a-base base"
  | emptyHost => "empty host"
  | domainName => "invalid international domain name"
  | hostCharacter => "invalid domain character"
  | ipv4 => "invalid IPv4 address"
  | ipv6 => "invalid IPv6 address"
  | port => "invalid port number"

end Depot
