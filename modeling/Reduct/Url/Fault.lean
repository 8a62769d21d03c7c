namespace Reduct.Url

inductive Fault where
  | withoutScheme
  | emptyHost
  | serviceNumber
  | fourPartAddress
  | eightPartAddress
  | internationalName
  | domainCharacter
  deriving DecidableEq, Repr

def Fault.message : Fault → String
  | .withoutScheme => "relative URL without a base"
  | .emptyHost => "empty host"
  | .serviceNumber => "invalid port number"
  | .fourPartAddress => "invalid IPv4 address"
  | .eightPartAddress => "invalid IPv6 address"
  | .internationalName => "invalid international domain name"
  | .domainCharacter => "invalid domain character"

end Reduct.Url
