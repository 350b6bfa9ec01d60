import ServerTrials.Net.Address
import ServerTrials.Text.Quoted

/-!
Why a server refuses its options.

Each constructor is one rule that an option object, or the positional arguments standing for one, can
break; `message` is its wording.
-/

namespace ServerTrials

/-- A rule that the options break. -/
inductive ConfigError where
  /-- The options are something other than an object. -/
  | notAnObject
  /-- An option has the wrong type. -/
  | invalidType (key expected : String)
  /-- The mode is neither of the two. -/
  | invalidMode (value : String)
  /-- The family is neither of the two. -/
  | invalidFamily (value : Int)
  /-- The protocol is neither of the two. -/
  | unsupportedProtocol (value : String)
  /-- A connection limit without connections. -/
  | maxConnectionsWithoutTcp
  /-- A connection limit out of range. -/
  | maxConnectionsOutOfRange (value : Int)
  /-- A port out of range. -/
  | portOutOfRange (key : String) (value : Int)
  /-- Both ports are the same. -/
  | portCollision (port : UInt16)
  /-- An interface name without an address of the family. -/
  | interfaceNotFound (key name : String)
  /-- Full mode on a host with fewer than two addresses. -/
  | insufficientAddresses (family : Family)
  /-- Both interfaces have the same address. -/
  | sameAddress (address : IpAddress)
  /-- An advertised address that is no literal of the family. -/
  | invalidAdvertised (key value : String) (family : Family)
  /-- An alternate advertised address outside full mode. -/
  | alternateAdvertisedRequiresFull
  /-- More than three positional arguments. -/
  | tooManyArguments (count : Nat)
  /-- An endpoint argument of the wrong shape. -/
  | invalidEndpointArgument (position : Nat)
  /-- An extras argument of the wrong shape. -/
  | invalidExtrasArgument
  deriving DecidableEq, Repr

/-- The wording of a refusal. -/
def ConfigError.message : ConfigError → String
  | .notAnObject => "the server configuration must be an object"
  | .invalidType key expected => key ++ " can only be " ++ expected ++ " or undefined"
  | .invalidMode value => "mode must be \"full\" or \"basic\", got " ++ Text.quoted value
  | .invalidFamily value => "IP family must be 4 or 6, got " ++ toString value
  | .unsupportedProtocol value =>
    "protocol must be 'udp' or 'tcp', got " ++ Text.quoted value ++ " ('tls' is not supported)"
  | .maxConnectionsWithoutTcp => "max_connections has no meaning in UDP mode"
  | .maxConnectionsOutOfRange value =>
    "max_connections must be between 1-100000, got " ++ toString value
  | .portOutOfRange key value =>
    key ++ " value " ++ toString value ++ " is invalid, must be between 1-65535"
  | .portCollision port =>
    "primary port and alternate port must be different values (both " ++ toString port.toNat ++ ")"
  | .interfaceNotFound key name => "no matching adapter found for " ++ key ++ " " ++ Text.quoted name
  | .insufficientAddresses family =>
    "full mode requires two or more unique " ++ family.name ++ " addresses"
  | .sameAddress address =>
    "primary and alternate interface share address " ++ address.text ++ ", full mode requires two"
  | .invalidAdvertised key value family =>
    key ++ " " ++ Text.quoted value ++ " is not a valid " ++ family.name ++ " address string"
  | .alternateAdvertisedRequiresFull => "cannot set alternate_advertised unless mode is \"full\""
  | .tooManyArguments count =>
    "wrong number of arguments: expected at most 3, got " ++ toString count
  | .invalidEndpointArgument position =>
    "endpoint argument " ++ toString position ++ " can only be an object, an integer or undefined"
  | .invalidExtrasArgument => "extra options can only be an object or a string"

end ServerTrials
