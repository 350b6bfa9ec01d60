import ServerTrials.Net.Address

/-!
Binding messages on the wire.

A message is a header of twenty bytes (type, length of what follows, magic cookie, transaction id) and
its attributes. A binding request is answered with a success response that carries the requester's
endpoint twice, first masked with the cookie and the transaction id, then plainly. Nothing else is
answered.
-/

namespace ServerTrials.Binding

/-- Bytes in the order of the wire. -/
abbrev Bytes := List UInt8

/-- The length of a header. -/
def headerLength : Nat := 20

/-- The magic cookie. -/
def cookie : Bytes := [0x21, 0x12, 0xA4, 0x42]

/-- The type of a binding request. -/
def requestType : Bytes := [0x00, 0x01]

/-- The type of a binding success response. -/
def successType : Bytes := [0x01, 0x01]

/-- Sixteen bits, the high byte first. -/
def bytes16 (n : UInt16) : Bytes := [(n >>> 8).toUInt8, n.toUInt8]

/-- The number that two bytes hold, the high byte first. -/
def value16 (high low : UInt8) : Nat := high.toNat * 256 + low.toNat

/-! ### Parts of a message -/

/-- The length that a header declares for what follows it. -/
def declaredLength (m : Bytes) : Nat := value16 (m.getD 2 0) (m.getD 3 0)

/-- The length of the first message, if all of it is there. -/
def frameLength? (m : Bytes) : Option Nat :=
  if m.length < headerLength then none
  else
    let total := headerLength + declaredLength m
    if total ≤ m.length then some total else none

/-- The type of a message. -/
def messageType (m : Bytes) : Bytes := m.take 2

/-- The cookie of a message. -/
def cookieOf (m : Bytes) : Bytes := (m.drop 4).take 4

/-- The transaction id of a message. -/
def transactionOf (m : Bytes) : Bytes := (m.drop 8).take 12

/-! ### Attributes -/

/-- An attribute: its type and its value. -/
structure Attribute where
  type : UInt16
  value : Bytes
  deriving DecidableEq, Repr

/-- The type of an attribute with an endpoint. -/
def mappedAddress : UInt16 := 0x0001

/-- The type of an attribute with a masked endpoint. -/
def xorMappedAddress : UInt16 := 0x0020

/-- The bytes of an attribute: type, length and value; values here need no padding. -/
def Attribute.encode (a : Attribute) : Bytes :=
  bytes16 a.type ++ bytes16 a.value.length.toUInt16 ++ a.value

/-- The byte that stands for a family. -/
def familyByte : Family → UInt8
  | .v4 => 0x01
  | .v6 => 0x02

/-- The value of an attribute with an endpoint, given the bytes of its port and address. -/
def addressValue (family : Family) (port octets : Bytes) : Bytes :=
  [0, familyByte family] ++ port ++ octets

/-- Masks bytes. -/
def masked (mask bytes : Bytes) : Bytes := List.zipWith (· ^^^ ·) bytes mask

/-- What masks an endpoint in the answer to a transaction. -/
def maskOf (transaction : Bytes) : Bytes := cookie ++ transaction

/-- The attribute with the endpoint. -/
def plainAttribute (source : Endpoint) : Attribute :=
  ⟨mappedAddress, addressValue source.address.family (bytes16 source.port) source.address.octets⟩

/-- The attribute with the masked endpoint. -/
def maskedAttribute (source : Endpoint) (transaction : Bytes) : Attribute :=
  ⟨xorMappedAddress,
    addressValue source.address.family (masked (maskOf transaction) (bytes16 source.port))
      (masked (maskOf transaction) source.address.octets)⟩

/-! ### Responses -/

/-- A success response with these attributes. -/
def success (transaction : Bytes) (attributes : List Attribute) : Bytes :=
  let body := attributes.flatMap Attribute.encode
  successType ++ bytes16 body.length.toUInt16 ++ cookie ++ transaction ++ body

/-- Whether a message of that length is a binding request. -/
def isRequest (m : Bytes) (length : Nat) : Bool :=
  messageType m == requestType && cookieOf m == cookie && length % 4 == 0

/-- The answer to a message from an endpoint, if it gets one. -/
def respond (m : Bytes) (source : Endpoint) : Option Bytes := do
  let length ← frameLength? m
  if isRequest m length then
    some (success (transactionOf m)
      [maskedAttribute source (transactionOf m), plainAttribute source])
  else none

end ServerTrials.Binding
