import ServerTrials.Proofs.Binding.Frames

/-!
What a client reads in a response.

A reader knows the layout alone: it walks the attributes by their length fields (`attributes?`), takes an
endpoint from a value (`endpoint?`) and takes the mask off it (`mask`, which undoes itself). None of this is
said through the writer. Reading undoes writing for attributes of any type and value, as long as their
lengths fit their fields, so a response says the requester's endpoint twice and nothing else.
-/

namespace ServerTrials.Binding

/-! ### Readers -/

/-- The attributes that bytes hold, one after another, each as long as its length field says; none if the
last one breaks off. -/
def attributes? : Bytes → Option (List Attribute)
  | [] => some []
  | typeHigh :: typeLow :: high :: low :: rest =>
    if value16 high low ≤ rest.length then
      (attributes? (rest.drop (value16 high low))).map fun later =>
        ⟨(value16 typeHigh typeLow).toUInt16, rest.take (value16 high low)⟩ :: later
    else none
  | _ => none
termination_by bytes => bytes.length
decreasing_by simp only [List.length_drop, List.length_cons]; omega

/-- The address of a family that octets spell. -/
def address? (family : UInt8) (octets : Bytes) : Option IpAddress :=
  if family = 0x01 then
    if h : octets.length = 4 then some (.v4 ⟨octets.toArray, h⟩) else none
  else if family = 0x02 then
    if h : octets.length = 16 then some (.v6 ⟨octets.toArray, h⟩) else none
  else none

/-- The endpoint that the value of an attribute holds: after a byte without a meaning the family, the port
and the octets of the address. -/
def endpoint? : Bytes → Option Endpoint
  | _ :: family :: high :: low :: octets =>
    (address? family octets).map fun a => ⟨a, (value16 high low).toUInt16⟩
  | _ => none

/-- Masks octets with the cookie and the transaction id, place by place. -/
def maskOctets {n : Nat} (transaction : Bytes) (octets : Vector UInt8 n) : Vector UInt8 n :=
  .ofFn fun i => octets[i] ^^^ (cookie ++ transaction).getD i 0

/-- Masks an address. -/
def maskAddress (transaction : Bytes) : IpAddress → IpAddress
  | .v4 octets => .v4 (maskOctets transaction octets)
  | .v6 octets => .v6 (maskOctets transaction octets)

/-- Masks an endpoint: its port with the high half of the cookie, its address with the cookie and the
transaction id. -/
def mask (transaction : Bytes) (e : Endpoint) : Endpoint :=
  ⟨maskAddress transaction e.address, e.port ^^^ 0x2112⟩

/-! ### Numbers -/

theorem value16_bytes16 (n : UInt16) : value16 (n >>> 8).toUInt8 n.toUInt8 = n.toNat := by
  have small := n.toNat_lt
  have shifted : (n >>> 8).toNat = n.toNat / 256 := by
    rw [UInt16.toNat_shiftRight]
    exact Nat.shiftRight_eq_div_pow n.toNat 8
  rw [value16, UInt16.toNat_toUInt8, UInt16.toNat_toUInt8, shifted]
  omega

theorem toNat_toUInt16 {n : Nat} (h : n < 65536) : n.toUInt16.toNat = n := by
  rw [Nat.toUInt16_eq, UInt16.toNat_ofNat_of_lt' h]

/-! ### Attributes -/

theorem Attribute.length_encode (a : Attribute) : a.encode.length = 4 + a.value.length := by
  simp only [encode, bytes16, List.length_append, List.length_cons, List.length_nil]

/-- A written attribute is read first, and the walk goes on behind it. -/
theorem attributes?_encode_append {a : Attribute} (short : a.value.length < 65536) (rest : Bytes) :
    attributes? (a.encode ++ rest) = (attributes? rest).map (a :: ·) := by
  have bytes : a.encode ++ rest = (a.type >>> 8).toUInt8 :: a.type.toUInt8 ::
      (a.value.length.toUInt16 >>> 8).toUInt8 :: a.value.length.toUInt16.toUInt8 ::
        (a.value ++ rest) := by
    rw [Attribute.encode, bytes16, bytes16]
    rfl
  have fits : a.value.length ≤ (a.value ++ rest).length := by
    rw [List.length_append]
    exact Nat.le_add_right _ _
  rw [bytes, attributes?, value16_bytes16, value16_bytes16, toNat_toUInt16 short, Nat.toUInt16_eq,
    UInt16.ofNat_toNat, if_pos fits, List.drop_left, List.take_left]

/-- The walk reads what was written, attribute by attribute. -/
theorem attributes?_flatMap_encode : ∀ {as : List Attribute}, (∀ a ∈ as, a.value.length < 65536) →
    attributes? (as.flatMap Attribute.encode) = some as
  | [], _ => by rw [List.flatMap_nil, attributes?]
  | a :: as, short => by
    obtain ⟨first, others⟩ := List.forall_mem_cons.1 short
    rw [List.flatMap_cons, attributes?_encode_append first, attributes?_flatMap_encode others,
      Option.map_some]

/-! ### Endpoints -/

theorem length_octets (a : IpAddress) : a.octets.length = 4 ∨ a.octets.length = 16 := by
  cases a with
  | v4 octets => exact Or.inl octets.length_toList
  | v6 octets => exact Or.inr octets.length_toList

/-- Octets that were taken apart are put together again. -/
theorem mk_toArray_toList {n : Nat} (octets : Vector UInt8 n) (h : octets.toList.toArray.size = n) :
    (⟨octets.toList.toArray, h⟩ : Vector UInt8 n) = octets :=
  Vector.toArray_inj.1 octets.toArray.toArray_toList

theorem address?_octets (a : IpAddress) : address? (familyByte a.family) a.octets = some a := by
  cases a with
  | v4 octets =>
    have length : (IpAddress.v4 octets).octets.length = 4 := octets.length_toList
    rw [address?, IpAddress.family, familyByte, if_pos rfl, dif_pos length]
    exact congrArg (some ∘ IpAddress.v4) (mk_toArray_toList octets length)
  | v6 octets =>
    have length : (IpAddress.v6 octets).octets.length = 16 := octets.length_toList
    rw [address?, IpAddress.family, familyByte, if_neg (by decide), if_pos rfl, dif_pos length]
    exact congrArg (some ∘ IpAddress.v6) (mk_toArray_toList octets length)

/-- The value of a plain attribute is read as its endpoint. -/
theorem endpoint?_plainAttribute (e : Endpoint) : endpoint? (plainAttribute e).value = some e := by
  have value : (plainAttribute e).value = 0 :: familyByte e.address.family :: (e.port >>> 8).toUInt8 ::
      e.port.toUInt8 :: e.address.octets := rfl
  rw [value, endpoint?, address?_octets, value16_bytes16, Nat.toUInt16_eq, UInt16.ofNat_toNat,
    Option.map_some]

/-! ### Masks -/

theorem maskOctets_maskOctets {n : Nat} (transaction : Bytes) (octets : Vector UInt8 n) :
    maskOctets transaction (maskOctets transaction octets) = octets := by
  ext i hi
  simp only [maskOctets, Vector.getElem_ofFn, Fin.getElem_fin]
  rw [UInt8.xor_assoc, UInt8.xor_self, UInt8.xor_zero]

/-- Masking twice changes nothing. -/
theorem mask_mask (transaction : Bytes) (e : Endpoint) : mask transaction (mask transaction e) = e := by
  obtain ⟨address, port⟩ := e
  have port_back : port ^^^ 0x2112 ^^^ 0x2112 = port := by
    rw [UInt16.xor_assoc, UInt16.xor_self, UInt16.xor_zero]
  cases address with
  | v4 octets => simp only [mask, maskAddress, maskOctets_maskOctets, port_back]
  | v6 octets => simp only [mask, maskAddress, maskOctets_maskOctets, port_back]

/-- On the wire the mask goes over the two bytes of the port. -/
theorem masked_bytes16 (transaction : Bytes) (port : UInt16) :
    masked (maskOf transaction) (bytes16 port) = bytes16 (port ^^^ 0x2112) := by
  have high : ((port ^^^ 0x2112) >>> 8).toUInt8 = (port >>> 8).toUInt8 ^^^ 0x21 := by
    rw [UInt16.shiftRight_xor, UInt16.toUInt8_xor]
    rfl
  have low : (port ^^^ 0x2112).toUInt8 = port.toUInt8 ^^^ 0x12 := by
    rw [UInt16.toUInt8_xor]
    rfl
  rw [bytes16, bytes16, high, low]
  rfl

/-- On the wire the mask goes over the octets of an address, which it covers. -/
theorem masked_toList {n : Nat} {transaction : Bytes} (covered : n ≤ 4 + transaction.length)
    (octets : Vector UInt8 n) :
    masked (maskOf transaction) octets.toList = (maskOctets transaction octets).toList := by
  have length : (maskOf transaction).length = 4 + transaction.length := by
    rw [maskOf, List.length_append]
    rfl
  refine List.ext_getElem ?_ fun i hi hi' => ?_
  · rw [masked, List.length_zipWith, Vector.length_toList, Vector.length_toList]
    omega
  · rw [Vector.length_toList] at hi'
    simp only [masked, List.getElem_zipWith, Vector.getElem_toList, maskOctets, Vector.getElem_ofFn]
    rw [List.getD_eq_getElem _ _ (by rw [← maskOf]; omega)]
    rfl

theorem family_maskAddress (transaction : Bytes) (a : IpAddress) :
    (maskAddress transaction a).family = a.family := by
  cases a <;> rfl

theorem length_octets_maskAddress (transaction : Bytes) (a : IpAddress) :
    (maskAddress transaction a).octets.length = a.octets.length := by
  cases a <;> exact Vector.length_toList.trans Vector.length_toList.symm

theorem masked_octets {transaction : Bytes} (length : transaction.length = 12) (a : IpAddress) :
    masked (maskOf transaction) a.octets = (maskAddress transaction a).octets := by
  cases a with
  | v4 octets => exact masked_toList (by omega) octets
  | v6 octets => exact masked_toList (by omega) octets

/-- A masked attribute holds the masked endpoint. -/
theorem value_maskedAttribute {transaction : Bytes} (length : transaction.length = 12) (e : Endpoint) :
    (maskedAttribute e transaction).value = (plainAttribute (mask transaction e)).value := by
  simp only [maskedAttribute, plainAttribute]
  rw [masked_bytes16, masked_octets length, mask, family_maskAddress]

/-- Without its mask the value of a masked attribute is read as the endpoint. -/
theorem endpoint?_maskedAttribute {transaction : Bytes} (length : transaction.length = 12)
    (e : Endpoint) :
    (endpoint? (maskedAttribute e transaction).value).map (mask transaction) = some e := by
  rw [value_maskedAttribute length, endpoint?_plainAttribute, Option.map_some, mask_mask]

/-! ### Responses -/

theorem length_plainAttribute (e : Endpoint) :
    (plainAttribute e).value.length = 4 + e.address.octets.length := by
  simp only [plainAttribute, addressValue, bytes16, List.length_append, List.length_cons, List.length_nil]

/-- Both attributes of a response are as long as one with a plain endpoint. -/
theorem length_maskedAttribute {transaction : Bytes} (length : transaction.length = 12) (e : Endpoint) :
    (maskedAttribute e transaction).value.length = 4 + e.address.octets.length := by
  rw [value_maskedAttribute length, length_plainAttribute, mask, length_octets_maskAddress]

section Success

variable {transaction : Bytes} {as : List Attribute}

theorem length_success (length : transaction.length = 12) :
    (success transaction as).length = headerLength + (as.flatMap Attribute.encode).length := by
  simp only [success, successType, bytes16, cookie, headerLength, List.length_append, List.length_cons,
    List.length_nil, length]

/-- A success response declares the length of its attributes. -/
theorem declaredLength_success (short : (as.flatMap Attribute.encode).length < 65536) :
    declaredLength (success transaction as) = (as.flatMap Attribute.encode).length := by
  have declared : declaredLength (success transaction as)
      = value16 ((as.flatMap Attribute.encode).length.toUInt16 >>> 8).toUInt8
          (as.flatMap Attribute.encode).length.toUInt16.toUInt8 := rfl
  rw [declared, value16_bytes16, toNat_toUInt16 short]

theorem transactionOf_success (length : transaction.length = 12) :
    transactionOf (success transaction as) = transaction := by
  have after : (success transaction as).drop 8 = transaction ++ as.flatMap Attribute.encode := rfl
  rw [transactionOf, after, List.take_left' length]

theorem drop_success (length : transaction.length = 12) :
    (success transaction as).drop headerLength = as.flatMap Attribute.encode := by
  have after : (success transaction as).drop headerLength
      = (transaction ++ as.flatMap Attribute.encode).drop 12 := rfl
  rw [after, List.drop_left' length]

end Success

/-- The attributes of the answer to a transaction from an endpoint. -/
def reflection (transaction : Bytes) (source : Endpoint) : List Attribute :=
  [maskedAttribute source transaction, plainAttribute source]

section Reflection

variable {transaction : Bytes} (length : transaction.length = 12) (source : Endpoint)

include length

/-- Two attributes of twelve bytes each for an IPv4 endpoint, of twenty-four for an IPv6 one. -/
theorem length_reflection :
    ((reflection transaction source).flatMap Attribute.encode).length = 24 ∨
      ((reflection transaction source).flatMap Attribute.encode).length = 48 := by
  have octets := length_octets source.address
  simp only [reflection, List.flatMap_cons, List.flatMap_nil, List.append_nil, List.length_append,
    Attribute.length_encode, length_maskedAttribute length, length_plainAttribute]
  omega

theorem attributes?_reflection :
    attributes? ((reflection transaction source).flatMap Attribute.encode)
      = some (reflection transaction source) := by
  have octets := length_octets source.address
  refine attributes?_flatMap_encode (List.forall_mem_cons.2 ⟨?_, List.forall_mem_singleton.2 ?_⟩)
  · rw [length_maskedAttribute length]
    omega
  · rw [length_plainAttribute]
    omega

end Reflection

theorem respond_eq_some_iff {m r : Bytes} {source : Endpoint} : respond m source = some r ↔
    (∃ n, frameLength? m = some n ∧ isRequest m n = true) ∧
      r = success (transactionOf m) (reflection (transactionOf m) source) := by
  rw [respond, reflection]
  cases frameLength? m with
  | none => simp
  | some n =>
    by_cases request : isRequest m n = true
    · rw [Option.bind_eq_bind, Option.bind_some, if_pos request, Option.some.injEq]
      exact ⟨fun h => ⟨⟨n, rfl, request⟩, h.symm⟩, fun h => h.2.symm⟩
    · simp [request]

theorem length_transactionOf {m : Bytes} {n : Nat} (complete : frameLength? m = some n) :
    (transactionOf m).length = 12 := by
  obtain ⟨total, le⟩ := frameLength?_eq_some_iff.1 complete
  rw [headerLength] at total
  rw [transactionOf, List.length_take, List.length_drop]
  omega

/-- A request that is answered at all is answered from wherever it comes, and the answer reads back. It is
one whole message, a success response to the transaction of the request, and its attributes are two: the
first holds the source under the mask, the second holds it plainly. -/
theorem response_reads_back {m : Bytes} {peer : Endpoint} (answered : (respond m peer).isSome = true)
    (source : Endpoint) : ∃ r, respond m source = some r ∧
      frameLength? r = some r.length ∧ r.length % 4 = 0 ∧
      messageType r = [0x01, 0x01] ∧ cookieOf r = [0x21, 0x12, 0xA4, 0x42] ∧
      transactionOf r = transactionOf m ∧
      ∃ hidden plain, attributes? (r.drop headerLength) = some [⟨0x0020, hidden⟩, ⟨0x0001, plain⟩] ∧
        (endpoint? hidden).map (mask (transactionOf r)) = some source ∧
        endpoint? plain = some source := by
  obtain ⟨_, h⟩ := Option.isSome_iff_exists.1 answered
  obtain ⟨⟨n, complete, request⟩, -⟩ := respond_eq_some_iff.1 h
  have length := length_transactionOf complete
  have body := length_reflection length source
  refine ⟨_, respond_eq_some_iff.2 ⟨⟨n, complete, request⟩, rfl⟩, ?_, ?_, rfl, rfl,
    transactionOf_success length, (maskedAttribute source (transactionOf m)).value,
    (plainAttribute source).value, ?_, ?_, endpoint?_plainAttribute source⟩
  · rw [frameLength?_eq_some_iff, length_success length, declaredLength_success (by omega)]
    exact ⟨rfl, Nat.le_refl _⟩
  · rw [length_success length, headerLength]
    omega
  · rw [drop_success length, attributes?_reflection length]
    rfl
  · rw [transactionOf_success length]
    exact endpoint?_maskedAttribute length source

/-- A transaction id whose bytes are all different. -/
def rising : Bytes := [1, 2, 3, 4, 5, 6, 7, 8, 9, 10, 11, 12]

/-- A request with an attribute of its own, and the beginning of another message behind it. -/
def softwareRequest : Bytes :=
  requestType ++ [0, 8] ++ cookie ++ rising ++ [0x80, 0x22, 0, 4, 0x73, 0x74, 0x75, 0x6E] ++ requestType

/-- A peer whose octets are all different. -/
def distantPeer : Endpoint :=
  ⟨.ofGroups [0x2001, 0x0DB8, 0x1122, 0x3344, 0x5566, 0x7788, 0x99AA, 0xBBCC], 54321⟩

/-- Its answer is a message of 68 bytes and says the peer twice. -/
theorem response_to_distantPeer :
    (respond softwareRequest distantPeer).isSome = true ∧
    ∃ r, respond softwareRequest distantPeer = some r ∧ frameLength? r = some 68 ∧
      ∃ hidden plain, attributes? (r.drop headerLength) = some [⟨0x0020, hidden⟩, ⟨0x0001, plain⟩] ∧
        (endpoint? hidden).map (mask rising) = some distantPeer ∧ endpoint? plain = some distantPeer := by
  have answered : (respond softwareRequest distantPeer).isSome = true := by decide
  obtain ⟨r, h, whole, -, -, -, transaction, hidden, plain, walk, masked, plainly⟩ :=
    response_reads_back answered distantPeer
  have length : (respond softwareRequest distantPeer).map List.length = some 68 := by decide
  rw [h, Option.map_some, Option.some.injEq] at length
  have same : transactionOf softwareRequest = rising := by decide
  rw [transaction, same] at masked
  exact ⟨answered, r, h, whole.trans (congrArg some length), hidden, plain, walk, masked, plainly⟩

end ServerTrials.Binding
