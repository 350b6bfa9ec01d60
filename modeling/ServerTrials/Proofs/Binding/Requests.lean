import ServerTrials.Proofs.Binding.Responses

/-!
Which bytes are answered.

`IsBindingRequest` says place by place what a request looks like, and just these bytes are answered
(`isSome_respond_iff`). Of them the answer shows the transaction id alone. A response has another type than
a request, so it is never answered in turn.

A receiver reads bytes by their places, and a place beyond the end would be a failure. `respondByPlace`
reads in this way and never fails: every place that is read lies in the header, and the header is there.
-/

namespace ServerTrials.Binding

/-! ### Requests -/

/-- A binding request, with whatever stands behind it: it has a header with the type, a length and the
cookie, it is as long as it says, and its length is a multiple of four. -/
structure IsBindingRequest (m : Bytes) : Prop where
  header : 20 ≤ m.length
  type : m[0]? = some 0x00 ∧ m[1]? = some 0x01
  complete : ∃ high low : UInt8, m[2]? = some high ∧ m[3]? = some low ∧
    20 + (high.toNat * 256 + low.toNat) ≤ m.length ∧ (20 + (high.toNat * 256 + low.toNat)) % 4 = 0
  cookie : m[4]? = some 0x21 ∧ m[5]? = some 0x12 ∧ m[6]? = some 0xA4 ∧ m[7]? = some 0x42

theorem isRequest_iff {m : Bytes} {n : Nat} :
    isRequest m n = true ↔ m.take 2 = [0x00, 0x01] ∧ (m.drop 4).take 4 = [0x21, 0x12, 0xA4, 0x42] ∧
      n % 4 = 0 := by
  rw [isRequest, Bool.and_eq_true, Bool.and_eq_true, beq_iff_eq, beq_iff_eq, beq_iff_eq, and_assoc]
  rfl

theorem isBindingRequest_iff {m : Bytes} :
    IsBindingRequest m ↔ ∃ n, frameLength? m = some n ∧ isRequest m n = true := by
  by_cases long : 20 ≤ m.length
  · match m, long with
    | b₀ :: b₁ :: b₂ :: b₃ :: b₄ :: b₅ :: b₆ :: b₇ :: rest, long =>
      simp only [isRequest_iff, frameLength?_eq_some_iff]
      constructor
      · rintro ⟨-, ⟨type₀, type₁⟩, ⟨high, low, hhigh, hlow, fits, aligned⟩, c₀, c₁, c₂, c₃⟩
        cases type₀; cases type₁; cases hhigh; cases hlow; cases c₀; cases c₁; cases c₂; cases c₃
        exact ⟨_, ⟨rfl, fits⟩, rfl, rfl, aligned⟩
      · rintro ⟨n, ⟨rfl, fits⟩, type, cookie, aligned⟩
        simp only [List.drop_succ_cons, List.drop_zero, List.take_succ_cons, List.take_zero,
          List.cons.injEq, and_true] at type cookie
        obtain ⟨rfl, rfl⟩ := type
        obtain ⟨rfl, rfl, rfl, rfl⟩ := cookie
        exact ⟨long, ⟨rfl, rfl⟩, ⟨b₂, b₃, rfl, rfl, fits, aligned⟩, rfl, rfl, rfl, rfl⟩
  · refine ⟨fun request => absurd request.header long, fun ⟨n, complete, _⟩ => absurd ?_ long⟩
    obtain ⟨header, fits⟩ := headerLength_le_of_frameLength? complete
    exact Nat.le_trans header fits

/-- Just the requests are answered, from wherever they come. -/
theorem isSome_respond_iff {m : Bytes} {source : Endpoint} :
    (respond m source).isSome = true ↔ IsBindingRequest m := by
  simp only [isBindingRequest_iff, Option.isSome_iff_exists, respond_eq_some_iff, exists_and_left,
    exists_eq, and_true]

/-- Requests with one transaction id are answered alike. -/
theorem respond_congr {m m' : Bytes} (request : IsBindingRequest m) (request' : IsBindingRequest m')
    (transaction : transactionOf m = transactionOf m') (source : Endpoint) :
    respond m source = respond m' source := by
  obtain ⟨r, answer⟩ := Option.isSome_iff_exists.1 (isSome_respond_iff.2 request)
  obtain ⟨-, rfl⟩ := respond_eq_some_iff.1 answer
  rw [answer, transaction]
  exact (respond_eq_some_iff.2 ⟨isBindingRequest_iff.1 request', rfl⟩).symm

theorem transactionOf_congr {m m' : Bytes} (same : ∀ i, 8 ≤ i → i < 20 → m[i]? = m'[i]?) :
    transactionOf m = transactionOf m' := by
  refine List.ext_getElem? fun i => ?_
  rw [transactionOf, transactionOf, List.getElem?_take, List.getElem?_take, List.getElem?_drop,
    List.getElem?_drop]
  split
  next inside => exact same (8 + i) (Nat.le_add_right 8 i) (by omega)
  next => rfl

/-- A response has the type of a success, so it is no request. -/
theorem not_isBindingRequest_success (transaction : Bytes) (as : List Attribute) (trailing : Bytes) :
    ¬ IsBindingRequest (success transaction as ++ trailing) := fun request => by
  have first : (success transaction as ++ trailing)[0]? = some 0x01 := rfl
  exact absurd (first.symm.trans request.type.1) (by decide)

/-! ### Reading by place -/

/-- The byte at a place; a place beyond the end is an error. -/
def byteAt (m : Bytes) (i : Nat) : Except Nat UInt8 :=
  match m[i]? with
  | some b => .ok b
  | none => .error i

/-- So many bytes from a place on. -/
def bytesAt (m : Bytes) (start count : Nat) : Except Nat Bytes := (List.range' start count).mapM (byteAt m)

/-- The length of the first message, read by places. -/
def frameLengthByPlace (m : Bytes) : Except Nat (Option Nat) :=
  if m.length < headerLength then .ok none
  else do
    let total := headerLength + value16 (← byteAt m 2) (← byteAt m 3)
    .ok (if total ≤ m.length then some total else none)

/-- The answer to a message from an endpoint, read by places. -/
def respondByPlace (m : Bytes) (source : Endpoint) : Except Nat (Option Bytes) := do
  match ← frameLengthByPlace m with
  | none => .ok none
  | some length =>
    if (← bytesAt m 0 2) == requestType && (← bytesAt m 4 4) == cookie && length % 4 == 0 then
      let transaction ← bytesAt m 8 12
      .ok (some (success transaction [maskedAttribute source transaction, plainAttribute source]))
    else .ok none

theorem byteAt_eq {m : Bytes} {i : Nat} (inside : i < m.length) : byteAt m i = .ok (m.getD i 0) := by
  rw [byteAt, List.getElem?_eq_getElem inside, List.getD_eq_getElem _ _ inside]

theorem bytesAt_eq {m : Bytes} : ∀ {count start : Nat}, start + count ≤ m.length →
    bytesAt m start count = .ok ((m.drop start).take count)
  | 0, _, _ => rfl
  | count + 1, start, inside => by
    have here : start < m.length := by omega
    have rest : bytesAt m (start + 1) count = .ok ((m.drop (start + 1)).take count) :=
      bytesAt_eq (by omega)
    rw [bytesAt] at rest
    rw [bytesAt, List.range'_succ, List.mapM_cons, rest, byteAt_eq here, List.drop_eq_getElem_cons here,
      List.take_succ_cons, List.getD_eq_getElem _ _ here]
    rfl

theorem frameLengthByPlace_eq (m : Bytes) : frameLengthByPlace m = .ok (frameLength? m) := by
  rw [frameLengthByPlace, frameLength?]
  split
  next => rfl
  next long =>
    rw [headerLength] at long
    rw [byteAt_eq (by omega), byteAt_eq (by omega)]
    rfl

/-- Every place that is read is there. -/
theorem respondByPlace_eq (m : Bytes) (source : Endpoint) :
    respondByPlace m source = .ok (respond m source) := by
  rw [respondByPlace, respond, frameLengthByPlace_eq]
  cases complete : frameLength? m with
  | none => rfl
  | some n =>
    obtain ⟨header, fits⟩ := headerLength_le_of_frameLength? complete
    rw [headerLength] at header
    -- every slice that is read lies within these twenty bytes
    have room : 20 ≤ m.length := Nat.le_trans header fits
    have type : bytesAt m 0 2 = .ok (messageType m) := bytesAt_eq (by omega)
    have magic : bytesAt m 4 4 = .ok (cookieOf m) := bytesAt_eq (by omega)
    have transaction : bytesAt m 8 12 = .ok (transactionOf m) := bytesAt_eq (by omega)
    rw [type, magic, transaction]
    change (if isRequest m n then _ else _) = _
    split
    next request =>
      rw [Option.bind_eq_bind, Option.bind_some, if_pos request]
      rfl
    next other =>
      rw [Option.bind_eq_bind, Option.bind_some, if_neg other]

/-! ### What is answered -/

/-- Just the requests are answered. The answer depends on the transaction id and the source alone, and
neither on the attributes nor on what stands behind the message. Reading by places never goes beyond the
end, and gives the same answer. No answer is answered itself, whatever stands behind it. -/
theorem respond_decides (m : Bytes) (source : Endpoint) :
    ((respond m source).isSome = true ↔ IsBindingRequest m) ∧
    (∀ m', IsBindingRequest m → IsBindingRequest m' → (∀ i, 8 ≤ i → i < 20 → m[i]? = m'[i]?) →
      respond m source = respond m' source) ∧
    respondByPlace m source = .ok (respond m source) ∧
    ∀ r, respond m source = some r → ∀ trailing other, respond (r ++ trailing) other = none := by
  refine ⟨isSome_respond_iff, fun m' request request' same =>
    respond_congr request request' (transactionOf_congr same) source, respondByPlace_eq m source,
    fun r answer trailing other => ?_⟩
  obtain ⟨-, rfl⟩ := respond_eq_some_iff.1 answer
  rw [← Option.not_isSome_iff_eq_none, isSome_respond_iff]
  exact not_isBindingRequest_success _ _ trailing

/-- The software request is answered just as the bare request with its transaction id. Without its last
attribute byte it is not answered, and a request with two bytes behind the header is not either. -/
theorem respond_of_softwareRequest :
    IsBindingRequest softwareRequest ∧
    respond softwareRequest distantPeer =
      respond (requestType ++ [0, 0] ++ cookie ++ rising) distantPeer ∧
    respond (softwareRequest.take 27) distantPeer = none ∧
    respond (requestType ++ [0, 2] ++ cookie ++ rising ++ [0, 0]) distantPeer = none ∧
    ∀ r, respond softwareRequest distantPeer = some r →
      respond (r ++ softwareRequest) distantPeer = none := by
  have request : IsBindingRequest softwareRequest :=
    (respond_decides softwareRequest distantPeer).1.1 (by decide)
  have bare : IsBindingRequest (requestType ++ [0, 0] ++ cookie ++ rising) :=
    (respond_decides _ distantPeer).1.1 (by decide)
  have same : ∀ i < 20, 8 ≤ i →
      softwareRequest[i]? = (requestType ++ [0, 0] ++ cookie ++ rising)[i]? := by decide
  exact ⟨request, (respond_decides softwareRequest distantPeer).2.1 _ request bare fun i from8 below =>
    same i below from8, by decide, by decide, fun r answer =>
      (respond_decides softwareRequest distantPeer).2.2.2 r answer softwareRequest distantPeer⟩

end ServerTrials.Binding
