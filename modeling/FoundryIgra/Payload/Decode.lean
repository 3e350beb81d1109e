import FoundryIgra.Payload.Mining

/-!
# Reading payloads

The reader that the payload format is for: a header byte, the L2 data, and four bytes of a nonce. It
reads back what `build_payload_with_nonce` (`payload.rs`) has written, and reads nothing else; so a
payload determines the L2 data that it carries.

## Main definitions

* `PayloadParts`, `decodePayload`: the reader.

## Main results

* `decodePayload_eq_some_iff`: a payload reads as its parts exactly when it was built from them.
-/

namespace FoundryIgra

/-- What a payload is made of. -/
structure PayloadParts where
  header : UInt8
  l2data : List UInt8
  nonce : UInt32
  deriving DecidableEq

/-- The payload of its parts. -/
def PayloadParts.build (parts : PayloadParts) : List UInt8 :=
  buildPayloadWithNonce parts.header parts.l2data parts.nonce

/-- Reads a payload: the L2 data stands between the first byte and the last four. -/
def decodePayload : List UInt8 → Option PayloadParts
  | [] => none
  | header :: rest =>
    if rest.length < 4 then none
    else some
      { header := header
        l2data := rest.take (rest.length - 4)
        nonce := UInt32.ofNat (fromBeBytes (rest.drop (rest.length - 4))) }

theorem length_toBeBytes (n : UInt32) : (toBeBytes n).length = 4 := rfl

theorem ofNat_fromBeBytes_toBeBytes (n : UInt32) :
    UInt32.ofNat (fromBeBytes (toBeBytes n)) = n := by
  rw [fromBeBytes_toBeBytes, UInt32.ofNat_toNat]

/-- Four bytes are the bytes of the number that they spell. -/
theorem toBeBytes_ofNat_fromBeBytes {bytes : List UInt8} (h : bytes.length = 4) :
    toBeBytes (UInt32.ofNat (fromBeBytes bytes)) = bytes := by
  match bytes, h with
  | [a, b, c, d], _ =>
    have ha := a.toNat_lt
    have hb := b.toNat_lt
    have hc := c.toNat_lt
    have hd := d.toNat_lt
    have hbytes : ∀ n : UInt32, n.toNat = fromBeBytes [a, b, c, d] →
        toBeBytes n = [a, b, c, d] := fun n hn => by
      simp only [fromBeBytes, List.foldl_cons, List.foldl_nil] at hn
      simp only [toBeBytes, List.cons.injEq, ← UInt8.toNat_inj, UInt32.toNat_toUInt8,
        UInt32.toNat_shiftRight, UInt32.reduceToNat, Nat.shiftRight_eq_div_pow, Nat.reduceMod,
        Nat.reducePow, and_true]
      omega
    refine hbytes _ (UInt32.toNat_ofNat_of_lt' ?_)
    simp only [fromBeBytes, List.foldl_cons, List.foldl_nil, UInt32.size]
    omega

/-- What was built reads back. -/
theorem decodePayload_build (parts : PayloadParts) : decodePayload parts.build = some parts := by
  obtain ⟨header, l2data, nonce⟩ := parts
  rw [PayloadParts.build, buildPayloadWithNonce, decodePayload, if_neg]
  · rw [List.length_append, length_toBeBytes, Nat.add_sub_cancel, List.take_left, List.drop_left,
      ofNat_fromBeBytes_toBeBytes]
  · rw [List.length_append, length_toBeBytes]
    omega

/-- **Reading payloads.** A payload reads as its parts exactly when it was built from them. -/
theorem decodePayload_eq_some_iff {payload : List UInt8} {parts : PayloadParts} :
    decodePayload payload = some parts ↔ payload = parts.build := by
  constructor
  · intro h
    cases payload with
    | nil => cases h
    | cons header rest =>
      rw [decodePayload] at h
      split_ifs at h with hshort
      have hlast : (rest.drop (rest.length - 4)).length = 4 := by
        rw [List.length_drop]
        omega
      rw [← Option.some_inj.mp h, PayloadParts.build, buildPayloadWithNonce,
        toBeBytes_ofNat_fromBeBytes hlast, List.take_append_drop]
  · rintro rfl
    exact decodePayload_build parts

end FoundryIgra
