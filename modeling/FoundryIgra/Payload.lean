import FoundryIgra.Rust.Text

/-!
# Payloads

The part of `payload.rs` that the submit path runs before it mines: the normal form of the
transaction-id prefix and the L2 data of a raw transaction.

## Main definitions

* `normalizeHexPrefix`, `buildIgraL2data`.

## Main results

* `normalizeHexPrefix_of_hexdigits`: on a text whose trimmed form is hexadecimal, the normal form is
  the trimmed text in lower case.
-/

namespace FoundryIgra

open Rust

/-- Default mining timeout in seconds. -/
def defaultMiningTimeoutSecs : UInt64 := 120

/-- Maximum L2Data payload size in bytes. -/
def igraMaxL2dataBytes : ℕ := 24800

/-- Error code returned when payload prefix mining times out. -/
def igraMiningTimeoutErrorCode : String := "IGRA_MINING_001"

/-- Error code returned when the embedded L2 transaction exceeds the payload size limit. -/
def igraL2dataTooLargeErrorCode : String := "IGRA_PAYLOAD_001"

/-- `normalize_hex_prefix`: strips `0x`, lowercases, and trims whitespace. -/
def normalizeHexPrefix (hexPrefix : String) : String :=
  toAsciiLowercase (trimStart0x (trim hexPrefix))

/-- `build_igra_l2data`: the header byte, version 9 and transaction type 4, and the bytes. -/
def buildIgraL2data (rawTx : List UInt8) (payloadCompression : Option String) :
    Except String (UInt8 × List UInt8) :=
  let mode := toAsciiLowercase (trim (payloadCompression.getD "none"))
  if mode = "" ∨ mode = "none" then .ok (0x94, rawTx)
  else if mode = "zlib" then
    .error "IGRA config error: `payload_compression=zlib` is not implemented; use `none`"
  else .error "IGRA config error: `payload_compression` is invalid (supported: none)"

/-- The L2 data is the raw transaction. -/
theorem l2data_of_buildIgraL2data {rawTx l2data : List UInt8} {payloadCompression : Option String}
    {header : UInt8} (h : buildIgraL2data rawTx payloadCompression = .ok (header, l2data)) :
    l2data = rawTx := by
  rw [buildIgraL2data] at h
  split_ifs at h
  exact (Prod.mk.inj (Except.ok.inj h)).2.symm

/-- Where the trimmed prefix is hexadecimal, normalizing only lowers it. -/
theorem toList_normalizeHexPrefix {p : String}
    (h : ∀ c ∈ trimChars p.toList, isAsciiHexdigit c = true) :
    (normalizeHexPrefix p).toList = (trimChars p.toList).map Char.toLower := by
  rw [normalizeHexPrefix, toList_toAsciiLowercase, toList_trimStart0x, toList_trim,
    trimStart0xChars_eq_self h]

/-- Normalizing a second time changes nothing but the case. -/
theorem toList_normalizeHexPrefix_twice {p : String}
    (h : ∀ c ∈ trimChars p.toList, isAsciiHexdigit c = true) :
    (normalizeHexPrefix (normalizeHexPrefix p)).toList =
      ((trimChars p.toList).map Char.toLower).map Char.toLower := by
  have hlower : ∀ c ∈ (trimChars p.toList).map Char.toLower, isAsciiHexdigit c = true := by
    rintro c hc
    obtain ⟨d, hd, rfl⟩ := List.mem_map.mp hc
    exact (hexdigit_toLower (h d hd)).1
  have htrim : trimChars (normalizeHexPrefix p).toList = (trimChars p.toList).map Char.toLower := by
    rw [toList_normalizeHexPrefix h, trimChars_eq_self hlower]
  rw [toList_normalizeHexPrefix (htrim ▸ hlower), htrim]

end FoundryIgra
