import FoundryIgra.Store.ProfileIsolation

/-!
# When a reopen wipes the cache

A reconciliation compares fingerprints, which hash the text `url|chain|network`. The URL and the
network are arbitrary and may hold the separator, so different pairs can have one text. They then
have different sanitized networks, which are compared as well: in two splits of one text the
longer network is text ending in `|` followed by the shorter one, and so its sanitized name is
longer, or has a `-` where the other is the fallback (`sanitizeComponent_append_ne`).

## Main definitions

* `endpointIdentity`: what identifies an endpoint of a config.
* `ProfileDiffers`: two configs describe different profiles.

## Main results

* `fingerprint_eq_iff`: fingerprints under one chain id and sanitized network compare identities.
* `reconcileProfileCache_wipes_iff`: a reopen wipes the cached rows when the config describes
  another profile, and only then.
-/

namespace FoundryIgra.Store

open Relational Rust

/-! ### Identities -/

/-- The chain id that a config stands for. -/
def IgraStoreConfig.chainId (config : IgraStoreConfig) : UInt64 := config.expectedElChainId.getD 0

/-- The sanitized network of a config. -/
def IgraStoreConfig.networkName (config : IgraStoreConfig) : String :=
  sanitizeComponent (config.kaspaNetwork.getD "unknown") "unknown"

/-- The identity of an endpoint: none for a missing or blank URL, otherwise the trimmed URL with
the network as the config has it. -/
def endpointIdentity (url network : Option String) : Option (String × String) := do
  let url := trim (← url)
  if url = "" then none else some (url, network.getD "unknown")

/-- Two configs describe different profiles. -/
def ProfileDiffers (c₁ c₂ : IgraStoreConfig) : Prop :=
  c₁.chainId ≠ c₂.chainId ∨ c₁.networkName ≠ c₂.networkName ∨
    endpointIdentity c₁.elRpcUrl c₁.kaspaNetwork ≠ endpointIdentity c₂.elRpcUrl c₂.kaspaNetwork ∨
    endpointIdentity c₁.kaspaRpcUrl c₁.kaspaNetwork ≠
      endpointIdentity c₂.kaspaRpcUrl c₂.kaspaNetwork

theorem network_of_endpointIdentity {url network : Option String} {u n : String}
    (h : endpointIdentity url network = some (u, n)) : n = network.getD "unknown" := by
  cases url with
  | none => cases h
  | some url =>
    simp only [endpointIdentity, Option.bind_eq_bind, Option.bind_some] at h
    split_ifs at h
    exact (Prod.mk.inj (Option.some_inj.mp h)).2.symm

/-! ### Sanitized networks -/

theorem toList_sanitizeComponent (value fallback : String) :
    (sanitizeComponent value fallback).toList =
      if trimChars value.toList = [] then fallback.toList
      else (trimChars value.toList).map fun c => if isComponentChar c then c else '-' := by
  rw [sanitizeComponent]
  simp only [← String.toList_inj, toList_trim, String.toList_ofList, List.map_eq_nil_iff,
    String.toList_empty]
  split_ifs
  · rfl
  · exact String.toList_ofList

/-- A network that follows a `|` in another has another sanitized name. -/
theorem sanitizeComponent_append_ne {n n' : String} {b : List Char}
    (h : n'.toList = b ++ '|' :: n.toList) :
    sanitizeComponent n "unknown" ≠ sanitizeComponent n' "unknown" := by
  intro heq
  have hlt : (trimChars n.toList).length < (trimChars n'.toList).length :=
    h ▸ length_trimChars_lt (by decide) b n.toList
  have hne : trimChars n'.toList ≠ [] := List.ne_nil_of_length_pos (Nat.zero_lt_of_lt hlt)
  have hchars := congrArg String.toList heq
  rw [toList_sanitizeComponent, toList_sanitizeComponent, if_neg hne] at hchars
  split_ifs at hchars with hblank
  · -- the separator became a `-`, which the fallback does not have
    have hbar : '|' ∈ trimChars n'.toList := mem_trimChars (by simp [h]) (by decide)
    have hdash : '-' ∈ "unknown".toList := by
      rw [hchars]
      exact List.mem_map.mpr ⟨'|', hbar, by decide⟩
    exact absurd hdash (by decide)
  · have hlen := congrArg List.length hchars
    rw [List.length_map, List.length_map] at hlen
    omega

/-! ### Fingerprints -/

/-- The text that is hashed for an endpoint. -/
def fingerprintText (chainId : UInt64) (e : String × String) : String :=
  e.1 ++ "|" ++ toString chainId ++ "|" ++ e.2

theorem fingerprint_eq_map (keccak256 : List UInt8 → List UInt8) (url : Option String)
    (chainId : UInt64) (network : Option String) :
    fingerprint keccak256 url chainId network = (endpointIdentity url network).map fun e =>
      "0x" ++ hexEncode (keccak256 (utf8 (fingerprintText chainId e))) := by
  cases url with
  | none => rfl
  | some url =>
    simp only [fingerprint, endpointIdentity, Option.bind_eq_bind, Option.bind_some]
    split_ifs
    · rfl
    · rfl

/-- Under one sanitized network the text determines the URL and the network. -/
theorem fingerprintText_inj {chainId : UInt64} {e e' : String × String}
    (hname : sanitizeComponent e.2 "unknown" = sanitizeComponent e'.2 "unknown")
    (h : fingerprintText chainId e = fingerprintText chainId e') : e = e' := by
  have hchars := congrArg String.toList h
  simp only [fingerprintText, String.toList_append] at hchars
  have hsplit : e.1.toList ++ ('|' :: (toString chainId).toList) ++ '|' :: e.2.toList =
      e'.1.toList ++ ('|' :: (toString chainId).toList) ++ '|' :: e'.2.toList := by
    simpa using hchars
  rcases append_separator_cases hsplit with ⟨hu, hn⟩ | ⟨b, hb⟩ | ⟨b, hb⟩
  · exact Prod.ext (String.toList_inj.mp hu) (String.toList_inj.mp hn)
  · exact absurd hname.symm (sanitizeComponent_append_ne hb)
  · exact absurd hname (sanitizeComponent_append_ne hb)

/-- **Fingerprints compare identities.** Under one chain id and one sanitized network, two
fingerprints are the same when the identities of the endpoints are. -/
theorem fingerprint_eq_iff {keccak256 : List UInt8 → List UInt8}
    (hinj : Function.Injective keccak256) {url url' network network' : Option String}
    {chainId : UInt64}
    (hname : sanitizeComponent (network.getD "unknown") "unknown" =
      sanitizeComponent (network'.getD "unknown") "unknown") :
    fingerprint keccak256 url chainId network = fingerprint keccak256 url' chainId network' ↔
      endpointIdentity url network = endpointIdentity url' network' := by
  rw [fingerprint_eq_map, fingerprint_eq_map]
  constructor
  · intro h
    cases he : endpointIdentity url network with
    | none =>
      rw [he, Option.map_none] at h
      exact (Option.map_eq_none_iff.mp h.symm).symm
    | some e =>
      rw [he, Option.map_some] at h
      obtain ⟨e', he', hfp⟩ := Option.map_eq_some_iff.mp h.symm
      have htext : fingerprintText chainId e' = fingerprintText chainId e :=
        utf8_inj (hinj (hexEncode_inj (String.append_right_inj _ |>.mp hfp)))
      have hname' : sanitizeComponent e'.2 "unknown" = sanitizeComponent e.2 "unknown" := by
        rw [network_of_endpointIdentity he, network_of_endpointIdentity he']
        exact hname.symm
      rw [he', fingerprintText_inj hname' htext]
  · intro h
    rw [h]

/-- Two configs have one profile when they do not describe different ones. -/
theorem profile_fromConfig_eq_iff {keccak256 : List UInt8 → List UInt8}
    (hinj : Function.Injective keccak256) (env env' : Environment) (c₁ c₂ : IgraStoreConfig) :
    (IgraStore.fromConfig keccak256 env c₁).profile =
      (IgraStore.fromConfig keccak256 env' c₂).profile ↔ ¬ProfileDiffers c₁ c₂ := by
  simp only [ProfileDiffers, not_or, ne_eq, not_not, Profile.ext_iff, IgraStore.profile,
    IgraStore.fromConfig, IgraStoreConfig.chainId, IgraStoreConfig.networkName]
  refine and_congr_right fun hchain => and_congr_right fun hname => ?_
  rw [hchain, fingerprint_eq_iff hinj hname, fingerprint_eq_iff hinj hname]

/-! ### Reopening -/

/-- The profile of the last read-write open is the recorded one. -/
theorem History.records {ms : List Moment} {db : Db} (h : History ms db) {p : Profile}
    (hp : current ms = some p) : db.Records p := by
  induction h with
  | nil => cases hp
  | step h s hs ih =>
    cases s with
    | migrate =>
      obtain rfl := Option.some_inj.mp hs
      exact records_migrate (ih hp)
    | reconcile store =>
      obtain rfl := Option.some_inj.mp hs
      obtain rfl : store.profile = p := Option.some_inj.mp hp
      exact records_reconcile store _
    | commit store op => exact (ih hp).congr (StoreOp.commit_writes hs).1

/-- **A reopen wipes the cache when the profile changed, and only then.** The file was last opened
read-write for the config `c₁`, with any operations of any stores since, and is now reconciled
with a store of `c₂`. -/
theorem reconcileProfileCache_wipes_iff {keccak256 : List UInt8 → List UInt8}
    (hinj : Function.Injective keccak256) {env : Environment} {c₁ : IgraStoreConfig}
    {ms : List Moment} {db : Db} (h : History ms db)
    (hlast : current ms = some (IgraStore.fromConfig keccak256 env c₁).profile)
    (env' : Environment) (c₂ : IgraStoreConfig) :
    let store := IgraStore.fromConfig keccak256 env' c₂
    let db' := reconcileProfileCache store db
    (ProfileDiffers c₁ c₂ → db'.txMap = .empty ∧ db'.senderNonceState = .empty ∧
        db'.senderLocks = .empty) ∧
      (¬ProfileDiffers c₁ c₂ → db'.txMap = db.txMap ∧
        db'.senderNonceState = db.senderNonceState ∧ db'.senderLocks = db.senderLocks) ∧
      db'.Records store.profile := by
  intro store db'
  have hchanged : profileChanged store db = false ↔ ¬ProfileDiffers c₁ c₂ :=
    (profileChanged_eq_false_iff (h.records hlast)).trans
      (profile_fromConfig_eq_iff hinj env env' c₁ c₂)
  obtain ⟨htx, hnonce, hlocks⟩ := reconcileProfileCache_tables store db
  refine ⟨fun hdiff => ?_, fun hsame => ?_, records_reconcile store db⟩
  · have hch : profileChanged store db = true := by
      by_contra hch
      exact hchanged.mp (by simpa using hch) hdiff
    rw [hch] at htx hnonce hlocks
    exact ⟨htx, hnonce, hlocks⟩
  · rw [hchanged.mpr hsame] at htx hnonce hlocks
    exact ⟨htx, hnonce, hlocks⟩

/-- An injective hash function with the digest of `localEndpointDigest`. -/
def localEndpointHash (bytes : List UInt8) : List UInt8 :=
  if bytes = utf8 "http://127.0.0.1:8545|1337|testnet-10" then localEndpointDigest bytes
  else 0 :: bytes

theorem localEndpointHash_injective : Function.Injective localEndpointHash := by
  have hdigest : localEndpointDigest (utf8 "http://127.0.0.1:8545|1337|testnet-10") =
      0x2b :: (localEndpointDigest (utf8 "http://127.0.0.1:8545|1337|testnet-10")).tail := by
    decide +kernel
  intro a b h
  rw [localEndpointHash, localEndpointHash] at h
  split_ifs at h with ha hb hb
  · exact ha.trans hb.symm
  · rw [ha, hdigest] at h
    exact absurd (List.cons.inj h).1 (by decide)
  · rw [hb, hdigest] at h
    exact absurd (List.cons.inj h).1 (by decide)
  · exact (List.cons.inj h).2

/-- Reopening with blanks around the URL keeps the lock that was taken. -/
theorem reconcileProfileCache_keeps_trimmed :
    ∃ ms db, History ms db ∧ lockHolder db "0x1111" = some ("owner-a", 120000) ∧
      lockHolder (reconcileProfileCache (IgraStore.fromConfig localEndpointHash bareEnvironment
        (sharedConfig (some " http://127.0.0.1:8545\n"))) db) "0x1111" =
          some ("owner-a", 120000) := by
  have h : History _ _ :=
    .step (.step .nil (.reconcile (IgraStore.fromConfig localEndpointHash bareEnvironment
      (sharedConfig (some "http://127.0.0.1:8545")))) rfl)
      (.commit sharedStore (.acquire "0x1111" "owner-a" 0) ) rfl
  have hkeep := (reconcileProfileCache_wipes_iff localEndpointHash_injective h rfl bareEnvironment
    (sharedConfig (some " http://127.0.0.1:8545\n"))).2.1 (by
      simp only [ProfileDiffers, not_or, not_not, ne_eq]
      decide +kernel)
  refine ⟨_, _, h, by decide +kernel, ?_⟩
  rw [lockHolder_congr hkeep.2.2]
  decide +kernel

end FoundryIgra.Store
