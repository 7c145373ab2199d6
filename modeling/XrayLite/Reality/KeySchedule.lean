import XrayLite.Lib.Hkdf
import XrayLite.Reality.Handshake

/-! The TLS 1.3 key schedule of `crypto.rs`.

`perform` derives its handshake keys from the X25519 secret and the hash of the
ClientHello and ServerHello, its application keys from the handshake secret
and the hash of the whole flight, and its Finished from the server's handshake
traffic secret. The traffic secrets come from `ring`'s HKDF (`expand_label`),
and the write keys, IVs and finished key from a one-block HKDF-Expand of the
code's own (`expand_label_raw`, `manual_hkdf_expand`).

`ring` is another crate: its HKDF is a field of `CryptoPrimitives`, and that it
is RFC 5869's (`Hkdf`) over the same HMAC is the hypothesis `Rfc5869`. The last
section states the key schedule of RFC 8446 (§7.1, §7.3 and §4.4.4) over
`Hkdf`, and proves that the code computes it and never fails.
-/

set_option autoImplicit false

namespace XrayLite.Reality

/-- What the key schedule calls in `ring`; a `Prk` is the bytes of the key it holds. -/
structure CryptoPrimitives where
  /-- `hmac::sign` with an `HMAC_SHA256` key. -/
  hmacSha256 : List UInt8 → List UInt8 → Octets 32
  /-- `Salt::new(HKDF_SHA256, salt).extract(ikm)`. -/
  hkdfExtract : List UInt8 → List UInt8 → List UInt8
  /-- `prk.expand(info, len)` and `okm.fill`: `none` where `expand` refuses. -/
  hkdfExpand : List UInt8 → List UInt8 → Nat → Option (List UInt8)
  /-- `LessSafeKey::new` of an `AES_128_GCM` key. -/
  aes128Gcm : Octets 16 → Aead

/-- `ring`'s `HKDF_SHA256` is HKDF over its `HMAC_SHA256`. -/
structure CryptoPrimitives.Rfc5869 (primitives : CryptoPrimitives) : Prop where
  extract_eq : ∀ salt ikm, primitives.hkdfExtract salt ikm = (Hkdf.extract primitives.hmacSha256 salt ikm).toList
  expand_eq : ∀ prk info len, primitives.hkdfExpand prk info len = Hkdf.expand primitives.hmacSha256 prk info len

/-- The key schedule's errors. `okm.fill` cannot fail: `out` has the `len`
bytes the output was asked for. -/
inductive CryptoError where
  -- "HKDF expand failed"
  | hkdfExpand
  -- "Manual HKDF-Expand limit: 32 bytes"
  | manualLimit
  -- "Failed to create unbound key"
  | unboundKey
  deriving DecidableEq, Repr

def tls13LabelPrefix : List UInt8 := Utf8.encode "tls13 "

/-- The `info` that `expand_label` and `expand_label_raw` build alike: the
`HkdfLabel` of RFC 8446 §7.1, with `len as u16` and `full_label.len() as u8`. -/
def hkdfLabel (label context : List UInt8) (len : Nat) : List UInt8 :=
  let fullLabel := tls13LabelPrefix ++ label
  BigEndian.bytes 2 (len % 65536) ++ [UInt8.ofNat fullLabel.length] ++ fullLabel ++
    [UInt8.ofNat context.length] ++ context

def hashEmpty : List UInt8 :=
  [0xe3, 0xb0, 0xc4, 0x42, 0x98, 0xfc, 0x1c, 0x14, 0x9a, 0xfb, 0xf4, 0xc8, 0x99, 0x6f, 0xb9,
   0x24, 0x27, 0xae, 0x41, 0xe4, 0x64, 0x9b, 0x93, 0x4c, 0xa4, 0x95, 0x99, 0x1b, 0x78, 0x52,
   0xb8, 0x55]

abbrev Derivation := ExceptT CryptoError (Except Panic)

section Code

variable (primitives : CryptoPrimitives)

def expandLabel (prk label context : List UInt8) (len : Nat) : Derivation (List UInt8) :=
  match primitives.hkdfExpand prk (hkdfLabel label context len) len with
  | none => throw .hkdfExpand
  | some okm => pure okm

/-- `manual_hkdf_expand`: the first block `HMAC(secret, info ‖ 0x01)`, cut to
`len` bytes. -/
def manualHkdfExpand (secret info : List UInt8) (len : Nat) : Derivation (List UInt8) := do
  if len > 32 then throw .manualLimit
  let tag := primitives.hmacSha256 secret (info ++ [0x01])
  -- `tag.as_ref()[..len]`
  ExceptT.lift (Slice.range tag.toList 0 len)

def expandLabelRaw (secret label context : List UInt8) (len : Nat) : Derivation (List UInt8) :=
  manualHkdfExpand primitives secret (hkdfLabel label context len) len

def deriveKeyIv (secret : List UInt8) : Derivation (Aead × Octets 12) := do
  let keyBytes ← expandLabelRaw primitives secret (Utf8.encode "key") [] 16
  -- `UnboundKey::new` takes only keys of the algorithm's 16 bytes
  let key ← if sized : keyBytes.length = 16 then pure (primitives.aes128Gcm ⟨keyBytes, sized⟩)
    else throw .unboundKey
  let ivBytes ← expandLabelRaw primitives secret (Utf8.encode "iv") [] 12
  let iv ← ExceptT.lift (Slice.copyFromSlice 12 ivBytes)
  pure (key, iv)

def TlsKeys.deriveHandshakeKeys (sharedSecret helloHash : List UInt8) : Derivation (TlsKeys × List UInt8) := do
  let earlySecret := primitives.hkdfExtract (List.replicate 32 0) (List.replicate 32 0)
  let derivedSecret ← expandLabel primitives earlySecret (Utf8.encode "derived") hashEmpty 32
  let handshakeSecret := primitives.hkdfExtract derivedSecret sharedSecret
  let clientHsSecret ← expandLabel primitives handshakeSecret (Utf8.encode "c hs traffic") helloHash 32
  let serverHsSecret ← expandLabel primitives handshakeSecret (Utf8.encode "s hs traffic") helloHash 32
  let clientKeys ← deriveKeyIv primitives clientHsSecret
  let serverKeys ← deriveKeyIv primitives serverHsSecret
  pure (⟨clientKeys.1, serverKeys.1, clientKeys.2, serverKeys.2, clientHsSecret, serverHsSecret⟩,
    handshakeSecret)

def TlsKeys.deriveApplicationKeys (handshakeSecret handshakeHash : List UInt8) : Derivation TlsKeys := do
  let derivedSecret ← expandLabel primitives handshakeSecret (Utf8.encode "derived") hashEmpty 32
  let masterSecret := primitives.hkdfExtract derivedSecret (List.replicate 32 0)
  let clientAppSecret ← expandLabel primitives masterSecret (Utf8.encode "c ap traffic") handshakeHash 32
  let serverAppSecret ← expandLabel primitives masterSecret (Utf8.encode "s ap traffic") handshakeHash 32
  let clientKeys ← deriveKeyIv primitives clientAppSecret
  let serverKeys ← deriveKeyIv primitives serverAppSecret
  pure ⟨clientKeys.1, serverKeys.1, clientKeys.2, serverKeys.2, clientAppSecret, serverAppSecret⟩

def TlsKeys.calculateVerifyData (trafficSecret handshakeHash : List UInt8) : Derivation (List UInt8) := do
  let finishedKey ← expandLabelRaw primitives trafficSecret (Utf8.encode "finished") [] 32
  pure (primitives.hmacSha256 finishedKey handshakeHash).toList

end Code

section Expansion

variable {primitives : CryptoPrimitives}

theorem lift_ok {α : Type} (x : α) : (ExceptT.lift (.ok x : Except Panic α) : Derivation α) = pure x := rfl

theorem expandLabel_of_le (rfc : primitives.Rfc5869) (prk label context : List UInt8) {len : Nat}
    (within : len ≤ 255 * 32) :
    expandLabel primitives prk label context len =
      pure (Hkdf.okm primitives.hmacSha256 prk (hkdfLabel label context len) len) := by
  rw [expandLabel, rfc.expand_eq, Hkdf.expand_of_le prk _ within]

theorem manualHkdfExpand_of_le (secret info : List UInt8) {len : Nat} (short : len ≤ 32) :
    manualHkdfExpand primitives secret info len = pure (Hkdf.okm primitives.hmacSha256 secret info len) := by
  have inside : len ≤ (primitives.hmacSha256 secret (info ++ [0x01])).toList.length := by simpa using short
  simp only [manualHkdfExpand, gt_iff_lt, Nat.not_lt.mpr short, if_false, Slice.range_zero_of_le inside,
    Hkdf.okm_of_le secret info short]
  rfl

theorem expandLabelRaw_of_le (secret label context : List UInt8) {len : Nat} (short : len ≤ 32) :
    expandLabelRaw primitives secret label context len =
      pure (Hkdf.okm primitives.hmacSha256 secret (hkdfLabel label context len) len) :=
  manualHkdfExpand_of_le secret _ short

end Expansion

/-! ## The key schedule of RFC 8446 -/

section Rfc8446

variable (primitives : CryptoPrimitives)

def expandLabelSpec (secret label context : List UInt8) (length : Nat) : List UInt8 :=
  Hkdf.okm primitives.hmacSha256 secret (hkdfLabel label context length) length

def trafficKey (secret : List UInt8) : Aead :=
  primitives.aes128Gcm (Octets.ofList 16 (expandLabelSpec primitives secret (Utf8.encode "key") [] 16))

def trafficIv (secret : List UInt8) : Octets 12 :=
  Octets.ofList 12 (expandLabelSpec primitives secret (Utf8.encode "iv") [] 12)

def trafficKeys (client server : List UInt8) : TlsKeys :=
  ⟨trafficKey primitives client, trafficKey primitives server, trafficIv primitives client,
    trafficIv primitives server, client, server⟩

/-- The Handshake Secret without a PSK (§7.1): the early secret is HKDF-Extract
of zeros under zeros, and `Derive-Secret(., "derived", "")` hashes no messages. -/
def handshakeSecretSpec (hash : List UInt8 → List UInt8) (sharedSecret : List UInt8) : List UInt8 :=
  let earlySecret := (Hkdf.extract primitives.hmacSha256 (List.replicate 32 0) (List.replicate 32 0)).toList
  let derived := expandLabelSpec primitives earlySecret (Utf8.encode "derived") (hash []) 32
  (Hkdf.extract primitives.hmacSha256 derived sharedSecret).toList

def handshakeKeysSpec (hash : List UInt8 → List UInt8) (sharedSecret helloHash : List UInt8) : TlsKeys :=
  let secret := handshakeSecretSpec primitives hash sharedSecret
  trafficKeys primitives (expandLabelSpec primitives secret (Utf8.encode "c hs traffic") helloHash 32)
    (expandLabelSpec primitives secret (Utf8.encode "s hs traffic") helloHash 32)

/-- The application traffic keys: the Master Secret is HKDF-Extract of zeros
under `Derive-Secret(handshake secret, "derived", "")`. -/
def applicationKeysSpec (hash : List UInt8 → List UInt8) (handshakeSecret handshakeHash : List UInt8) : TlsKeys :=
  let derived := expandLabelSpec primitives handshakeSecret (Utf8.encode "derived") (hash []) 32
  let masterSecret := (Hkdf.extract primitives.hmacSha256 derived (List.replicate 32 0)).toList
  trafficKeys primitives (expandLabelSpec primitives masterSecret (Utf8.encode "c ap traffic") handshakeHash 32)
    (expandLabelSpec primitives masterSecret (Utf8.encode "s ap traffic") handshakeHash 32)

def verifyDataSpec (baseKey handshakeHash : List UInt8) : List UInt8 :=
  (primitives.hmacSha256 (expandLabelSpec primitives baseKey (Utf8.encode "finished") [] 32) handshakeHash).toList

end Rfc8446

section Refinement

variable {primitives : CryptoPrimitives} (hash : List UInt8 → List UInt8)

theorem deriveKeyIv_eq (secret : List UInt8) :
    deriveKeyIv primitives secret = pure (trafficKey primitives secret, trafficIv primitives secret) := by
  have keySized := @Hkdf.length_okm_of_le 32 primitives.hmacSha256 secret
    (hkdfLabel (Utf8.encode "key") [] 16) 16 (by omega)
  have ivSized := @Hkdf.length_okm_of_le 32 primitives.hmacSha256 secret
    (hkdfLabel (Utf8.encode "iv") [] 12) 12 (by omega)
  simp only [deriveKeyIv, expandLabelRaw_of_le _ _ _ (by omega : 16 ≤ 32),
    expandLabelRaw_of_le _ _ _ (by omega : 12 ≤ 32), pure_bind, dif_pos keySized,
    Slice.copyFromSlice_of_length ivSized, lift_ok]
  simp [trafficKey, trafficIv, expandLabelSpec, Octets.ofList, keySized, ivSized]

theorem deriveHandshakeKeys_eq (rfc : primitives.Rfc5869) (empty : hash [] = hashEmpty)
    (sharedSecret helloHash : List UInt8) :
    TlsKeys.deriveHandshakeKeys primitives sharedSecret helloHash =
      pure (handshakeKeysSpec primitives hash sharedSecret helloHash, handshakeSecretSpec primitives hash sharedSecret) := by
  simp only [TlsKeys.deriveHandshakeKeys, rfc.extract_eq, expandLabel_of_le rfc _ _ _ (by omega : 32 ≤ 255 * 32),
    deriveKeyIv_eq, pure_bind, handshakeKeysSpec, handshakeSecretSpec, trafficKeys, expandLabelSpec, empty]

theorem deriveApplicationKeys_eq (rfc : primitives.Rfc5869) (empty : hash [] = hashEmpty)
    (handshakeSecret handshakeHash : List UInt8) :
    TlsKeys.deriveApplicationKeys primitives handshakeSecret handshakeHash =
      pure (applicationKeysSpec primitives hash handshakeSecret handshakeHash) := by
  simp only [TlsKeys.deriveApplicationKeys, rfc.extract_eq, expandLabel_of_le rfc _ _ _ (by omega : 32 ≤ 255 * 32),
    deriveKeyIv_eq, pure_bind, applicationKeysSpec, trafficKeys, expandLabelSpec, empty]

theorem calculateVerifyData_eq (trafficSecret handshakeHash : List UInt8) :
    TlsKeys.calculateVerifyData primitives trafficSecret handshakeHash =
      pure (verifyDataSpec primitives trafficSecret handshakeHash) := by
  simp only [TlsKeys.calculateVerifyData, expandLabelRaw_of_le _ _ _ (by omega : 32 ≤ 32), pure_bind,
    verifyDataSpec, expandLabelSpec]

/-- The key schedule of `perform` is that of RFC 8446, wherever `ring`'s HKDF is
RFC 5869's and SHA-256 of no bytes is `hash_empty`, and none of its errors or
panics can happen. -/
theorem keySchedule_eq_rfc8446 (primitives : CryptoPrimitives) (rfc : primitives.Rfc5869) (empty : hash [] = hashEmpty)
    (sharedSecret helloHash handshakeSecret handshakeHash trafficSecret : List UInt8) :
    TlsKeys.deriveHandshakeKeys primitives sharedSecret helloHash =
        pure (handshakeKeysSpec primitives hash sharedSecret helloHash, handshakeSecretSpec primitives hash sharedSecret) ∧
      TlsKeys.deriveApplicationKeys primitives handshakeSecret handshakeHash =
        pure (applicationKeysSpec primitives hash handshakeSecret handshakeHash) ∧
      TlsKeys.calculateVerifyData primitives trafficSecret handshakeHash =
        pure (verifyDataSpec primitives trafficSecret handshakeHash) :=
  ⟨deriveHandshakeKeys_eq hash rfc empty sharedSecret helloHash,
    deriveApplicationKeys_eq hash rfc empty handshakeSecret handshakeHash,
    calculateVerifyData_eq trafficSecret handshakeHash⟩

def CryptoPrimitives.clear : CryptoPrimitives :=
  ⟨AuthPrimitives.clear.hmacSha256, fun salt ikm => (Hkdf.extract AuthPrimitives.clear.hmacSha256 salt ikm).toList,
    Hkdf.expand AuthPrimitives.clear.hmacSha256, fun _ => Aead.clear⟩

theorem keySchedule_eq_rfc8446_clear :
    CryptoPrimitives.clear.Rfc5869 ∧ (fun _ => hashEmpty : List UInt8 → List UInt8) [] = hashEmpty ∧
      (TlsKeys.deriveHandshakeKeys CryptoPrimitives.clear [] [] =
          pure (handshakeKeysSpec CryptoPrimitives.clear (fun _ => hashEmpty) [] [],
            handshakeSecretSpec CryptoPrimitives.clear (fun _ => hashEmpty) []) ∧
        TlsKeys.deriveApplicationKeys CryptoPrimitives.clear [] [] =
          pure (applicationKeysSpec CryptoPrimitives.clear (fun _ => hashEmpty) [] []) ∧
        TlsKeys.calculateVerifyData CryptoPrimitives.clear [] [] =
          pure (verifyDataSpec CryptoPrimitives.clear [] [])) :=
  ⟨⟨fun _ _ => rfl, fun _ _ _ => rfl⟩, rfl,
    keySchedule_eq_rfc8446 (fun _ => hashEmpty) CryptoPrimitives.clear ⟨fun _ _ => rfl, fun _ _ _ => rfl⟩ rfl
      [] [] [] [] []⟩

end Refinement

end XrayLite.Reality
