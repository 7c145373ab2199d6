import XrayLite.Lib.Hex

/-! The Reality server of `src/transport/reality/server_rustls.rs`: building it
(`RealityServerRustls::new`, with the vendored `rustls::reality::RealityConfig`)
and the client check `verify_client_reality`.

X25519, HKDF-SHA256, AES-256-GCM and the `hex` crate are other crates'
code; they are the fields of `Primitives`, and nothing is assumed of them.
-/

set_option autoImplicit false

namespace XrayLite.Reality

/-- `rustls::reality::RealityConfig`, as the vendored fork defines it. -/
structure RealityConfig where
  privateKey : List UInt8
  verifyClient : Bool
  dest : Option String
  shortIds : List (List UInt8)
  deriving DecidableEq, Repr

def RealityConfig.new (privateKey : List UInt8) : RealityConfig :=
  ⟨privateKey, true, none, []⟩

def RealityConfig.withVerifyClient (config : RealityConfig) (verify : Bool) : RealityConfig :=
  { config with verifyClient := verify }

def RealityConfig.withDest (config : RealityConfig) (dest : String) : RealityConfig :=
  { config with dest := some dest }

def RealityConfig.withShortIds (config : RealityConfig) (shortIds : List (List UInt8)) : RealityConfig :=
  { config with shortIds := shortIds }

-- `rustls::Error::General`
inductive ConfigError where
  | general (message : String)
  deriving DecidableEq, Repr

def RealityConfig.validate (config : RealityConfig) : Except ConfigError Unit :=
  if config.privateKey.length ≠ 32 then .error (.general "Reality private key must be 32 bytes")
  else .ok ()

/-- The functions of other crates that the Reality server calls. `ε` is the
error type of `hex::decode`. -/
structure Primitives (ε : Type) where
  hexDecode : String → Except ε (List UInt8)
  hexEncode : List UInt8 → String
  -- `StaticSecret::from(private).diffie_hellman(&PublicKey::from(public))`
  diffieHellman : List UInt8 → List UInt8 → List UInt8
  -- `Hkdf::<Sha256>::new(Some(salt), ikm).expand(b"REALITY", &mut [0u8; 32])`
  expandAuthKey : List UInt8 → List UInt8 → Option (List UInt8)
  -- `Aes256Gcm::new(key).decrypt_in_place(nonce, aad, buf)`
  decrypt : List UInt8 → List UInt8 → List UInt8 → List UInt8 → Option (List UInt8)

inductive ServerError (ε : Type) where
  | invalidShortIdHex (error : ε)
  | validationFailed (error : ConfigError)
  deriving DecidableEq, Repr

structure RealityServerRustls where
  realityConfig : RealityConfig
  serverNames : List String
  deriving DecidableEq, Repr

section Server

variable {ε : Type} (primitives : Primitives ε)

-- the `for id in short_ids` loop of `new`: the first id that is not hex ends it
def decodeShortIds : List String → Except (ServerError ε) (List (List UInt8))
  | [] => .ok []
  | id :: ids =>
    match primitives.hexDecode id with
    | .error error => .error (.invalidShortIdHex error)
    | .ok bytes => (decodeShortIds ids).map (bytes :: ·)

def RealityServerRustls.new (privateKey : List UInt8) (dest : Option String) (shortIds serverNames : List String) :
    Except (ServerError ε) RealityServerRustls := do
  let shortIdsBytes ← decodeShortIds primitives shortIds
  let realityConfig := ((RealityConfig.new privateKey).withVerifyClient true).withShortIds shortIdsBytes
    |>.withDest (dest.getD "www.microsoft.com:443")
  match realityConfig.validate with
  | .error error => .error (.validationFailed error)
  | .ok () => pure ⟨realityConfig, serverNames⟩

-- Each id decodes to a member of the list, and each member is some id's decoding.
theorem decodeShortIds_mem {ids : List String} {decoded : List (List UInt8)}
    (ok : decodeShortIds primitives ids = .ok decoded) :
    (∀ id ∈ ids, ∃ bytes ∈ decoded, primitives.hexDecode id = .ok bytes) ∧
      (∀ bytes ∈ decoded, ∃ id ∈ ids, primitives.hexDecode id = .ok bytes) := by
  induction ids generalizing decoded with
  | nil =>
    cases ok
    simp
  | cons id ids ih =>
    unfold decodeShortIds at ok
    split at ok
    case h_1 => cases ok
    case h_2 bytes decodedId =>
      cases rest : decodeShortIds primitives ids with
      | error error => rw [rest] at ok; cases ok
      | ok tail =>
        rw [rest] at ok
        cases ok
        obtain ⟨forward, backward⟩ := ih rest
        constructor
        case left =>
          intro id' member
          rcases List.mem_cons.mp member with rfl | member
          · exact ⟨bytes, List.mem_cons_self, decodedId⟩
          · obtain ⟨found, foundMember, foundHex⟩ := forward id' member
            exact ⟨found, List.mem_cons_of_mem _ foundMember, foundHex⟩
        case right =>
          intro bytes' member
          rcases List.mem_cons.mp member with rfl | member
          · exact ⟨id, List.mem_cons_self, decodedId⟩
          · obtain ⟨found, foundMember, foundHex⟩ := backward bytes' member
            exact ⟨found, List.mem_cons_of_mem _ foundMember, foundHex⟩

theorem RealityServerRustls.new_eq_ok {privateKey : List UInt8} {dest : Option String}
    {shortIds serverNames : List String} {server : RealityServerRustls}
    (built : RealityServerRustls.new primitives privateKey dest shortIds serverNames = .ok server) :
    decodeShortIds primitives shortIds = .ok server.realityConfig.shortIds ∧
      server.realityConfig.privateKey.length = 32 := by
  unfold RealityServerRustls.new at built
  cases decoded : decodeShortIds primitives shortIds with
  | error error =>
    rw [decoded] at built
    cases built
  | ok shortIdsBytes =>
    rw [decoded] at built
    simp only [bind, Except.bind] at built
    split at built
    case h_1 => cases built
    case h_2 valid =>
      cases built
      unfold RealityConfig.validate at valid
      split at valid
      case isTrue => cases valid
      case isFalse long =>
        simp only [ne_eq, Decidable.not_not] at long
        exact ⟨rfl, long⟩

end Server

structure ClientHelloInfo where
  sessionId : List UInt8
  clientRandom : Octets 32
  publicKey : Option (List UInt8)
  serverName : Option String
  deriving DecidableEq, Repr

-- The `for sid in short_ids` loop on the decrypted session id `buf`, which the
-- caller has checked to hold at least 16 bytes: `Vec == slice` compares lengths too.
def matchShortId (buf : List UInt8) : List (List UInt8) → Option Nat
  | [] => none
  | sid :: sids =>
    if sid = (buf.take 12).drop 4 then some 4
    else if sid = (buf.take 16).drop 8 then some 8
    else matchShortId buf sids

theorem matchShortId_isSome_iff (buf : List UInt8) (shortIds : List (List UInt8)) :
    (matchShortId buf shortIds).isSome ↔
      ∃ sid ∈ shortIds, sid = (buf.take 12).drop 4 ∨ sid = (buf.take 16).drop 8 := by
  induction shortIds with
  | nil => simp [matchShortId]
  | cons sid sids ih =>
    unfold matchShortId
    by_cases early : sid = (buf.take 12).drop 4
    case pos => simp [early]
    case neg =>
      by_cases late : sid = (buf.take 16).drop 8
      case pos =>
        simp only [if_neg early, if_pos late, Option.isSome_some, true_iff]
        exact ⟨sid, List.mem_cons_self, .inr late⟩
      case neg => simp [early, late, ih]

/-- A configured short id that decodes to the plaintext's bytes 8..16 or 4..12 is
accepted; whatever is accepted matches, at one of the two offsets, a configured
short id decoded and padded with zero bytes to 8. -/
theorem realityShortId_accepts {ε : Type} (primitives : Primitives ε) (privateKey : List UInt8)
    (dest : Option String) (shortIds serverNames : List String) (server : RealityServerRustls)
    (built : RealityServerRustls.new primitives privateKey dest shortIds serverNames = .ok server)
    (p : List UInt8) (sixteen : p.length = 16) :
    ((∃ id ∈ shortIds, ∃ bytes, primitives.hexDecode id = .ok bytes ∧
        (bytes = (p.take 16).drop 8 ∨ bytes = (p.take 12).drop 4)) →
      (matchShortId p server.realityConfig.shortIds).isSome) ∧
    ((matchShortId p server.realityConfig.shortIds).isSome →
      ∃ id ∈ shortIds, ∃ bytes, primitives.hexDecode id = .ok bytes ∧
        ((Octets.ofList 8 bytes).toList = (p.take 16).drop 8 ∨
          (Octets.ofList 8 bytes).toList = (p.take 12).drop 4)) := by
  obtain ⟨decoded, -⟩ := RealityServerRustls.new_eq_ok primitives built
  obtain ⟨forward, backward⟩ := decodeShortIds_mem primitives decoded
  rw [matchShortId_isSome_iff]
  constructor
  case left =>
    rintro ⟨id, member, bytes, hex, matched⟩
    obtain ⟨sid, sidMember, sidHex⟩ := forward id member
    have same : sid = bytes := Except.ok.inj (sidHex.symm.trans hex)
    subst same
    exact ⟨sid, sidMember, matched.symm⟩
  case right =>
    rintro ⟨sid, member, matched⟩
    obtain ⟨id, idMember, hex⟩ := backward sid member
    have eight : sid.length = 8 := by
      rcases matched with rfl | rfl <;> simp [sixteen]
    have unpadded : (Octets.ofList 8 sid).toList = sid := by
      rw [Octets.ofList_take 8 sid (by omega), List.take_of_length_le (by omega)]
    refine ⟨id, idMember, sid, hex, ?_⟩
    rw [unpadded]
    exact matched.symm

/-- Two plaintexts on which the loop departs from the padded rule at bytes 8..16
alone: one accepted at offset 4, and one of zeros refused under the empty short id. -/
theorem realityShortId_offset_and_empty :
    let primitives : Primitives Hex.FromHexError :=
      ⟨Hex.decode, Hex.encode, fun _ _ => [], fun _ _ => none, fun _ _ _ _ => none⟩
    let privateKey : List UInt8 := List.replicate 32 0
    let server (shortIds : List (List UInt8)) : RealityServerRustls :=
      ⟨⟨privateKey, true, some "www.microsoft.com:443", shortIds⟩, []⟩
    let early : List UInt8 := [0, 0, 0, 0, 1, 2, 3, 4, 5, 6, 7, 8, 9, 9, 9, 9]
    let zeros : List UInt8 := List.replicate 16 0
    (RealityServerRustls.new primitives privateKey none ["0102030405060708"] [] =
        .ok (server [[1, 2, 3, 4, 5, 6, 7, 8]]) ∧
      (Octets.ofList 8 [1, 2, 3, 4, 5, 6, 7, 8]).toList ≠ (early.take 16).drop 8 ∧
      matchShortId early [[1, 2, 3, 4, 5, 6, 7, 8]] = some 4) ∧
    (RealityServerRustls.new primitives privateKey none [""] [] = .ok (server [[]]) ∧
      (Octets.ofList 8 []).toList = (zeros.take 16).drop 8 ∧
      matchShortId zeros [[]] = none) := by
  dsimp only
  constructor
  case left => decide +kernel
  case right => decide +kernel

theorem realityShortId_accepts_early :
    let primitives : Primitives Hex.FromHexError :=
      ⟨Hex.decode, Hex.encode, fun _ _ => [], fun _ _ => none, fun _ _ _ _ => none⟩
    let server : RealityServerRustls :=
      ⟨⟨List.replicate 32 0, true, some "www.microsoft.com:443", [[1, 2, 3, 4, 5, 6, 7, 8]]⟩, []⟩
    let p : List UInt8 := [0, 0, 0, 0, 1, 2, 3, 4, 5, 6, 7, 8, 9, 9, 9, 9]
    ((∃ id ∈ ["0102030405060708"], ∃ bytes, primitives.hexDecode id = .ok bytes ∧
        (bytes = (p.take 16).drop 8 ∨ bytes = (p.take 12).drop 4)) →
      (matchShortId p server.realityConfig.shortIds).isSome) ∧
    ((matchShortId p server.realityConfig.shortIds).isSome →
      ∃ id ∈ ["0102030405060708"], ∃ bytes, primitives.hexDecode id = .ok bytes ∧
        ((Octets.ofList 8 bytes).toList = (p.take 16).drop 8 ∨
          (Octets.ofList 8 bytes).toList = (p.take 12).drop 4)) := by
  intro primitives server p
  exact realityShortId_accepts primitives (List.replicate 32 0) none ["0102030405060708"] [] server
    (by decide +kernel) p rfl

section Verify

variable {ε : Type} (primitives : Primitives ε)

-- The additional data: the handshake message with the session id's first
-- occurrence zeroed, found by searching the hex encodings (so at half the hex offset).
def realityAad (fullHello sessionId : List UInt8) : List UInt8 :=
  -- the caller passes a record that `parse_client_hello` accepted: 5 bytes or more, starting 0x16
  let handshakeMsg := if fullHello[0]? = some 0x16 then fullHello.drop 5 else fullHello
  match Utf8.find (primitives.hexEncode handshakeMsg) (primitives.hexEncode sessionId) with
  | none => handshakeMsg
  | some offset =>
    let pos := offset / 2
    handshakeMsg.mapIdx fun i byte => if pos ≤ i ∧ i < pos + 32 then 0 else byte

/-- The AAD a REALITY client seals its session id under: the ClientHello message
with its 32 session-id bytes, offsets 39 to 71, set to zero. -/
def sealedAad (message : List UInt8) : List UInt8 :=
  message.mapIdx fun i byte => if 39 ≤ i ∧ i < 71 then 0 else byte

theorem length_realityAad (fullHello sessionId : List UInt8) :
    (realityAad primitives fullHello sessionId).length =
      (if fullHello[0]? = some 0x16 then fullHello.drop 5 else fullHello).length := by
  unfold realityAad
  generalize (if fullHello[0]? = some 0x16 then fullHello.drop 5 else fullHello) = handshakeMsg
  dsimp only
  split <;> simp

theorem realityAad_of_found (major minor hi lo : UInt8) (message sessionId : List UInt8)
    (found : Utf8.find (primitives.hexEncode message) (primitives.hexEncode sessionId) = some 78) :
    realityAad primitives ([0x16, major, minor, hi, lo] ++ message) sessionId = sealedAad message := by
  simp [realityAad, found, sealedAad]

/-- Bytes after the ClientHello record stay in the AAD: with any trailing byte it is
longer than the message, so it is never the AAD the client sealed under. -/
theorem realityAad_trailing_bytes (major minor hi lo : UInt8) (message : List UInt8) (byte : UInt8)
    (rest sessionId : List UInt8) :
    (realityAad primitives ([0x16, major, minor, hi, lo] ++ message ++ byte :: rest) sessionId).length =
        message.length + rest.length + 1 ∧
      realityAad primitives ([0x16, major, minor, hi, lo] ++ message ++ byte :: rest) sessionId ≠
        sealedAad message := by
  have longer := length_realityAad primitives ([0x16, major, minor, hi, lo] ++ message ++ byte :: rest) sessionId
  simp only [List.cons_append, List.getElem?_cons_zero, if_pos, List.drop_succ_cons, List.drop_zero,
    List.nil_append, List.length_append, List.length_cons] at longer
  refine ⟨longer, fun same => ?_⟩
  have sameLength := congrArg List.length same
  simp [sealedAad, longer] at sameLength

/-- `verify_client_reality`: the offset at which the short id matched, and the auth key. -/
def RealityServerRustls.verifyClientReality (server : RealityServerRustls) (info : ClientHelloInfo)
    (fullHello : List UInt8) : Option (Nat × List UInt8) := do
  if info.sessionId.length ≠ 32 ∨ info.publicKey.isNone then none
  else
    let clientPub ← info.publicKey
    -- `try_into::<[u8; 32]>().ok()?`
    if clientPub.length ≠ 32 then none
    else
      let shared := primitives.diffieHellman server.realityConfig.privateKey clientPub
      let authKey ← primitives.expandAuthKey (info.clientRandom.toList.take 20) shared
      let nonce := info.clientRandom.toList.drop 20
      let aad := realityAad primitives fullHello info.sessionId
      let buf ← primitives.decrypt authKey nonce aad info.sessionId
      if buf.length < 16 then none
      else
        let offset ← matchShortId buf server.realityConfig.shortIds
        pure (offset, authKey)

theorem RealityServerRustls.verifyClientReality_of_decrypted {server : RealityServerRustls}
    {info : ClientHelloInfo} {fullHello clientPub authKey p : List UInt8}
    (sessionId : info.sessionId.length = 32) (key : info.publicKey = some clientPub)
    (keyLength : clientPub.length = 32)
    (derived : primitives.expandAuthKey (info.clientRandom.toList.take 20)
      (primitives.diffieHellman server.realityConfig.privateKey clientPub) = some authKey)
    (decrypted : primitives.decrypt authKey (info.clientRandom.toList.drop 20)
      (realityAad primitives fullHello info.sessionId) info.sessionId = some p)
    (long : 16 ≤ p.length) :
    server.verifyClientReality primitives info fullHello =
      (matchShortId p server.realityConfig.shortIds).map (·, authKey) := by
  have notShort : ¬ p.length < 16 := by omega
  simp [RealityServerRustls.verifyClientReality, sessionId, key, keyLength, derived, decrypted, notShort]
  cases matchShortId p server.realityConfig.shortIds <;> rfl

end Verify

end XrayLite.Reality
