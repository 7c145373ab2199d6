import XrayLite.Reality.Auth
import XrayLite.Reality.Channel

/-! `RealityHandshake::perform` (`src/transport/reality/handshake.rs`): a TLS 1.3
handshake written out by hand for REALITY clients, and a fallback to the
configured destination for every other client.

The server reads the ClientHello, checks the client's mark in its session id,
and either hands the connection to the destination or answers with a marked
ServerHello, a ChangeCipherSpec and one record holding EncryptedExtensions, an
empty Certificate and its Finished. It then reads records until the client's
Finished, and returns a `TlsStream` under the application keys whose buffer
holds what followed that record.

X25519, SHA-256, the key schedule of `crypto.rs` and `OsRng` enter as the
fields of `HandshakeSuite`: the statements hold for whatever they compute. The
client's key share is read by `ClientHello::get_key_share` (`tls.rs`).
-/

set_option autoImplicit false

namespace XrayLite.Reality

/-! ### The client's key share -/

/-- The loop of `Extension::parse_client_key_share`, past the two bytes of the
list's length: each entry is a group, a length and a key. -/
def keyShareEntries (data : List UInt8) : Option (List UInt8) :=
  match data with
  | group0 :: group1 :: length0 :: length1 :: rest =>
    let length := BigEndian.value [length0, length1]
    if rest.length < length then none
    else if BigEndian.value [group0, group1] = 0x001d then some (rest.take length)
    else keyShareEntries (rest.drop length)
  -- fewer than four bytes: the position is at the end, or a `remaining() < 2` check breaks the loop
  | _ => none
termination_by data.length
decreasing_by simp only [List.length_drop, List.length_cons]; omega

def Extension.parseClientKeyShare (data : List UInt8) : Option (List UInt8) :=
  if data.length < 2 then none else keyShareEntries (data.drop 2)

def ClientHello.getKeyShare (hello : ClientHello) : Option (List UInt8) :=
  (hello.extensions.find? (·.extensionType = 0x0033)).bind fun extension =>
    Extension.parseClientKeyShare extension.data

/-! ### The handshake -/

structure TlsKeys where
  clientWriteKey : Aead
  serverWriteKey : Aead
  clientIv : Octets 12
  serverIv : Octets 12
  clientTrafficSecret : List UInt8
  serverTrafficSecret : List UInt8

def TlsKeys.client (keys : TlsKeys) : ClientKeys := ⟨keys.clientWriteKey, keys.clientIv⟩

def TlsKeys.server (keys : TlsKeys) : ServerKeys := ⟨keys.serverWriteKey, keys.serverIv⟩

/-- What `perform` calls on besides `auth.rs`. The key schedule's own errors
cannot happen at the lengths it asks for (32, 16 and 12 bytes), so its
functions are total here. -/
structure HandshakeSuite where
  authPrimitives : AuthPrimitives
  /-- `RealityCrypto::new().get_public_key()`: the public half of a fresh X25519 key. -/
  publicKey : List UInt8
  /-- `derive_shared_secret` past its length check: X25519 of the fresh key and the client's. -/
  diffieHellman : Octets 32 → List UInt8
  /-- The 32 bytes `OsRng` puts in `server_random`. -/
  serverRandom : Octets 32
  sha256 : List UInt8 → List UInt8
  deriveHandshakeKeys : List UInt8 → List UInt8 → TlsKeys × List UInt8
  deriveApplicationKeys : List UInt8 → List UInt8 → TlsKeys
  calculateVerifyData : List UInt8 → List UInt8 → List UInt8

def HandshakeSuite.hashTranscript (suite : HandshakeSuite) (messages : List (List UInt8)) : List UInt8 :=
  suite.sha256 messages.flatten

structure RealityHandshake where
  privateKey : String
  dest : String

inductive HandshakeError where
  -- those of `read_client_hello`: "EOF reading CH", an unknown content type, "Not a ClientHello message"
  | tls (error : TlsError)
  | auth (error : AuthError)
  -- "No X25519 key share"
  | noKeyShare
  -- "无效的公钥长度"
  | publicKeyLength
  -- "Connection closed"
  | connectionClosed
  -- "EOF"
  | eof
  -- those of `decrypt_client_record`
  | record (error : ReadError)
  -- "Client sent Alert {}/{}"
  | clientAlert (level description : UInt8)
  deriving DecidableEq, Repr

def changeCipherSpec : List UInt8 := [0x14, 0x03, 0x03, 0x00, 0x01, 0x01]

def encryptedExtensions : List UInt8 := [8, 0, 0, 2, 0, 0]

def certificateMessage : List UInt8 := [11, 0, 0, 4, 0, 0, 0, 0]

def finishedMessage (verifyData : List UInt8) : List UInt8 :=
  [20] ++ BigEndian.bytes 3 verifyData.length ++ verifyData

/-- `read_client_hello` on a socket that delivers `reads` in turn and then ends,
with the reads it leaves to `perform`. `readClientHello` is its result alone. -/
def readClientHelloLeaving (buf : List UInt8) :
    List (List UInt8) → Except Panic (Except TlsError (ClientHello × List UInt8)) × List (List UInt8)
  | [] => (pure (.error .eofReadingHello), [])
  | chunk :: reads =>
    if chunk = [] then (pure (.error .eofReadingHello), reads)
    else
      let buf := buf ++ chunk
      match TlsRecord.parse buf with
      | .error panic => (.error panic, reads)
      | .ok (.error error) => (pure (.error error), reads)
      | .ok (.ok (some (record, _))) =>
        if record.contentType = .handshake then
          ((ClientHello.parse record.payload).map fun parsed => parsed.map fun hello => (hello, record.payload), reads)
        else readClientHelloLeaving buf reads
      | .ok (.ok none) => readClientHelloLeaving buf reads

def finishedRecord (keys : ClientKeys) (recordData : List UInt8) : Option (Except HandshakeError Unit) :=
  let ctype := recordData.getD 0 0
  if ctype = 20 then none
  else if ctype = 23 then
    match decryptClientRecord keys 0 (recordData.take 5) (recordData.drop 5) with
    | .error error => some (.error (.record error))
    | .ok (innerType, plen, plaintext) =>
      -- `record_data[5]` and `record_data[6]` hold the first bytes of the plaintext once it is opened in place
      if innerType = 21 then
        some (.error (.clientAlert (if 0 < plen then plaintext.getD 0 0 else 0) (if 1 < plen then plaintext.getD 1 0 else 0)))
      else if innerType = 22 ∧ 0 < plen ∧ plaintext.getD 0 0 = 20 then some (.ok ())
      else none
  else none

/-- Step 8 of `perform`: records are read until the client's Finished. The bytes
after it stay in the buffer, and are returned with the reads left. -/
def readClientFinished (keys : ClientKeys) (buf : List UInt8) (reads : List (List UInt8)) :
    Except HandshakeError (List UInt8) × List (List UInt8) :=
  if buf.length < 5 then
    match reads with
    | [] => (.error .connectionClosed, [])
    | chunk :: reads => if chunk = [] then (.error .connectionClosed, reads) else readClientFinished keys (buf ++ chunk) reads
  else
    let rlen := BigEndian.value [buf.getD 3 0, buf.getD 4 0]
    if buf.length < 5 + rlen then
      match reads with
      | [] => (.error .eof, [])
      | chunk :: reads => if chunk = [] then (.error .eof, reads) else readClientFinished keys (buf ++ chunk) reads
    else
      match finishedRecord keys (buf.take (5 + rlen)) with
      | none => readClientFinished keys (buf.drop (5 + rlen)) reads
      | some result => (result.map fun _ => buf.drop (5 + rlen), reads)
termination_by (reads.length, buf.length)
decreasing_by
  all_goals
    simp only [Prod.lex_def, List.length_cons, List.length_drop, true_and]
    omega

/-- The record `fallback_to_dest` sends the destination: the ClientHello framed
again, as a handshake record of version 0x0303; the length is
`client_hello.len() as u16`. -/
def fallbackRecord (clientHello : List UInt8) : List UInt8 :=
  [0x16, 0x03, 0x03] ++ BigEndian.bytes 2 (clientHello.length % 65536) ++ clientHello

inductive Performed where
  /-- `Ok(TlsStream::new_with_buffer(client_stream, app_keys, buf))`. -/
  | established (keys : TlsKeys) (half : ReadHalf)
  /-- `fallback_to_dest`: `dest` is connected to and sent `forwarded`, then what
  the client sends after is copied to it; `perform` returns an error. -/
  | fallback (dest : String) (forwarded : List UInt8)
  | failed (error : HandshakeError)

/-- Steps 3 to 9 of `perform`, for a client that passed the check: the outcome,
the bytes written to the client, and the reads left. -/
def RealityHandshake.respond (handshake : RealityHandshake) (suite : HandshakeSuite) (clientHello : ClientHello)
    (clientHelloRaw : List UInt8) (reads : List (List UInt8)) : Performed × List UInt8 × List (List UInt8) :=
  match clientHello.getKeyShare with
  | none => (.failed .noKeyShare, [], reads)
  | some clientKeyShare =>
    if clientKeyShare.length ≠ 32 then (.failed .publicKeyLength, [], reads)
    else
      let sharedSecret := suite.diffieHellman (Octets.ofList 32 clientKeyShare)
      let built := ServerHello.newReality clientHello.sessionId suite.serverRandom suite.publicKey
      match built.modifyForReality suite.authPrimitives handshake.privateKey clientHello.random with
      | .error error => (.failed (.auth error), [], reads)
      | .ok serverHello =>
        let handshakeKeys :=
          suite.deriveHandshakeKeys sharedSecret (suite.hashTranscript [clientHelloRaw, serverHello.handshakePayload])
        let hsKeys := handshakeKeys.1
        let verifyData := suite.calculateVerifyData hsKeys.serverTrafficSecret
          (suite.hashTranscript [clientHelloRaw, serverHello.handshakePayload, encryptedExtensions, certificateMessage])
        let finMsg := finishedMessage verifyData
        let sent := serverHello.encode ++ changeCipherSpec ++
          encryptServerRecord hsKeys.server 0 (encryptedExtensions ++ certificateMessage ++ finMsg) 22
        match readClientFinished hsKeys.client [] reads with
        | (.error error, reads) => (.failed error, sent, reads)
        | (.ok buf, reads) =>
          let appKeys := suite.deriveApplicationKeys handshakeKeys.2 (suite.hashTranscript
            [clientHelloRaw, serverHello.handshakePayload, encryptedExtensions, certificateMessage, finMsg])
          (.established appKeys (.initial buf), sent, reads)

/-- `RealityHandshake::perform` on a client whose socket delivers `reads` in
turn and then ends: the outcome, the bytes written to the client, and the reads
left, which the `TlsStream` or the copy to the destination reads next. -/
def RealityHandshake.perform (handshake : RealityHandshake) (suite : HandshakeSuite) (reads : List (List UInt8)) :
    Except Panic (Performed × List UInt8 × List (List UInt8)) := do
  let hello ← (readClientHelloLeaving [] reads).1
  let reads := (readClientHelloLeaving [] reads).2
  match hello with
  | .error error => pure (.failed (.tls error), [], reads)
  | .ok (clientHello, clientHelloRaw) =>
    match RealityAuth.new suite.authPrimitives handshake.privateKey with
    | .error error => pure (.failed (.auth error), [], reads)
    | .ok auth =>
      if auth.verifyClientAuth suite.authPrimitives clientHello.random clientHello.sessionId then
        pure (handshake.respond suite clientHello clientHelloRaw reads)
      else pure (.fallback handshake.dest (fallbackRecord clientHelloRaw), [], reads)

/-! ### Records on the wire

`TlsRecord::parse` reads the header, and a payload of the length it gives once
all of it is buffered. -/

theorem ContentType.fromU8_toU8 (contentType : ContentType) : ContentType.fromU8 contentType.toU8 = .ok contentType := by
  cases contentType <;> rfl

theorem TlsRecord.parse_of_short {buf : List UInt8} (short : buf.length < 5) : TlsRecord.parse buf = .ok (.ok none) := by
  unfold TlsRecord.parse
  rw [if_pos short]
  rfl

theorem TlsRecord.parse_header (typeByte major minor hi lo : UInt8) (rest : List UInt8) :
    TlsRecord.parse (typeByte :: major :: minor :: hi :: lo :: rest) =
      match ContentType.fromU8 typeByte with
      | .error error => .ok (.error error)
      | .ok contentType =>
        if rest.length < BigEndian.value [hi, lo] then .ok (.ok none)
        else .ok (.ok (some (⟨contentType, UInt16.ofNat (BigEndian.value [major, minor]),
          rest.take (BigEndian.value [hi, lo])⟩, rest.drop (BigEndian.value [hi, lo])))) := by
  rcases known : ContentType.fromU8 typeByte with error | contentType
  case error =>
    unfold TlsRecord.parse
    simp only [List.length_cons, Slice.index, List.getElem?_cons_zero, bind, Except.bind, known]
    rw [if_neg (by omega)]
    rfl
  case ok =>
    dsimp only
    by_cases incomplete : rest.length < BigEndian.value [hi, lo]
    case neg =>
      rw [if_neg incomplete]
      exact TlsRecord.parse_of_complete typeByte major minor hi lo rest known (by omega)
    case pos =>
      unfold TlsRecord.parse
      simp only [List.length_cons, Slice.index, List.getElem?_cons_zero, List.getElem?_cons_succ, bind,
        Except.bind, known]
      rw [if_neg (by omega), if_pos (by omega), if_pos incomplete]
      rfl

theorem TlsRecord.length_encode (record : TlsRecord) : record.encode.length = 5 + record.payload.length := by
  simp [TlsRecord.encode]
  omega

theorem TlsRecord.encode_eq (record : TlsRecord) (small : record.payload.length < 65536) :
    ∃ major minor hi lo, record.encode = record.contentType.toU8 :: major :: minor :: hi :: lo :: record.payload ∧
      UInt16.ofNat (BigEndian.value [major, minor]) = record.version ∧
      BigEndian.value [hi, lo] = record.payload.length := by
  obtain ⟨major, minor, version, versioned⟩ := BigEndian.putU16_eq record.version
  obtain ⟨hi, lo, split⟩ := List.length_eq_two.mp (BigEndian.length_bytes 2 (record.payload.length % 65536))
  have field : BigEndian.value [hi, lo] = record.payload.length := by
    rw [← split, BigEndian.value_bytes 2 _ (by omega), Nat.mod_eq_of_lt small]
  refine ⟨major, minor, hi, lo, ?_, versioned, field⟩
  rw [TlsRecord.encode, show BigEndian.bytes 2 record.version.toNat = BigEndian.putU16 record.version from rfl,
    version, split]
  rfl

theorem TlsRecord.parse_encode (record : TlsRecord) (small : record.payload.length < 65536) (rest : List UInt8) :
    TlsRecord.parse (record.encode ++ rest) = .ok (.ok (some (record, rest))) := by
  obtain ⟨major, minor, hi, lo, encoded, versioned, field⟩ := record.encode_eq small
  rw [encoded, List.cons_append, List.cons_append, List.cons_append, List.cons_append, List.cons_append,
    TlsRecord.parse_header, ContentType.fromU8_toU8]
  dsimp only
  rw [field, if_neg (by simp), versioned, List.take_left' rfl, List.drop_left' rfl]

theorem TlsRecord.parse_of_prefix (record : TlsRecord) (small : record.payload.length < 65536) {buf more : List UInt8}
    (joined : buf ++ more = record.encode) (shorter : buf.length < record.encode.length) :
    TlsRecord.parse buf = .ok (.ok none) := by
  obtain ⟨major, minor, hi, lo, encoded, -, field⟩ := record.encode_eq small
  by_cases short : buf.length < 5
  case pos => exact TlsRecord.parse_of_short short
  case neg =>
    obtain ⟨header, rest, split, sized⟩ := Buf.exists_append_of_le (show 5 ≤ buf.length by omega)
    have front : header = [record.contentType.toU8, major, minor, hi, lo] := by
      have taken := congrArg (List.take 5) joined
      rw [split, List.append_assoc, List.take_left' sized, encoded] at taken
      exact taken
    rw [split, front]
    rw [split, List.length_append, sized] at shorter
    simp only [List.cons_append, List.nil_append]
    rw [TlsRecord.parse_header, ContentType.fromU8_toU8, record.length_encode] at *
    dsimp only
    rw [field, if_pos (by omega)]

/-! ### The client's key share -/

def keyShareEntry (group : UInt16) (key : List UInt8) : List UInt8 :=
  BigEndian.putU16 group ++ BigEndian.bytes 2 key.length ++ key

theorem keyShareEntries_entry (group : UInt16) {key : List UInt8} (small : key.length < 65536) (rest : List UInt8) :
    keyShareEntries (keyShareEntry group key ++ rest) =
      if group = 0x001d then some key else keyShareEntries rest := by
  obtain ⟨group0, group1, grouped, named⟩ := BigEndian.putU16_eq group
  obtain ⟨length0, length1, split⟩ := List.length_eq_two.mp (BigEndian.length_bytes 2 key.length)
  have field : BigEndian.value [length0, length1] = key.length := by
    rw [← split, BigEndian.value_bytes 2 _ (by omega)]
  have same : BigEndian.value [group0, group1] = 0x001d ↔ group = 0x001d := by
    rw [← named, BigEndian.getU16]
    constructor
    case mp => intro equal; rw [equal]; rfl
    case mpr =>
      intro equal
      have small : BigEndian.value [group0, group1] < 65536 := by
        simpa using BigEndian.value_lt [group0, group1]
      have wrapped := congrArg UInt16.toNat equal
      rw [UInt16.toNat_ofNat', show (0x001d : UInt16).toNat = 29 from rfl] at wrapped
      omega
  have layout : keyShareEntry group key ++ rest = group0 :: group1 :: length0 :: length1 :: (key ++ rest) := by
    rw [keyShareEntry, grouped, split]
    rfl
  rw [layout, keyShareEntries]
  rw [field, if_neg (by simp), List.take_left' rfl, List.drop_left' rfl]
  by_cases x25519 : group = 0x001d
  case pos => rw [if_pos (same.mpr x25519), if_pos x25519]
  case neg => rw [if_neg (mt same.mp x25519), if_neg x25519]

/-- `get_key_share`'s parse of a well-formed key_share extension: the key of the
first X25519 entry. The list's own length is not read. -/
theorem parseClientKeyShare_encode (lengthBytes : List UInt8) (two : lengthBytes.length = 2)
    (entries : List (UInt16 × List UInt8)) (small : ∀ entry ∈ entries, entry.2.length < 65536) :
    Extension.parseClientKeyShare (lengthBytes ++ entries.flatMap fun entry => keyShareEntry entry.1 entry.2) =
      (entries.find? (·.1 = 0x001d)).map (·.2) := by
  rw [Extension.parseClientKeyShare, if_neg (by simp only [List.length_append, two]; omega), List.drop_left' two]
  induction entries with
  | nil => simp [keyShareEntries]
  | cons entry entries ih =>
    rw [List.flatMap_cons, keyShareEntries_entry _ (small entry List.mem_cons_self), List.find?_cons]
    by_cases x25519 : entry.1 = 0x001d
    case pos => simp [x25519]
    case neg =>
      simp only [x25519, if_false, decide_false]
      exact ih fun other member => small other (List.mem_cons_of_mem _ member)

theorem parseClientKeyShare_encode_second :
    Extension.parseClientKeyShare ([0, 11] ++ [((0x0017 : UInt16), [1, 2, 3]), (0x001d, [7])].flatMap fun entry =>
        keyShareEntry entry.1 entry.2) =
      ([((0x0017 : UInt16), [1, 2, 3]), (0x001d, [7])].find? (·.1 = 0x001d)).map (·.2) :=
  parseClientKeyShare_encode [0, 11] rfl _ (by decide)

/-! ### The ClientHello -/

theorem readClientHelloLeaving_fst (buf : List UInt8) (reads : List (List UInt8)) :
    (readClientHelloLeaving buf reads).1 = readClientHello buf reads := by
  induction reads generalizing buf with
  | nil => rfl
  | cons chunk reads ih =>
    rw [readClientHelloLeaving, readClientHello]
    by_cases empty : chunk = []
    case pos => simp only [if_pos empty]
    case neg =>
      simp only [if_neg empty, bind, Except.bind]
      rcases TlsRecord.parse (buf ++ chunk) with panic | error | _ | ⟨record, _⟩
      case error => rfl
      case ok.error => rfl
      case ok.ok.none => exact ih _
      case ok.ok.some =>
        dsimp only
        split
        case isTrue => rcases ClientHello.parse record.payload with _ | _ <;> rfl
        case isFalse => exact ih _

/-- A handshake record delivered in reads, the last of which may hold more
bytes after it: the reads before the last only buffer, and the ClientHello is
parsed from the record; the bytes after it are dropped with the buffer. -/
theorem readClientHelloLeaving_record {record : TlsRecord} (typed : record.contentType = .handshake)
    (small : record.payload.length < 65536) {front : List (List UInt8)} (nonempty : ∀ segment ∈ front, segment ≠ [])
    {last tail : List UInt8} (arrived : last ≠ []) {buf : List UInt8}
    (joined : buf ++ front.flatten ++ last = record.encode ++ tail)
    (unfinished : (buf ++ front.flatten).length < record.encode.length) (later : List (List UInt8)) :
    readClientHelloLeaving buf (front ++ last :: later) =
      ((ClientHello.parse record.payload).map fun parsed => parsed.map fun hello => (hello, record.payload), later) := by
  induction front generalizing buf with
  | nil =>
    rw [List.flatten_nil, List.append_nil] at joined
    rw [List.nil_append, readClientHelloLeaving, if_neg arrived]
    dsimp only
    rw [joined, TlsRecord.parse_encode record small]
    dsimp only
    rw [if_pos typed]
  | cons segment front ih =>
    have buffered : (buf ++ segment).length < record.encode.length := by
      simp only [List.flatten_cons, List.length_append] at unfinished ⊢
      omega
    have partial_record : TlsRecord.parse (buf ++ segment) = .ok (.ok none) := by
      have read : buf ++ segment <+: record.encode ++ tail :=
        ⟨front.flatten ++ last, by rw [← joined, List.flatten_cons]; simp only [List.append_assoc]⟩
      obtain ⟨more, joined'⟩ := List.prefix_of_prefix_length_le read (List.prefix_append _ _) buffered.le
      exact TlsRecord.parse_of_prefix record small joined' buffered
    rw [List.cons_append, readClientHelloLeaving, if_neg (nonempty segment List.mem_cons_self)]
    dsimp only
    rw [partial_record]
    dsimp only
    exact ih (fun other member => nonempty other (List.mem_cons_of_mem _ member))
      (by simpa [List.append_assoc] using joined) (by simpa [List.append_assoc] using unfinished)

/-! ### The client's Finished

However the client's second flight is cut into reads, the loop skips its
ChangeCipherSpec, stops at its Finished, and leaves what follows in the buffer
and in the reads not taken. -/

theorem getD_of_append_eq {buf rest record more : List UInt8} (joined : buf ++ rest = record ++ more) {i : Nat}
    (inBuffer : i < buf.length) (inRecord : i < record.length) : buf.getD i 0 = record.getD i 0 := by
  have same := congrArg (fun bytes => bytes.getD i 0) joined
  simp only [List.getD_eq_getElem?_getD] at same ⊢
  rwa [List.getElem?_append_left inBuffer, List.getElem?_append_left inRecord] at same

def WholeRecord (record : List UInt8) : Prop :=
  5 ≤ record.length ∧ BigEndian.value [record.getD 3 0, record.getD 4 0] + 5 = record.length

section Finished

variable (keys : ClientKeys)

theorem readClientFinished_of_unfinished {buf : List UInt8}
    (unfinished : buf.length < 5 ∨ buf.length < 5 + BigEndian.value [buf.getD 3 0, buf.getD 4 0])
    {chunk : List UInt8} (arrived : chunk ≠ []) (reads : List (List UInt8)) :
    readClientFinished keys buf (chunk :: reads) = readClientFinished keys (buf ++ chunk) reads := by
  rw [readClientFinished]
  by_cases short : buf.length < 5
  case pos => rw [if_pos short, if_neg arrived]
  case neg =>
    rw [if_neg short]
    dsimp only
    rw [if_pos (unfinished.resolve_left short), if_neg arrived]

theorem readClientFinished_of_record {record : List UInt8} (framed : WholeRecord record) (rest : List UInt8)
    (reads : List (List UInt8)) :
    readClientFinished keys (record ++ rest) reads =
      match finishedRecord keys record with
      | none => readClientFinished keys rest reads
      | some result => (result.map fun _ => rest, reads) := by
  obtain ⟨long, field⟩ := framed
  have header : ∀ i, i < 5 → (record ++ rest).getD i 0 = record.getD i 0 := by
    intro i inside
    simp only [List.getD_eq_getElem?_getD, List.getElem?_append_left (show i < record.length by omega)]
  rw [readClientFinished.eq_def, if_neg (by simp; omega)]
  dsimp only
  rw [header 3 (by decide), header 4 (by decide), if_neg (show ¬ (record ++ rest).length < 5 + BigEndian.value
    [record.getD 3 0, record.getD 4 0] by rw [List.length_append]; omega), show 5 + BigEndian.value
    [record.getD 3 0, record.getD 4 0] = record.length by omega, List.take_left' rfl, List.drop_left' rfl]

theorem readClientFinished_fill {record more : List UInt8} (framed : WholeRecord record) {segments : List (List UInt8)}
    (nonempty : ∀ segment ∈ segments, segment ≠ []) {buf : List UInt8}
    (joined : buf ++ segments.flatten = record ++ more) :
    ∃ rest left, left <:+ segments ∧ rest ++ left.flatten = more ∧
      readClientFinished keys buf segments = readClientFinished keys (record ++ rest) left := by
  induction segments generalizing buf with
  | nil =>
    rw [List.flatten_nil, List.append_nil] at joined
    exact ⟨more, [], List.suffix_refl _, by simp, by rw [joined]⟩
  | cons segment segments ih =>
    by_cases whole : record.length ≤ buf.length
    case pos =>
      obtain ⟨rest, split, after⟩ : ∃ rest, buf = record ++ rest ∧ rest ++ (segment :: segments).flatten = more := by
        rcases List.append_eq_append_iff.mp joined with ⟨extra, longer, _⟩ | ⟨rest, split, after⟩
        case inl =>
          have none : extra = [] := List.eq_nil_of_length_eq_zero (by
            have sized := congrArg List.length longer
            simp only [List.length_append] at sized
            omega)
          subst none
          exact ⟨[], by simpa using longer.symm, by simp_all⟩
        case inr => exact ⟨rest, split, after.symm⟩
      exact ⟨rest, segment :: segments, List.suffix_refl _, after, by rw [split]⟩
    case neg =>
      obtain ⟨long, field⟩ := framed
      have unfinished : buf.length < 5 ∨ buf.length < 5 + BigEndian.value [buf.getD 3 0, buf.getD 4 0] := by
        by_cases short : buf.length < 5
        case pos => exact .inl short
        case neg =>
          right
          rw [getD_of_append_eq joined (by omega) (by omega), getD_of_append_eq joined (by omega) (by omega)]
          omega
      rw [readClientFinished_of_unfinished keys unfinished (nonempty segment List.mem_cons_self)]
      obtain ⟨rest, left, suffix, after, reads⟩ := ih (fun other member => nonempty other (List.mem_cons_of_mem _ member))
        (show buf ++ segment ++ segments.flatten = record ++ more by simpa [List.append_assoc] using joined)
      exact ⟨rest, left, suffix.trans (List.suffix_cons _ _), after, reads⟩

theorem wholeRecord_changeCipherSpec : WholeRecord changeCipherSpec := ⟨by decide, by decide⟩

theorem finishedRecord_changeCipherSpec : finishedRecord keys changeCipherSpec = none := rfl

theorem wholeRecord_sealRecord (key : Aead) (iv : Octets 12) (seq : Nat) (inner : InnerPlaintext) :
    WholeRecord (sealRecord key iv seq inner) := by
  have field := value_of_sealed_front key iv (show sealRecord key iv seq inner ++ [] = sealRecord key iv seq inner ++ []
    from rfl) (by simp [InnerPlaintext.sealedLength])
  refine ⟨by simp [InnerPlaintext.sealedLength], ?_⟩
  rw [field, length_sealRecord, InnerPlaintext.sealedLength]
  omega

theorem finishedRecord_sealed {key : Aead} {iv : Octets 12} {fin : InnerPlaintext} (typed : fin.contentType = 22)
    (first : fin.content.head? = some 20) : finishedRecord ⟨key, iv⟩ (sealRecord key iv 0 fin) = some (.ok ()) := by
  obtain ⟨rest, content⟩ : ∃ rest, fin.content = 20 :: rest := by
    cases listed : fin.content with
    | nil => simp [listed] at first
    | cons byte rest =>
      rw [listed, List.head?_cons, Option.some.injEq] at first
      exact ⟨rest, by rw [first]⟩
  have opened : decryptClientRecord ⟨key, iv⟩ 0 fin.header (key.sealAppendTag (recordNonce iv 0) fin.header fin.encode) =
      .ok (fin.contentType, fin.content.length, fin.encode) :=
    decryptClientRecord_sealed 0 fin
  have header : (sealRecord key iv 0 fin).take 5 = fin.header := by
    rw [sealRecord, List.take_left' fin.length_header]
  have body : (sealRecord key iv 0 fin).drop 5 = key.sealAppendTag (recordNonce iv 0) fin.header fin.encode := by
    rw [sealRecord, List.drop_left' fin.length_header]
  have encrypted : (sealRecord key iv 0 fin).getD 0 0 = 23 := rfl
  have firstByte : fin.encode.getD 0 0 = 20 := by
    rw [InnerPlaintext.encode, content]
    rfl
  unfold finishedRecord
  rw [encrypted, if_neg (by decide), if_pos rfl, header, body, opened]
  dsimp only
  rw [typed, if_neg (by decide), if_pos ⟨rfl, by simp [content], firstByte⟩]

/-- The client's second flight: its ChangeCipherSpec, then its Finished sealed
under the handshake keys, then whatever it sends next, in any reads. The loop
returns what followed the Finished, in the buffer and in the reads not taken. -/
theorem readClientFinished_flight {key : Aead} {iv : Octets 12} {fin : InnerPlaintext} (typed : fin.contentType = 22)
    (first : fin.content.head? = some 20) {segments : List (List UInt8)}
    (nonempty : ∀ segment ∈ segments, segment ≠ []) {more : List UInt8}
    (flight : segments.flatten = changeCipherSpec ++ sealRecord key iv 0 fin ++ more) :
    ∃ rest left, left <:+ segments ∧ rest ++ left.flatten = more ∧
      readClientFinished ⟨key, iv⟩ [] segments = (.ok rest, left) := by
  obtain ⟨afterCcs, left, suffix, after, skipped⟩ := readClientFinished_fill ⟨key, iv⟩ wholeRecord_changeCipherSpec nonempty
    (show [] ++ segments.flatten = changeCipherSpec ++ (sealRecord key iv 0 fin ++ more) by
      rw [List.nil_append, flight, List.append_assoc])
  rw [readClientFinished_of_record ⟨key, iv⟩ wholeRecord_changeCipherSpec, finishedRecord_changeCipherSpec] at skipped
  obtain ⟨rest, left', suffix', after', stopped⟩ := readClientFinished_fill ⟨key, iv⟩ (wholeRecord_sealRecord key iv 0 fin)
    (fun segment member => nonempty segment (suffix.subset member)) after
  rw [readClientFinished_of_record ⟨key, iv⟩ (wholeRecord_sealRecord key iv 0 fin), finishedRecord_sealed typed first]
    at stopped
  exact ⟨rest, left', suffix'.trans suffix, after', skipped.trans stopped⟩

end Finished

/-! ### `perform` -/

/-- Primitives whose standard Base64 decodes every key to 32 zero bytes, whose
URL-safe Base64 decodes nothing, and whose HMAC is 32 zero bytes: a session id
of eight zero bytes carries their mark. -/
def AuthPrimitives.clear : AuthPrimitives :=
  ⟨fun _ => some (List.replicate 32 0), fun _ => none, fun _ _ => Octets.ofList 32 []⟩

def TlsKeys.clear : TlsKeys := ⟨Aead.clear, Aead.clear, Octets.ofList 12 [], Octets.ofList 12 [], [], []⟩

def HandshakeSuite.clear : HandshakeSuite where
  authPrimitives := AuthPrimitives.clear
  publicKey := List.replicate 32 0
  diffieHellman _ := []
  serverRandom := Octets.ofList 32 []
  sha256 := id
  deriveHandshakeKeys _ _ := (TlsKeys.clear, [])
  deriveApplicationKeys _ _ := TlsKeys.clear
  calculateVerifyData _ _ := List.replicate 32 0

/-- A ClientHello with the given session id, TLS_AES_128_GCM_SHA256, and one
extension: a key_share with an X25519 key of 32 bytes 9. -/
def sampleClientHello (sessionId : List UInt8) : List UInt8 :=
  [1, 0, 0, 0, 3, 3] ++ List.replicate 32 0 ++ [UInt8.ofNat sessionId.length] ++ sessionId ++
    [0, 2, 0x13, 0x01, 1, 0, 0, 42] ++ [0, 0x33, 0, 38, 0, 36, 0, 0x1d, 0, 32] ++ List.replicate 32 9

def sampleHello (sessionId : List UInt8) : ClientHello :=
  ⟨0x0303, Octets.ofList 32 [], sessionId, [0x1301], [0], [⟨0x0033, [0, 36, 0, 0x1d, 0, 32] ++ List.replicate 32 9⟩],
    sampleClientHello sessionId⟩

section Perform

variable (handshake : RealityHandshake) (suite : HandshakeSuite)

theorem fallbackRecord_eq (clientHello : List UInt8) :
    fallbackRecord clientHello = TlsRecord.encode ⟨.handshake, 0x0303, clientHello⟩ := by
  have versioned : BigEndian.bytes 2 (0x0303 : UInt16).toNat = [0x03, 0x03] := by decide
  rw [fallbackRecord, TlsRecord.encode, versioned]
  rfl

theorem perform_of_hello {reads left : List (List UInt8)} {clientHello : ClientHello} {clientHelloRaw : List UInt8}
    (read : readClientHelloLeaving [] reads = (.ok (.ok (clientHello, clientHelloRaw)), left)) {auth : RealityAuth}
    (accepted : RealityAuth.new suite.authPrimitives handshake.privateKey = .ok auth) :
    handshake.perform suite reads =
      .ok (if auth.verifyClientAuth suite.authPrimitives clientHello.random clientHello.sessionId then
        handshake.respond suite clientHello clientHelloRaw left
      else (.fallback handshake.dest (fallbackRecord clientHelloRaw), [], left)) := by
  simp only [RealityHandshake.perform, read, accepted, bind, Except.bind]
  split <;> rfl

/-- However a well-formed ClientHello record arrives, `perform` reads it back
exactly and decides on the random and session id the client sent: the REALITY
response is given the parsed hello and its message, a fallback sends that
message on, and the reads after the one that completed the record are left. -/
theorem perform_helloRecord (record : Tls.HelloRecord) (even : record.hello.cipherSuites.length % 2 = 0)
    {front : List (List UInt8)} (nonempty : ∀ segment ∈ front, segment ≠ []) {last tail : List UInt8}
    (arrived : last ≠ []) (joined : front.flatten ++ last = record.encode ++ tail)
    (unfinished : front.flatten.length < record.encode.length) (later : List (List UInt8)) {auth : RealityAuth}
    (accepted : RealityAuth.new suite.authPrimitives handshake.privateKey = .ok auth) :
    handshake.perform suite (front ++ last :: later) =
      .ok (if auth.verifyClientAuth suite.authPrimitives record.hello.random record.hello.sessionId then
          handshake.respond suite (.ofWellFormed record.hello record.hello.message) record.hello.message later
        else (.fallback handshake.dest (fallbackRecord record.hello.message), [], later)) := by
  rw [helloRecord_encode_eq] at joined unfinished
  have read := readClientHelloLeaving_record rfl record.fits nonempty arrived
    (show [] ++ front.flatten ++ last = _ ++ tail by rw [List.nil_append, joined])
    (by rw [List.nil_append]; exact unfinished) later
  have parsed := ClientHello.parse_message record.hello even []
  rw [List.append_nil] at parsed
  simp only [parsed, Except.map] at read
  exact perform_of_hello handshake suite read accepted

def bareHelloRecord : Tls.HelloRecord :=
  ⟨3, 1, ⟨Octets.ofList 2 [3, 3], Octets.ofList 32 [], [], [0x13, 0x01], [0], [], by decide, by decide, by decide,
    by decide, by decide⟩, by decide⟩

theorem perform_helloRecord_bare :
    RealityHandshake.perform ⟨"", "dest"⟩ HandshakeSuite.clear ([] ++ bareHelloRecord.encode :: [[5]]) =
      .ok (if RealityAuth.verifyClientAuth AuthPrimitives.clear ⟨List.replicate 32 0, by simp⟩
            bareHelloRecord.hello.random bareHelloRecord.hello.sessionId then
          RealityHandshake.respond ⟨"", "dest"⟩ HandshakeSuite.clear
            (.ofWellFormed bareHelloRecord.hello bareHelloRecord.hello.message) bareHelloRecord.hello.message [[5]]
        else (.fallback "dest" (fallbackRecord bareHelloRecord.hello.message), [], [[5]])) :=
  perform_helloRecord ⟨"", "dest"⟩ HandshakeSuite.clear bareHelloRecord (by decide) (by simp)
    (by simp [Tls.HelloRecord.encode])
    (show ([] : List (List UInt8)).flatten ++ bareHelloRecord.encode = bareHelloRecord.encode ++ [] by simp)
    (by simp [Tls.HelloRecord.encode]) [[5]] rfl

/-- A client without the mark whose first record is a well-formed ClientHello is
handed to the destination, and nothing is written to it. The destination is sent
the ClientHello framed again, at version 0x0303 whatever the client's record
said, and then what the client sends in the reads after; what came in the same
read after the ClientHello's record is never sent on. -/
theorem perform_fallback {record : TlsRecord} (typed : record.contentType = .handshake)
    (small : record.payload.length < 65536) {front : List (List UInt8)} (nonempty : ∀ segment ∈ front, segment ≠ [])
    {last tail : List UInt8} (arrived : last ≠ []) (joined : front.flatten ++ last = record.encode ++ tail)
    (unfinished : front.flatten.length < record.encode.length) {clientHello : ClientHello}
    (parsed : ClientHello.parse record.payload = .ok (.ok clientHello)) {auth : RealityAuth}
    (accepted : RealityAuth.new suite.authPrimitives handshake.privateKey = .ok auth)
    (unmarked : auth.verifyClientAuth suite.authPrimitives clientHello.random clientHello.sessionId = false)
    (later : List (List UInt8)) :
    handshake.perform suite (front ++ last :: later) =
      .ok (.fallback handshake.dest (TlsRecord.encode ⟨.handshake, 0x0303, record.payload⟩), [], later) := by
  have read := readClientHelloLeaving_record typed small nonempty arrived
    (show [] ++ front.flatten ++ last = record.encode ++ tail by rw [List.nil_append, joined])
    (show ([] ++ front.flatten).length < record.encode.length by rw [List.nil_append]; exact unfinished) later
  rw [parsed] at read
  rw [perform_of_hello handshake suite read accepted, unmarked, fallbackRecord_eq]
  rfl

theorem perform_fallback_unmarked :
    RealityHandshake.perform ⟨"", "dest"⟩ HandshakeSuite.clear
        ([] ++ (TlsRecord.encode ⟨.handshake, 0x0301, sampleClientHello []⟩ ++ [7, 7]) :: [[5]]) =
      .ok (.fallback "dest" (TlsRecord.encode ⟨.handshake, 0x0303, sampleClientHello []⟩), [], [[5]]) :=
  @perform_fallback ⟨"", "dest"⟩ HandshakeSuite.clear ⟨.handshake, 0x0301, sampleClientHello []⟩ rfl (by decide) []
    (by simp) (TlsRecord.encode ⟨.handshake, 0x0301, sampleClientHello []⟩ ++ [7, 7]) [7, 7] (by simp) (by simp)
    (by simp [TlsRecord.length_encode]) (sampleHello []) (by decide +kernel) ⟨List.replicate 32 0, by simp⟩ rfl rfl
    [[5]]

/-- A REALITY client that completes the handshake as TLS 1.3 has it, whatever
reads its bytes arrive in, gets a stream that reads exactly the application
data it sealed after its Finished; the server has written it the marked
ServerHello, a ChangeCipherSpec and its encrypted flight, and nothing else. The
client's Finished is not checked past its first byte. -/
theorem perform_established {record : TlsRecord} (typed : record.contentType = .handshake)
    (small : record.payload.length < 65536) {helloReads : List (List UInt8)}
    (helloNonempty : ∀ segment ∈ helloReads, segment ≠ []) (hello : helloReads.flatten = record.encode)
    {clientHello : ClientHello} (parsed : ClientHello.parse record.payload = .ok (.ok clientHello))
    {auth : RealityAuth} (accepted : RealityAuth.new suite.authPrimitives handshake.privateKey = .ok auth)
    (marked : auth.verifyClientAuth suite.authPrimitives clientHello.random clientHello.sessionId = true)
    {share : List UInt8} (keyShare : clientHello.getKeyShare = some share) (sized : share.length = 32)
    {serverHello : ServerHello}
    (built : serverHello = ServerHello.newReality clientHello.sessionId
      (auth.injectAuthIntoRandom suite.authPrimitives suite.serverRandom clientHello.random) suite.publicKey)
    {hsKeys : TlsKeys} {handshakeSecret : List UInt8}
    (keyed : suite.deriveHandshakeKeys (suite.diffieHellman (Octets.ofList 32 share))
      (suite.hashTranscript [record.payload, serverHello.rawData]) = (hsKeys, handshakeSecret))
    {verifyData : List UInt8}
    (verified : suite.calculateVerifyData hsKeys.serverTrafficSecret
      (suite.hashTranscript [record.payload, serverHello.rawData, encryptedExtensions, certificateMessage]) = verifyData)
    {appKeys : TlsKeys}
    (derived : suite.deriveApplicationKeys handshakeSecret (suite.hashTranscript
      [record.payload, serverHello.rawData, encryptedExtensions, certificateMessage, finishedMessage verifyData]) = appKeys)
    {fin : InnerPlaintext} (finished : fin.contentType = 22) (first : fin.content.head? = some 20)
    {records : List InnerPlaintext} {finishReads : List (List UInt8)}
    (finishNonempty : ∀ segment ∈ finishReads, segment ≠ [])
    (flight : finishReads.flatten = changeCipherSpec ++ sealRecord hsKeys.clientWriteKey hsKeys.clientIv 0 fin ++
      sealRecords appKeys.clientWriteKey appKeys.clientIv 0 records) :
    ∃ stream : SealedStream appKeys.clientWriteKey appKeys.clientIv,
      handshake.perform suite (helloReads ++ finishReads) =
        .ok (.established appKeys stream.half, serverHello.encode ++ changeCipherSpec ++
          encryptServerRecord hsKeys.server 0 (encryptedExtensions ++ certificateMessage ++ finishedMessage verifyData) 22,
          stream.incoming.segments) ∧
      ∀ capacity, 0 < capacity → ((SealedStream.reader _ _).drain capacity stream).flatten = appData records := by
  obtain ⟨front, last, split⟩ : ∃ front last, helloReads = front ++ [last] := by
    rcases List.eq_nil_or_concat helloReads with empty | ⟨front, last, split⟩
    case inl =>
      have sized := congrArg List.length hello
      rw [empty, List.flatten_nil, List.length_nil, TlsRecord.length_encode] at sized
      omega
    case inr => exact ⟨front, last, by rw [split, List.concat_eq_append]⟩
  subst split
  have arrived : last ≠ [] := helloNonempty last (by simp)
  have unfinished : front.flatten.length < record.encode.length := by
    rw [← hello, List.flatten_append, List.length_append]
    simpa [List.length_pos_iff] using arrived
  have read := readClientHelloLeaving_record typed small (fun segment member => helloNonempty segment (by simp [member]))
    arrived (show [] ++ front.flatten ++ last = record.encode ++ [] by simpa using hello)
    (show ([] ++ front.flatten).length < record.encode.length by rw [List.nil_append]; exact unfinished) finishReads
  rw [parsed] at read
  obtain ⟨rest, left, suffix, sealed, finishedRead⟩ := readClientFinished_flight finished first finishNonempty flight
  have modified : (ServerHello.newReality clientHello.sessionId suite.serverRandom suite.publicKey).modifyForReality
      suite.authPrimitives handshake.privateKey clientHello.random = .ok serverHello := by
    rw [built]
    exact modifyForReality_newReality suite.authPrimitives accepted _ _ _ _
  let stream : SealedStream appKeys.clientWriteKey appKeys.clientIv :=
    ⟨.initial rest, ⟨left, fun segment member => finishNonempty segment (suffix.subset member)⟩, records, sealed⟩
  refine ⟨stream, ?_, fun capacity positive => ?_⟩
  case refine_1 =>
    rw [List.append_assoc, List.singleton_append, perform_of_hello handshake suite read accepted, if_pos marked]
    simp only [RealityHandshake.respond, keyShare, sized, ne_eq, not_true_eq_false, if_false, modified,
      ServerHello.handshakePayload, keyed, verified, TlsKeys.client, finishedRead, derived]
    rfl
  case refine_2 =>
    rw [(SealedStream.reader _ _).flatten_drain positive]
    simp [SealedStream.reader, SealedStream.rest, stream, ReadHalf.initial]

theorem perform_established_clear :
    ∃ stream : SealedStream Aead.clear (Octets.ofList 12 []),
      RealityHandshake.perform ⟨"", ""⟩ HandshakeSuite.clear
          ([TlsRecord.encode ⟨.handshake, 0x0301, sampleClientHello (List.replicate 8 0)⟩] ++
            [changeCipherSpec ++ sealRecord Aead.clear (Octets.ofList 12 []) 0 ⟨[20, 0, 0, 0], 22, 0, by decide, by decide⟩ ++
              sealRecords Aead.clear (Octets.ofList 12 []) 0 [⟨[1, 2, 3], 23, 0, by decide, by decide⟩]]) =
        .ok (.established TlsKeys.clear stream.half,
          (ServerHello.newReality (List.replicate 8 0)
            (RealityAuth.injectAuthIntoRandom AuthPrimitives.clear ⟨List.replicate 32 0, by simp⟩ (Octets.ofList 32 [])
              (Octets.ofList 32 [])) (List.replicate 32 0)).encode ++ changeCipherSpec ++
            encryptServerRecord TlsKeys.clear.server 0
              (encryptedExtensions ++ certificateMessage ++ finishedMessage (List.replicate 32 0)) 22,
          stream.incoming.segments) ∧
      ∀ capacity, 0 < capacity → ((SealedStream.reader _ _).drain capacity stream).flatten =
        appData [⟨[1, 2, 3], 23, 0, by decide, by decide⟩] :=
  @perform_established ⟨"", ""⟩ HandshakeSuite.clear ⟨.handshake, 0x0301, sampleClientHello (List.replicate 8 0)⟩ rfl
    (by decide) [TlsRecord.encode ⟨.handshake, 0x0301, sampleClientHello (List.replicate 8 0)⟩]
    (by simp [TlsRecord.encode]) (by simp)
    (sampleHello (List.replicate 8 0)) (by decide +kernel) ⟨List.replicate 32 0, by simp⟩ rfl (by decide)
    (List.replicate 32 9) (by decide +kernel) (by simp) _ rfl TlsKeys.clear [] rfl (List.replicate 32 0) rfl
    TlsKeys.clear rfl ⟨[20, 0, 0, 0], 22, 0, by decide, by decide⟩ rfl rfl [⟨[1, 2, 3], 23, 0, by decide, by decide⟩]
    _ (by simp [changeCipherSpec]) (by simp [TlsKeys.clear])

end Perform

end XrayLite.Reality
