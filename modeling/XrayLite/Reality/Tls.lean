import XrayLite.Lib.Slice
import XrayLite.Lib.ClientHello

/-! The TLS record and ClientHello parsing of `src/transport/reality/tls.rs`, and
`RealityHandshake::read_client_hello` (`handshake.rs`), which runs it on the first
bytes of every connection.

`ClientHello::parse` moves a `std::io::Cursor` over the message with
`set_position` and `copy_to_slice`, and indexes the message directly for the two
one-byte lengths. None of these reads is checked first, so each is modelled as
able to panic.
-/

set_option autoImplicit false

namespace XrayLite.Reality

inductive ContentType where
  | changeCipherSpec
  | alert
  | handshake
  | applicationData
  deriving DecidableEq, Repr

inductive TlsError where
  -- "Unknown content type: {}"
  | unknownContentType (value : UInt8)
  -- "Not a ClientHello message"
  | notClientHello
  -- "EOF reading CH"
  | eofReadingHello
  deriving DecidableEq, Repr

def ContentType.fromU8 : UInt8 → Except TlsError ContentType
  | 20 => .ok .changeCipherSpec
  | 21 => .ok .alert
  | 22 => .ok .handshake
  | 23 => .ok .applicationData
  | value => .error (.unknownContentType value)

def ContentType.toU8 : ContentType → UInt8
  | .changeCipherSpec => 20
  | .alert => 21
  | .handshake => 22
  | .applicationData => 23

structure TlsRecord where
  contentType : ContentType
  version : UInt16
  payload : List UInt8
  deriving DecidableEq, Repr

/-- `TlsRecord::parse`: the record at the front of `buf`, and what `buf` holds
after it; `none` while the record is not all there. -/
def TlsRecord.parse (buf : List UInt8) : Except Panic (Except TlsError (Option (TlsRecord × List UInt8))) := do
  if buf.length < 5 then return .ok none
  match ContentType.fromU8 (← Slice.index buf 0) with
  | .error error => return .error error
  | .ok contentType =>
    let version := UInt16.ofNat (BigEndian.value [← Slice.index buf 1, ← Slice.index buf 2])
    let length := BigEndian.value [← Slice.index buf 3, ← Slice.index buf 4]
    if buf.length < 5 + length then return .ok none
    let afterHeader ← Buf.advance buf 5
    -- `split_to(length)`
    let payload ← Slice.range afterHeader.1 0 length
    return .ok (some (⟨contentType, version, payload⟩, afterHeader.1.drop length))

def TlsRecord.encode (record : TlsRecord) : List UInt8 :=
  record.contentType.toU8 :: BigEndian.bytes 2 record.version.toNat ++
    BigEndian.bytes 2 (record.payload.length % 65536) ++ record.payload

structure Extension where
  extensionType : UInt16
  data : List UInt8
  deriving DecidableEq, Repr

def Extension.parseAllFrom (data : List UInt8) (pos : Nat) : Except Panic (List Extension) :=
  if pos < data.length then do
    let typeBytes ← Cursor.copyToSlice data pos 2
    let lenBytes ← Cursor.copyToSlice data (pos + 2) 2
    let length := BigEndian.value lenBytes
    let extData ← Cursor.copyToSlice data (pos + 4) length
    let extensions ← parseAllFrom data (pos + 4 + length)
    pure (⟨UInt16.ofNat (BigEndian.value typeBytes), extData⟩ :: extensions)
  else pure []
termination_by data.length - pos

def Extension.parseAll (data : List UInt8) : Except Panic (Except TlsError (List Extension)) :=
  .ok <$> Extension.parseAllFrom data 0

structure ClientHello where
  version : UInt16
  random : Octets 32
  sessionId : List UInt8
  cipherSuites : List UInt16
  compressionMethods : List UInt8
  extensions : List Extension
  rawData : List UInt8
  deriving DecidableEq, Repr

def readCipherSuites (data : List UInt8) (pos : Nat) : Nat → Except Panic (List UInt16)
  | 0 => pure []
  | count + 1 => do
    let suiteBytes ← Cursor.copyToSlice data pos 2
    let suites ← readCipherSuites data (pos + 2) count
    pure (UInt16.ofNat (BigEndian.value suiteBytes) :: suites)

/-- `ClientHello::parse`. The cursor's position is written out: each
`copy_to_slice(n)` moves it on by `n`. -/
def ClientHello.parse (data : List UInt8) : Except Panic (Except TlsError ClientHello) := do
  let handshakeType ← Slice.index data 0
  if handshakeType ≠ 1 then return .error .notClientHello
  -- `set_position(4)`: past the type and the three length bytes
  let versionBytes ← Cursor.copyToSlice data 4 2
  let random ← Cursor.copyToSlice data 6 32
  let sessionIdLen ← Slice.index data 38
  let sessionId ← Cursor.copyToSlice data 39 sessionIdLen.toNat
  let pos := 39 + sessionIdLen.toNat
  let cipherSuitesLen := BigEndian.value (← Cursor.copyToSlice data pos 2)
  let cipherSuites ← readCipherSuites data (pos + 2) (cipherSuitesLen / 2)
  let pos := pos + 2 + 2 * (cipherSuitesLen / 2)
  let compressionMethodsLen ← Slice.index data pos
  let compressionMethods ← Cursor.copyToSlice data (pos + 1) compressionMethodsLen.toNat
  let pos := pos + 1 + compressionMethodsLen.toNat
  let extensions ←
    if pos < data.length then do
      let extensionsLen := BigEndian.value (← Cursor.copyToSlice data pos 2)
      let extensionsData ← Slice.range data (pos + 2) (pos + 2 + extensionsLen)
      Extension.parseAll extensionsData
    else pure (.ok [])
  return extensions.map fun extensions =>
    ⟨UInt16.ofNat (BigEndian.value versionBytes), Octets.ofList 32 random, sessionId, cipherSuites,
      compressionMethods, extensions, data⟩

/-- `read_client_hello` on a stream that delivers `reads` in turn and then ends:
after each read, the first record of all that has come is parsed again, and the
first handshake record is taken for the ClientHello. -/
def readClientHello (buf : List UInt8) : List (List UInt8) → Except Panic (Except TlsError (ClientHello × List UInt8))
  | [] => pure (.error .eofReadingHello)
  | chunk :: reads =>
    -- a read of no bytes is the end of the stream
    if chunk = [] then pure (.error .eofReadingHello)
    else do
      let buf := buf ++ chunk
      match ← TlsRecord.parse buf with
      | .error error => return .error error
      | .ok (some (record, _)) =>
        if record.contentType = .handshake then
          return (← ClientHello.parse record.payload).map fun hello => (hello, record.payload)
        else readClientHello buf reads
      | .ok none => readClientHello buf reads

/-! ### Records -/

theorem TlsRecord.parse_of_complete {contentType : ContentType} (typeByte major minor hi lo : UInt8)
    (rest : List UInt8) (known : ContentType.fromU8 typeByte = .ok contentType)
    (complete : BigEndian.value [hi, lo] ≤ rest.length) :
    TlsRecord.parse (typeByte :: major :: minor :: hi :: lo :: rest) =
      .ok (.ok (some (⟨contentType, UInt16.ofNat (BigEndian.value [major, minor]), rest.take (BigEndian.value [hi, lo])⟩,
        rest.drop (BigEndian.value [hi, lo])))) := by
  unfold TlsRecord.parse
  simp only [List.length_cons, Slice.index, List.getElem?_cons_zero, List.getElem?_cons_succ, bind, Except.bind,
    known, Buf.advance_of_le (show 5 ≤ (typeByte :: major :: minor :: hi :: lo :: rest).length by simp)]
  rw [if_neg (by omega), if_neg (by omega)]
  simp [Slice.range_zero_of_le complete, pure, Except.pure]

/-- A client that opens with a handshake record of length 0, whatever its version
bytes and whatever it sends after them, makes `read_client_hello` panic: the
record's payload is empty, and `ClientHello::parse` reads `data[0]` of it. -/
theorem readClientHello_empty_record_panics (major minor : UInt8) (rest : List UInt8) (reads : List (List UInt8)) :
    readClientHello [] ((0x16 :: major :: minor :: 0 :: 0 :: rest) :: reads) = .error .outOfBounds := by
  have empty : BigEndian.value [0, 0] = 0 := rfl
  have parsed := TlsRecord.parse_of_complete 0x16 major minor 0 0 rest rfl (Nat.zero_le rest.length)
  have unread : ClientHello.parse [] = .error .outOfBounds := rfl
  simp only [readClientHello, List.nil_append, reduceCtorEq, if_false, bind, Except.bind, parsed, if_true, empty,
    List.take_zero, unread]

/-! ### Well-formed hellos

`ClientHello::parse` reads back every ClientHello laid out as `Tls.ClientHello`
has it, when its cipher suites fill whole pairs: with an odd number of bytes the
loop reads one pair fewer than the bytes hold, and the position it moves to is
then one byte short of the compression methods. -/

section WellFormed

open BigEndian

def cipherSuitePairs : List UInt8 → List UInt16
  | hi :: lo :: rest => UInt16.ofNat (BigEndian.value [hi, lo]) :: cipherSuitePairs rest
  | _ => []

def rawExtension (extension : Tls.Extension) : Extension := ⟨extension.extType, extension.data⟩

theorem readCipherSuites_of_drop_eq {data rest : List UInt8} (suites : List UInt8) {pos : Nat}
    (layout : data.drop pos = suites ++ rest) (even : suites.length % 2 = 0) :
    readCipherSuites data pos (suites.length / 2) = .ok (cipherSuitePairs suites) := by
  induction suites using cipherSuitePairs.induct generalizing pos with
  | case1 hi lo suites ih =>
    have pair : data.drop pos = [hi, lo] ++ (suites ++ rest) := layout
    have count : (hi :: lo :: suites).length / 2 = suites.length / 2 + 1 := by simp; omega
    rw [count, readCipherSuites, @Cursor.copyToSlice_of_drop_eq _ data [hi, lo] (suites ++ rest) pos 2 pair rfl,
      ih (Slice.drop_of_drop_eq pair (show pos + 2 = pos + [hi, lo].length from rfl)) (by simp at even; omega)]
    rfl
  | case2 suites short =>
    match suites with
    | [] => rfl
    | [_] => simp at even
    | hi :: lo :: suites => exact absurd rfl (short hi lo suites)

theorem parseAllFrom_of_drop_eq {data : List UInt8} (extensions : List Tls.Extension) {pos : Nat}
    (layout : data.drop pos = extensions.flatMap Tls.Extension.encode) :
    Extension.parseAllFrom data pos = .ok (extensions.map rawExtension) := by
  induction extensions generalizing pos with
  | nil =>
    rw [Extension.parseAllFrom, if_neg (by simpa using layout)]
    rfl
  | cons extension extensions ih =>
    have typeField : data.drop pos = bytes 2 extension.extType.toNat ++
        (bytes 2 extension.data.length ++ (extension.data ++ extensions.flatMap Tls.Extension.encode)) := by
      simpa [Tls.Extension.encode] using layout
    have lengthField := Slice.drop_bytes_of_drop_eq typeField
    have dataField := Slice.drop_bytes_of_drop_eq lengthField
    have inside : pos < data.length := by
      have room := Slice.length_sub_of_drop_eq typeField
      simp at room
      omega
    have typeValue : UInt16.ofNat (value (bytes 2 extension.extType.toNat)) = extension.extType := by
      rw [value_bytes 2 _ (UInt16.toNat_lt _), UInt16.ofNat_toNat]
    rw [Extension.parseAllFrom, if_pos inside]
    simp only [Cursor.copyToSlice_of_drop_eq typeField (length_bytes 2 _),
      Cursor.copyToSlice_of_drop_eq lengthField (length_bytes 2 _),
      value_bytes 2 _ extension.length_data_lt,
      Cursor.copyToSlice_of_drop_eq dataField rfl,
      ih (Slice.drop_of_drop_eq dataField rfl), typeValue, bind, Except.bind, pure, Except.pure]
    rfl

/-- The `ClientHello` that `parse` makes of a well-formed one read from `rawData`. -/
def ClientHello.ofWellFormed (hello : Tls.ClientHello) (rawData : List UInt8) : ClientHello :=
  ⟨UInt16.ofNat (value hello.legacyVersion.toList), hello.random, hello.sessionId,
    cipherSuitePairs hello.cipherSuites, hello.compressionMethods, hello.extensions.map rawExtension, rawData⟩

theorem ClientHello.parse_message (hello : Tls.ClientHello) (even : hello.cipherSuites.length % 2 = 0)
    (rest : List UInt8) :
    ClientHello.parse (hello.message ++ rest) = .ok (.ok (.ofWellFormed hello (hello.message ++ rest))) := by
  have sessionIdLength : (UInt8.ofNat hello.sessionId.length).toNat = hello.sessionId.length := by
    have := hello.sessionIdFits
    rw [UInt8.toNat_ofNat']
    omega
  have compressionLength : (UInt8.ofNat hello.compressionMethods.length).toNat = hello.compressionMethods.length := by
    have := hello.compressionMethodsFit
    rw [UInt8.toNat_ofNat']
    omega
  have atVersion : (hello.message ++ rest).drop 4 = hello.legacyVersion.toList ++ (hello.random.toList ++
      (UInt8.ofNat hello.sessionId.length :: (hello.sessionId ++ (bytes 2 hello.cipherSuites.length ++
        (hello.cipherSuites ++ (UInt8.ofNat hello.compressionMethods.length :: (hello.compressionMethods ++
          (bytes 2 hello.extensionBytes.length ++ (hello.extensionBytes ++ rest))))))))) := by
    simp [Tls.ClientHello.message, Tls.ClientHello.body]
  have atRandom := Slice.drop_of_drop_eq atVersion (show 6 = 4 + hello.legacyVersion.toList.length by simp)
  have atSessionIdLength := Slice.drop_of_drop_eq atRandom (show 38 = 6 + hello.random.toList.length by simp)
  have atSessionId := Slice.drop_succ_of_drop_eq atSessionIdLength
  have atSuitesLength := Slice.drop_of_drop_eq atSessionId
    (show 39 + hello.sessionId.length = 38 + 1 + hello.sessionId.length by omega)
  have atSuites := Slice.drop_bytes_of_drop_eq atSuitesLength
  have atCompressionLength := Slice.drop_of_drop_eq atSuites
    (show 39 + hello.sessionId.length + 2 + 2 * (hello.cipherSuites.length / 2) =
      39 + hello.sessionId.length + 2 + hello.cipherSuites.length by omega)
  have atCompression := Slice.drop_succ_of_drop_eq atCompressionLength
  have atExtensionsLength := Slice.drop_of_drop_eq atCompression
    (show 39 + hello.sessionId.length + 2 + 2 * (hello.cipherSuites.length / 2) + 1 +
        hello.compressionMethods.length =
      39 + hello.sessionId.length + 2 + 2 * (hello.cipherSuites.length / 2) + 1 +
        hello.compressionMethods.length by rfl)
  have atExtensions := Slice.drop_bytes_of_drop_eq atExtensionsLength
  have typed : Slice.index (hello.message ++ rest) 0 = .ok 1 := by simp [Slice.index, Tls.ClientHello.message]
  have extensionsStart : 39 + hello.sessionId.length + 2 + 2 * (hello.cipherSuites.length / 2) + 1 +
      hello.compressionMethods.length + 2 ≤ (hello.message ++ rest).length := by
    have room := Slice.length_sub_of_drop_eq atExtensionsLength
    simp only [List.length_append, length_bytes] at room ⊢
    omega
  have extensionsInside : 39 + hello.sessionId.length + 2 + 2 * (hello.cipherSuites.length / 2) + 1 +
      hello.compressionMethods.length < (hello.message ++ rest).length := by
    omega
  have parsed : Extension.parseAllFrom hello.extensionBytes 0 = .ok (hello.extensions.map rawExtension) :=
    parseAllFrom_of_drop_eq _ (by rw [List.drop_zero]; rfl)
  simp only [ClientHello.parse, typed, bind, Except.bind, ne_eq, not_true_eq_false, if_false,
    Cursor.copyToSlice_of_drop_eq atVersion hello.legacyVersion.length_eq,
    Cursor.copyToSlice_of_drop_eq atRandom hello.random.length_eq,
    Slice.index_of_drop_eq atSessionIdLength, sessionIdLength,
    Cursor.copyToSlice_of_drop_eq atSessionId rfl,
    Cursor.copyToSlice_of_drop_eq atSuitesLength (length_bytes 2 _), value_bytes 2 _ hello.cipherSuitesFit,
    readCipherSuites_of_drop_eq _ atSuites even,
    Slice.index_of_drop_eq atCompressionLength, compressionLength,
    Cursor.copyToSlice_of_drop_eq atCompression rfl, if_pos extensionsInside,
    Cursor.copyToSlice_of_drop_eq atExtensionsLength (length_bytes 2 _), value_bytes 2 _ (show hello.extensionBytes.length < 65536 from hello.extensionsFit),
    Slice.range_of_drop_eq atExtensions extensionsStart, Extension.parseAll, parsed, Octets.ofList_toList]
  rfl
theorem helloRecord_encode_eq (record : Tls.HelloRecord) :
    record.encode =
      TlsRecord.encode ⟨.handshake, UInt16.ofNat (value [record.major, record.minor]), record.hello.message⟩ := by
  have versionSmall : value [record.major, record.minor] < 65536 := by
    simpa using value_lt [record.major, record.minor]
  have version : bytes 2 (value [record.major, record.minor] % 65536) = [record.major, record.minor] := by
    rw [Nat.mod_eq_of_lt versionSmall]
    exact bytes_value [record.major, record.minor]
  have lengthSmall : record.hello.message.length % 65536 = record.hello.message.length :=
    Nat.mod_eq_of_lt record.fits
  simp [Tls.HelloRecord.encode, TlsRecord.encode, version, lengthSmall, ContentType.toU8]

end WellFormed

end XrayLite.Reality
