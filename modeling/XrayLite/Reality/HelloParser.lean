import XrayLite.Reality.ServerRustls
import XrayLite.Lib.ClientHello
import XrayLite.Protocol.Sniffer

/-! `hello_parser::parse_client_hello` in `src/transport/reality/hello_parser.rs`: the
Reality pre-check reads the session id, the client random, the X25519 key share and
the server name out of a buffered TLS record.

The parser walks a `bytes::Buf` cursor over the slice. Every `get_*`,
`advance` and `copy_to_slice` is guarded by a length check before it, so none of them
can panic; a cursor is the list of the bytes it has left. `Ok(None)` means the
buffer is no ClientHello, or not all of it yet, and the caller falls back.
-/

set_option autoImplicit false

namespace XrayLite.Reality

-- `Buf::get_u16`: two bytes, big-endian
def be16 (bytes : List UInt8) : Nat := BigEndian.value (bytes.take 2)

def scanServerNames (list : List UInt8) (serverName : Option String) : Option String :=
  -- the loop also ends once fewer than 3 bytes are left, none included
  if list.length < 3 then serverName
  else
    let nameType := list.getD 0 0
    let nameLen := be16 (list.drop 1)
    if (list.drop 3).length < nameLen then serverName
    else if nameType = 0x00 then
      match Utf8.decode ((list.drop 3).take nameLen) with
      | some name => some name
      | none => serverName
    else scanServerNames ((list.drop 3).drop nameLen) serverName
termination_by list.length
decreasing_by simp only [List.length_drop]; omega

-- the SNI extension: a list length, then the list
def sniExtension (extData : List UInt8) (serverName : Option String) : Option String :=
  if extData.length ≥ 2 then
    let listLen := be16 extData
    if (extData.drop 2).length ≥ listLen then scanServerNames ((extData.drop 2).take listLen) serverName
    else serverName
  else serverName

def scanKeyShares (shares : List UInt8) (publicKey : Option (List UInt8)) : Option (List UInt8) :=
  if shares.length < 4 then publicKey
  else
    let group := be16 shares
    let keyLen := be16 (shares.drop 2)
    if (shares.drop 4).length < keyLen then publicKey
    else if group = 0x001d ∧ keyLen = 32 then some ((shares.drop 4).take 32)
    else scanKeyShares ((shares.drop 4).drop keyLen) publicKey
termination_by shares.length
decreasing_by simp only [List.length_drop]; omega

-- the key share extension; `none` where the code says `continue`
def keyShareExtension (extData : List UInt8) (publicKey : Option (List UInt8)) : Option (Option (List UInt8)) :=
  if extData.length < 2 then none
  else
    let sharesLen := be16 extData
    if (extData.drop 2).length < sharesLen then none
    else some (scanKeyShares ((extData.drop 2).take sharesLen) publicKey)

/-- The extension loop; it stops once both the key and the name are found. -/
def scanExtensions (extensions : List UInt8) (publicKey : Option (List UInt8)) (serverName : Option String) :
    Option (List UInt8) × Option String :=
  if extensions.length < 4 then (publicKey, serverName)
  else
    let extType := be16 extensions
    let extLen := be16 (extensions.drop 2)
    if (extensions.drop 4).length < extLen then (publicKey, serverName)
    else
      let extData := (extensions.drop 4).take extLen
      let next := (extensions.drop 4).drop extLen
      let serverName := if extType = 0x0000 then sniExtension extData serverName else serverName
      match (if extType = 0x0033 then keyShareExtension extData publicKey else some publicKey) with
      -- `continue` skips the check at the end of the loop body
      | none => scanExtensions next publicKey serverName
      | some publicKey =>
        if publicKey.isSome ∧ serverName.isSome then (publicKey, serverName)
        else scanExtensions next publicKey serverName
termination_by extensions.length
decreasing_by all_goals simp only [List.length_drop]; omega

def parseClientHello (buf : List UInt8) : Except String (Option ClientHelloInfo) := do
  -- not a TLS handshake record
  if buf.length < 5 ∨ buf.getD 0 0 ≠ 0x16 then return none
  let recordLen := be16 (buf.drop 3)
  -- the record is not all there
  if buf.length < 5 + recordLen then return none
  -- the cursor runs over all of `buf[5..]`, not only the record
  let cursor := buf.drop 5
  if cursor.length < 4 then throw "Short buffer"
  -- 0x01 is ClientHello
  if cursor.getD 0 0 ≠ 0x01 then return none
  -- the type and the three bytes of the handshake length
  let cursor := cursor.drop 4
  if cursor.length < 2 then throw "Short buffer for Version"
  let cursor := cursor.drop 2
  if cursor.length < 32 then throw "Short buffer for Random"
  let clientRandom := Octets.ofList 32 cursor
  let cursor := cursor.drop 32
  if cursor.length < 1 then throw "Short buffer for Session ID Len"
  let sessionIdLen := (cursor.getD 0 0).toNat
  let cursor := cursor.drop 1
  if cursor.length < sessionIdLen then throw "Short buffer for Session ID"
  let sessionId := cursor.take sessionIdLen
  let cursor := cursor.drop sessionIdLen
  if cursor.length < 2 then throw "Short buffer for Cipher Suites Len"
  let cipherSuitesLen := be16 cursor
  let cursor := cursor.drop 2
  if cursor.length < cipherSuitesLen then throw "Short buffer for Cipher Suites"
  let cursor := cursor.drop cipherSuitesLen
  if cursor.length < 1 then throw "Short buffer for Compression Methods Len"
  let compressionMethodsLen := (cursor.getD 0 0).toNat
  let cursor := cursor.drop 1
  if cursor.length < compressionMethodsLen then throw "Short buffer for Compression Methods"
  let cursor := cursor.drop compressionMethodsLen
  -- no extensions
  if cursor.length < 2 then return some ⟨sessionId, clientRandom, none, none⟩
  let extensionsLen := be16 cursor
  let cursor := cursor.drop 2
  if cursor.length < extensionsLen then throw "Short buffer for Extensions"
  let (publicKey, serverName) := scanExtensions (cursor.take extensionsLen) none none
  return some ⟨sessionId, clientRandom, publicKey, serverName⟩

/-! ### Well-formed ClientHellos

On a record built from `Tls.HelloRecord`, every length check passes and every
cursor lands on the next field. The extension loop is then the loop body
`extensionStep` run on each extension in turn; with distinct types, that is the
key_share extension's X25519 key and the server_name extension's host name.
-/

section WellFormed

open BigEndian

theorem be16_bytes_append (n : Nat) (small : n < 65536) (rest : List UInt8) : be16 (bytes 2 n ++ rest) = n := by
  simp [be16, value_bytes 2 n (by omega)]

theorem scanServerNames_encode (list : List Tls.ServerName) (serverName : Option String) :
    scanServerNames (list.flatMap Tls.ServerName.encode) serverName =
      ((list.find? (·.nameType == 0)).bind fun entry => Utf8.decode entry.name).or serverName := by
  induction list with
  | nil => simp [scanServerNames]
  | cons entry entries ih =>
    have long : ¬ (entry.encode ++ entries.flatMap Tls.ServerName.encode).length < 3 := by
      simp [Tls.ServerName.encode]
    rw [List.flatMap_cons, scanServerNames, if_neg long]
    simp only [Tls.ServerName.encode, List.cons_append, List.append_assoc, List.getD_cons_zero,
      List.drop_succ_cons, List.drop_zero, be16_bytes_append _ entry.fits, drop_bytes_append, List.take_left,
      List.drop_left, ih, List.find?_cons, List.length_append, if_false,
      Nat.not_lt.mpr (Nat.le_add_right _ _)]
    by_cases host : entry.nameType = 0
    case pos =>
      simp only [host, if_true, beq_self_eq_true, Option.bind_some]
      cases Utf8.decode entry.name <;> rfl
    case neg =>
      have skipped : (entry.nameType == 0) = false := by simpa using host
      simp only [host, if_false, skipped]

theorem scanKeyShares_encode (shares : List Tls.KeyShareEntry) (publicKey : Option (List UInt8)) :
    scanKeyShares (shares.flatMap Tls.KeyShareEntry.encode) publicKey =
      ((shares.find? fun share => share.group == 0x001d && share.keyExchange.length == 32).map
        (·.keyExchange)).or publicKey := by
  induction shares with
  | nil => simp [scanKeyShares]
  | cons share shares ih =>
    have long : ¬ (share.encode ++ shares.flatMap Tls.KeyShareEntry.encode).length < 4 := by
      simp only [Tls.KeyShareEntry.encode, List.length_append, length_bytes]
      omega
    have group : share.group.toNat < 65536 := share.group.toNat_lt
    rw [List.flatMap_cons, scanKeyShares, if_neg long]
    simp only [Tls.KeyShareEntry.encode, List.append_assoc, be16_bytes_append _ group,
      be16_bytes_append _ share.fits, drop_bytes_append, drop_bytes_bytes_append,
      List.drop_left, ih, List.find?_cons, List.length_append, Nat.not_lt.mpr (Nat.le_add_right _ _), if_false]
    have groupNat : share.group.toNat = 29 ↔ share.group = 0x001d := by
      rw [← UInt16.toNat_inj]
      rfl
    by_cases x25519 : share.group = 0x001d ∧ share.keyExchange.length = 32
    case pos =>
      obtain ⟨isX25519, thirtyTwo⟩ := x25519
      have picked : (share.group == 0x001d && share.keyExchange.length == 32) = true := by
        simp [isX25519, thirtyTwo]
      rw [if_pos ⟨groupNat.mpr isX25519, thirtyTwo⟩, picked, ← thirtyTwo, List.take_left]
      rfl
    case neg =>
      have skipped : (share.group == 0x001d && share.keyExchange.length == 32) = false := by
        simpa using x25519
      rw [if_neg (by rwa [groupNat]), skipped]

theorem sniExtension_data (list : List Tls.ServerName) (fits : (list.flatMap Tls.ServerName.encode).length + 2 < 65536)
    (serverName : Option String) :
    sniExtension (Tls.Extension.serverName list fits).data serverName =
      scanServerNames (list.flatMap Tls.ServerName.encode) serverName := by
  have small : (list.flatMap Tls.ServerName.encode).length < 65536 := by omega
  simp only [sniExtension, Tls.Extension.data, be16_bytes_append _ small, drop_bytes_append, List.length_append,
    length_bytes, List.take_length, ge_iff_le, le_refl, Nat.le_add_right, if_true]

theorem keyShareExtension_data (shares : List Tls.KeyShareEntry)
    (fits : (shares.flatMap Tls.KeyShareEntry.encode).length + 2 < 65536) (publicKey : Option (List UInt8)) :
    keyShareExtension (Tls.Extension.keyShare shares fits).data publicKey =
      some (scanKeyShares (shares.flatMap Tls.KeyShareEntry.encode) publicKey) := by
  have small : (shares.flatMap Tls.KeyShareEntry.encode).length < 65536 := by omega
  simp only [keyShareExtension, Tls.Extension.data, be16_bytes_append _ small, drop_bytes_append, List.length_append,
    length_bytes, List.take_length, Nat.lt_irrefl, if_false]
  rw [if_neg (by omega)]

/-- What one turn of the extension loop does with a well-formed extension: a
server_name list or a key_share list may set the name or the key. -/
def extensionStep (found : Option (List UInt8) × Option String) : Tls.Extension → Option (List UInt8) × Option String
  | .serverName list _ =>
    (found.1, ((list.find? (·.nameType == 0)).bind fun entry => Utf8.decode entry.name).or found.2)
  | .keyShare shares _ =>
    (((shares.find? fun share => share.group == 0x001d && share.keyExchange.length == 32).map
      (·.keyExchange)).or found.1, found.2)
  | .other .. => found

theorem foldl_extensionStep_of_absent (extensions : List Tls.Extension) (found : Option (List UInt8) × Option String)
    (absent : ∀ extension ∈ extensions, extension.extType ≠ 0 ∧ extension.extType ≠ 0x33) :
    extensions.foldl extensionStep found = found := by
  induction extensions with
  | nil => rfl
  | cons extension extensions ih =>
    obtain ⟨notName, notKey⟩ := absent extension List.mem_cons_self
    rw [List.foldl_cons]
    cases extension with
    | serverName => exact absurd rfl notName
    | keyShare => exact absurd rfl notKey
    | other => exact ih fun e member => absent e (List.mem_cons_of_mem _ member)

theorem foldl_extensionStep (extensions : List Tls.Extension) (distinct : (extensions.map Tls.Extension.extType).Nodup)
    (found : Option (List UInt8) × Option String) :
    extensions.foldl extensionStep found =
      ((extensions.findSome? Tls.Extension.keyShares?).elim found.1 fun shares =>
          ((shares.find? fun share => share.group == 0x001d && share.keyExchange.length == 32).map
            (·.keyExchange)).or found.1,
        (extensions.findSome? Tls.Extension.serverNames?).elim found.2 fun list =>
          ((list.find? (·.nameType == 0)).bind fun entry => Utf8.decode entry.name).or found.2) := by
  induction extensions generalizing found with
  | nil => rfl
  | cons extension extensions ih =>
    obtain ⟨fresh, distinct⟩ := Tls.Extension.fresh_of_nodup distinct
    rw [List.foldl_cons, ih distinct]
    cases extension with
    | serverName list fits =>
      simp [extensionStep, Tls.findSome?_serverNames?_of_absent fresh, List.findSome?_cons, Tls.Extension.serverNames?,
        Tls.Extension.keyShares?]
    | keyShare shares fits =>
      simp [extensionStep, Tls.findSome?_keyShares?_of_absent fresh, List.findSome?_cons, Tls.Extension.serverNames?,
        Tls.Extension.keyShares?]
    | other => simp [extensionStep, List.findSome?_cons, Tls.Extension.serverNames?, Tls.Extension.keyShares?]

theorem toNat_extType_ne {extType : UInt16} {value : UInt16} (other : extType ≠ value) :
    extType.toNat ≠ value.toNat :=
  fun same => other (UInt16.toNat_inj.mp same)

theorem scanExtensions_turn (extension : Tls.Extension) (rest : List UInt8) (publicKey : Option (List UInt8))
    (serverName : Option String) :
    scanExtensions (extension.encode ++ rest) publicKey serverName =
      let found := extensionStep (publicKey, serverName) extension
      if found.1.isSome ∧ found.2.isSome then found else scanExtensions rest found.1 found.2 := by
  have long : ¬ (extension.encode ++ rest).length < 4 := by
    simp only [Tls.Extension.encode, List.length_append, length_bytes]
    omega
  rw [scanExtensions, if_neg long]
  simp only [Tls.Extension.encode, List.append_assoc, be16_bytes_append _ extension.extType.toNat_lt,
    be16_bytes_append _ extension.length_data_lt, drop_bytes_append, drop_bytes_bytes_append, List.take_left,
    List.drop_left, List.length_append, Nat.not_lt.mpr (Nat.le_add_right _ _), if_false]
  cases extension with
  | serverName list fits =>
    simp [Tls.Extension.extType, sniExtension_data, scanServerNames_encode, extensionStep]
  | keyShare shares fits =>
    simp [Tls.Extension.extType, keyShareExtension_data, scanKeyShares_encode, extensionStep]
  | other extType data unlisted fits =>
    have notName : extType.toNat ≠ 0 := toNat_extType_ne unlisted.1
    have notKey : extType.toNat ≠ 51 := toNat_extType_ne unlisted.2
    simp only [Tls.Extension.extType, extensionStep, notName, notKey, if_false]
    rfl

/-- What the loop has found stays unset until the extension of its type: the
invariant of the extension loop over extensions of distinct types. -/
theorem extensionStep_unset (found : Option (List UInt8) × Option String) {extension : Tls.Extension}
    {extensions : List Tls.Extension}
    (keyUnset : found.1.isSome → ∀ later ∈ extension :: extensions, later.extType ≠ 0x33)
    (nameUnset : found.2.isSome → ∀ later ∈ extension :: extensions, later.extType ≠ 0)
    (fresh : ∀ later ∈ extensions, later.extType ≠ extension.extType) :
    ((extensionStep found extension).1.isSome → ∀ later ∈ extensions, later.extType ≠ 0x33) ∧
      ((extensionStep found extension).2.isSome → ∀ later ∈ extensions, later.extType ≠ 0) := by
  have keyLater := fun set later member => keyUnset set later (List.mem_cons_of_mem _ member)
  have nameLater := fun set later member => nameUnset set later (List.mem_cons_of_mem _ member)
  cases extension with
  | serverName => exact ⟨keyLater, fun _ => fresh⟩
  | keyShare => exact ⟨fun _ => fresh, nameLater⟩
  | other => exact ⟨keyLater, nameLater⟩

theorem scanExtensions_encode (extensions : List Tls.Extension)
    (distinct : (extensions.map Tls.Extension.extType).Nodup) (publicKey : Option (List UInt8))
    (serverName : Option String)
    (keyUnset : publicKey.isSome → ∀ extension ∈ extensions, extension.extType ≠ 0x33)
    (nameUnset : serverName.isSome → ∀ extension ∈ extensions, extension.extType ≠ 0) :
    scanExtensions (extensions.flatMap Tls.Extension.encode) publicKey serverName =
      extensions.foldl extensionStep (publicKey, serverName) := by
  induction extensions generalizing publicKey serverName with
  | nil => simp [scanExtensions]
  | cons extension extensions ih =>
    obtain ⟨fresh, distinct⟩ := Tls.Extension.fresh_of_nodup distinct
    obtain ⟨keyLater, nameLater⟩ := extensionStep_unset (publicKey, serverName) keyUnset nameUnset fresh
    rw [List.flatMap_cons, scanExtensions_turn, List.foldl_cons]
    dsimp only
    split
    case isTrue both =>
      rw [foldl_extensionStep_of_absent]
      exact fun later member => ⟨nameLater both.2 later member, keyLater both.1 later member⟩
    case isFalse => exact ih distinct _ _ keyLater nameLater

theorem scanExtensions_extensionBytes (hello : Tls.ClientHello) :
    scanExtensions hello.extensionBytes none none = (hello.x25519Key, hello.hostName.bind Utf8.decode) := by
  rw [Tls.ClientHello.extensionBytes,
    scanExtensions_encode hello.extensions hello.distinct none none (by simp) (by simp),
    foldl_extensionStep hello.extensions hello.distinct]
  simp only [Tls.ClientHello.x25519Key, Tls.ClientHello.keyShares, Tls.ClientHello.hostName,
    Tls.ClientHello.serverNames]
  cases hello.extensions.findSome? Tls.Extension.keyShares? <;>
    cases hello.extensions.findSome? Tls.Extension.serverNames? <;> simp [Option.bind_map]

/-- On a record built from a well-formed hello, every length check passes and the
extension loop runs on exactly the hello's extensions. -/
theorem parseClientHello_encode (record : Tls.HelloRecord) (rest : List UInt8) :
    parseClientHello (record.encode ++ rest) =
      .ok (some ⟨record.hello.sessionId, record.hello.random,
        (scanExtensions record.hello.extensionBytes none none).1,
        (scanExtensions record.hello.extensionBytes none none).2⟩) := by
  obtain ⟨major, minor, hello, fits⟩ := record
  have sessionIdLength : (UInt8.ofNat hello.sessionId.length).toNat = hello.sessionId.length := by
    have := hello.sessionIdFits
    rw [UInt8.toNat_ofNat']
    omega
  have compressionLength : (UInt8.ofNat hello.compressionMethods.length).toNat = hello.compressionMethods.length := by
    have := hello.compressionMethodsFit
    rw [UInt8.toNat_ofNat']
    omega
  have extensionsFit : hello.extensionBytes.length < 65536 := hello.extensionsFit
  simp only [Tls.HelloRecord.encode]
  generalize messageLength : hello.message.length = length at fits
  simp only [Tls.ClientHello.message] at messageLength ⊢
  generalize hello.body.length = bodyLength at messageLength ⊢
  simp only [Tls.ClientHello.body] at messageLength ⊢
  generalize hello.extensionBytes = extensions at extensionsFit messageLength ⊢
  have cipherSuitesFit := hello.cipherSuitesFit
  generalize hello.cipherSuites = cipherSuites at cipherSuitesFit messageLength ⊢
  generalize hello.sessionId = sessionId at sessionIdLength messageLength ⊢
  generalize hello.compressionMethods = compressionMethods at compressionLength messageLength ⊢
  simp only [List.length_cons, List.length_append, length_bytes, Octets.length_toList] at messageLength
  subst messageLength
  simp only [List.append_assoc, List.cons_append, List.nil_append]
  unfold parseClientHello
  simp -zeta only [Except.throw_bind]
  simp only [List.length_cons, List.getD_cons_zero, List.drop_succ_cons, List.drop_zero, be16_bytes_append _ fits,
    drop_bytes_append, ne_eq, not_true_eq_false, or_false,
    List.drop_left' hello.legacyVersion.length_eq, List.drop_left' hello.random.length_eq,
    Octets.ofList_take_append, sessionIdLength, compressionLength, List.take_left, List.drop_left,
    be16_bytes_append _ cipherSuitesFit, be16_bytes_append _ extensionsFit]
  simp only [List.length_append, List.length_cons, length_bytes, Octets.length_toList]
  simp (disch := omega) only [if_neg, if_false]
  rfl

/-- On a handshake record that carries a well-formed ClientHello, followed by any
bytes, the parser returns the hello's session id and random, its X25519 key share
and its host name when that is UTF-8. -/
theorem parseClientHello_record (record : Tls.HelloRecord) (rest : List UInt8) :
    parseClientHello (record.encode ++ rest) =
      .ok (some ⟨record.hello.sessionId, record.hello.random, record.hello.x25519Key,
        record.hello.hostName.bind Utf8.decode⟩) := by
  rw [parseClientHello_encode, scanExtensions_extensionBytes]

/-- On the same records, the sniffer of the VLESS handler returns the host name
too: it agrees with the server name `parseClientHello` returns. -/
theorem sniffTlsSni_agrees_parseClientHello (record : Tls.HelloRecord) (rest : List UInt8) :
    Protocol.sniffTlsSni (record.encode ++ rest) = .ok (record.hello.hostName.bind Utf8.decode) ∧
      ∃ info, parseClientHello (record.encode ++ rest) = .ok (some info) ∧
        Protocol.sniffTlsSni (record.encode ++ rest) = .ok info.serverName := by
  have sniffed := Protocol.sniffTlsSni_record record rest
  refine ⟨sniffed, _, parseClientHello_encode record rest, ?_⟩
  rw [sniffed, scanExtensions_extensionBytes]

end WellFormed

end XrayLite.Reality
