import XrayLite.Lib.Octets

/-! The TLS ClientHello as it travels in a handshake record (RFC 8446 §4.1.2 and
§5.1), with the bodies of two extensions spelled out: server_name (RFC 6066 §3)
and key_share (RFC 8446 §4.2.8).

Every value of these types is well formed: each length it carries fits its length
field, and the extensions of a hello have pairwise distinct types. `encode` lays a
value out on the wire, every vector after its length. The cipher suites and the
compression methods are kept as the bytes of their vectors. `hostName` and
`x25519Key` say which name and which key a hello offers.
-/

set_option autoImplicit false

namespace Tls

open BigEndian

structure ServerName where
  nameType : UInt8
  name : List UInt8
  fits : name.length < 65536

def ServerName.encode (entry : ServerName) : List UInt8 :=
  entry.nameType :: (bytes 2 entry.name.length ++ entry.name)

structure KeyShareEntry where
  group : UInt16
  keyExchange : List UInt8
  fits : keyExchange.length < 65536

def KeyShareEntry.encode (entry : KeyShareEntry) : List UInt8 :=
  bytes 2 entry.group.toNat ++ bytes 2 entry.keyExchange.length ++ entry.keyExchange

/-- An extension. server_name and key_share carry their lists, whose encoding and
two-byte length must fit the extension's own length field; every other type
carries opaque data. -/
inductive Extension where
  | serverName (list : List ServerName) (fits : (list.flatMap ServerName.encode).length + 2 < 65536)
  | keyShare (shares : List KeyShareEntry) (fits : (shares.flatMap KeyShareEntry.encode).length + 2 < 65536)
  | other (extType : UInt16) (data : List UInt8) (unlisted : extType ≠ 0 ∧ extType ≠ 0x33)
      (fits : data.length < 65536)

def Extension.extType : Extension → UInt16
  | .serverName .. => 0
  | .keyShare .. => 0x33
  | .other extType .. => extType

def Extension.data : Extension → List UInt8
  | .serverName list _ =>
    bytes 2 (list.flatMap ServerName.encode).length ++ list.flatMap ServerName.encode
  | .keyShare shares _ =>
    bytes 2 (shares.flatMap KeyShareEntry.encode).length ++ shares.flatMap KeyShareEntry.encode
  | .other _ data _ _ => data

def Extension.serverNames? : Extension → Option (List ServerName)
  | .serverName list _ => some list
  | _ => none

def Extension.keyShares? : Extension → Option (List KeyShareEntry)
  | .keyShare shares _ => some shares
  | _ => none

def Extension.encode (extension : Extension) : List UInt8 :=
  bytes 2 extension.extType.toNat ++ bytes 2 extension.data.length ++ extension.data

theorem Extension.serverNames?_eq_none {extension : Extension} (notName : extension.extType ≠ 0) :
    extension.serverNames? = none := by
  cases extension with
  | serverName => exact absurd rfl notName
  | keyShare | other => rfl

theorem Extension.keyShares?_eq_none {extension : Extension} (notKey : extension.extType ≠ 0x33) :
    extension.keyShares? = none := by
  cases extension with
  | keyShare => exact absurd rfl notKey
  | serverName | other => rfl

theorem Extension.fresh_of_nodup {extension : Extension} {extensions : List Extension}
    (distinct : ((extension :: extensions).map Extension.extType).Nodup) :
    (∀ later ∈ extensions, later.extType ≠ extension.extType) ∧ (extensions.map Extension.extType).Nodup := by
  rw [List.map_cons, List.nodup_cons, List.mem_map] at distinct
  exact ⟨fun later member same => distinct.1 ⟨later, member, same⟩, distinct.2⟩

theorem Extension.length_data_lt (extension : Extension) : extension.data.length < 65536 := by
  cases extension with
  | serverName list fits =>
    simp only [Extension.data, List.length_append, length_bytes]
    omega
  | keyShare shares fits =>
    simp only [Extension.data, List.length_append, length_bytes]
    omega
  | other _ _ _ fits => exact fits

theorem findSome?_serverNames?_of_absent {extensions : List Extension}
    (absent : ∀ extension ∈ extensions, extension.extType ≠ 0) :
    extensions.findSome? Extension.serverNames? = none :=
  List.findSome?_eq_none_iff.mpr fun extension member => Extension.serverNames?_eq_none (absent extension member)

theorem findSome?_keyShares?_of_absent {extensions : List Extension}
    (absent : ∀ extension ∈ extensions, extension.extType ≠ 0x33) :
    extensions.findSome? Extension.keyShares? = none :=
  List.findSome?_eq_none_iff.mpr fun extension member => Extension.keyShares?_eq_none (absent extension member)

/-- Among extensions of distinct types, a search through server_name lists sees
only the first of them. -/
theorem findSome?_bind_serverNames? {β : Type} (extensions : List Extension)
    (distinct : (extensions.map Extension.extType).Nodup) (pick : List ServerName → Option β) :
    extensions.findSome? (fun extension => extension.serverNames?.bind pick) =
      (extensions.findSome? Extension.serverNames?).bind pick := by
  induction extensions with
  | nil => rfl
  | cons extension extensions ih =>
    obtain ⟨fresh, distinct⟩ := Extension.fresh_of_nodup distinct
    rw [List.findSome?_cons, List.findSome?_cons, ih distinct]
    cases extension with
    | serverName list fits =>
      have named : (Extension.serverName list fits).serverNames? = some list := rfl
      rw [findSome?_serverNames?_of_absent fresh, named, Option.bind_some]
      cases pick list <;> rfl
    | keyShare | other => rfl

/-- A ClientHello message. The fields after `extensions` are the limits of the
length fields and the rule that no extension type appears twice. -/
structure ClientHello where
  legacyVersion : Octets 2
  random : Octets 32
  sessionId : List UInt8
  cipherSuites : List UInt8
  compressionMethods : List UInt8
  extensions : List Extension
  sessionIdFits : sessionId.length ≤ 32
  cipherSuitesFit : cipherSuites.length < 65536
  compressionMethodsFit : compressionMethods.length < 256
  extensionsFit : (extensions.flatMap Extension.encode).length < 65536
  distinct : (extensions.map Extension.extType).Nodup

namespace ClientHello

variable (hello : ClientHello)

def extensionBytes : List UInt8 := hello.extensions.flatMap Extension.encode

def body : List UInt8 :=
  hello.legacyVersion.toList ++ hello.random.toList ++
    (UInt8.ofNat hello.sessionId.length :: hello.sessionId) ++
    bytes 2 hello.cipherSuites.length ++ hello.cipherSuites ++
    (UInt8.ofNat hello.compressionMethods.length :: hello.compressionMethods) ++
    bytes 2 hello.extensionBytes.length ++ hello.extensionBytes

def message : List UInt8 := 0x01 :: (bytes 3 hello.body.length ++ hello.body)

def serverNames : Option (List ServerName) := hello.extensions.findSome? Extension.serverNames?

def keyShares : Option (List KeyShareEntry) := hello.extensions.findSome? Extension.keyShares?

/-- The name of the first host_name entry of the server_name extension. -/
def hostName : Option (List UInt8) :=
  hello.serverNames.bind fun list => (list.find? (·.nameType == 0)).map (·.name)

/-- The key of the first key_share entry for X25519 (group 0x001d) with 32 bytes. -/
def x25519Key : Option (List UInt8) :=
  hello.keyShares.bind fun shares =>
    (shares.find? fun share => share.group == 0x001d && share.keyExchange.length == 32).map
      (·.keyExchange)

end ClientHello

/-- A handshake record (content type 22) that carries one ClientHello. -/
structure HelloRecord where
  major : UInt8
  minor : UInt8
  hello : ClientHello
  fits : hello.message.length < 65536

def HelloRecord.encode (record : HelloRecord) : List UInt8 :=
  [0x16, record.major, record.minor] ++ bytes 2 record.hello.message.length ++ record.hello.message

theorem HelloRecord.drop_recordHeader (record : HelloRecord) (rest : List UInt8) :
    (record.encode ++ rest).drop 5 = record.hello.message ++ rest := by
  simp [HelloRecord.encode]

theorem HelloRecord.drop_toSessionId (record : HelloRecord) (rest : List UInt8) :
    (record.encode ++ rest).drop 43 =
      UInt8.ofNat record.hello.sessionId.length :: (record.hello.sessionId ++
        (bytes 2 record.hello.cipherSuites.length ++ (record.hello.cipherSuites ++
          (UInt8.ofNat record.hello.compressionMethods.length :: (record.hello.compressionMethods ++
            (bytes 2 record.hello.extensionBytes.length ++ (record.hello.extensionBytes ++ rest))))))) := by
  simp [HelloRecord.encode, ClientHello.message, ClientHello.body, List.drop_append, List.drop_of_length_le]

end Tls
