import XrayLite.Reality.Tls

/-! REALITY's marks in the handshake that `RealityHandshake` performs by hand:
the client check and the server's tag of `src/transport/reality/auth.rs`, and
the ServerHello that `ServerHello::new_reality` (`tls.rs`) builds for them to
mark.

A client proves itself with the first eight bytes of its session id, which are
those of HMAC-SHA256 of its random under the server's private key. The server
answers with a random whose last twelve bytes are those of HMAC-SHA256, under
the same key, of the random's first twenty bytes and the client's random. The
key is configured in base64. The `base64` engines and `ring`'s HMAC are other
crates' code; they enter as the fields of `AuthPrimitives`, and nothing is
assumed of them.
-/

set_option autoImplicit false

namespace XrayLite.Reality

/-- What `auth.rs` calls on: the two `base64` engines it tries in turn, and
HMAC-SHA256 of a message (second) under a key (first). -/
structure AuthPrimitives where
  decodeStandard : String → Option (List UInt8)
  decodeUrlSafeNoPad : String → Option (List UInt8)
  hmacSha256 : List UInt8 → List UInt8 → Octets 32

inductive AuthError where
  -- "Reality 密钥格式不正确，必须是 Base64"
  | notBase64
  -- "私钥长度必须是 32 字节，当前: {} 字节"
  | keyLength (length : Nat)
  -- "ServerHello 数据太短"
  | serverHelloTooShort
  -- "不是 ServerHello 消息"
  | notServerHello
  deriving DecidableEq, Repr

/-- `RealityAuth`: a private key that `new` accepted, so of 32 bytes. -/
structure RealityAuth where
  privateKeyBytes : List UInt8
  sized : privateKeyBytes.length = 32

structure ServerHelloModifier where
  auth : RealityAuth

structure ServerHello where
  rawData : List UInt8
  deriving DecidableEq, Repr

section Auth

variable (primitives : AuthPrimitives)

def RealityAuth.new (privateKey : String) : Except AuthError RealityAuth :=
  let decoded :=
    match primitives.decodeStandard privateKey with
    | some decoded => some decoded
    | none => primitives.decodeUrlSafeNoPad privateKey
  match decoded with
  | none => .error .notBase64
  | some privateKeyBytes =>
    if sized : privateKeyBytes.length = 32 then .ok ⟨privateKeyBytes, sized⟩
    else .error (.keyLength privateKeyBytes.length)

def RealityAuth.generateAuthTag (auth : RealityAuth) (clientRandom : Octets 32) (serverRandom20 : Octets 20) :
    Octets 32 :=
  primitives.hmacSha256 auth.privateKeyBytes (serverRandom20.toList ++ clientRandom.toList)

def RealityAuth.injectAuthIntoRandom (auth : RealityAuth) (originalRandom clientRandom : Octets 32) : Octets 32 :=
  let authTag := auth.generateAuthTag primitives clientRandom (Octets.ofList 20 (originalRandom.toList.take 20))
  Octets.ofList 32 (originalRandom.toList.take 20 ++ authTag.toList.take 12)

/-- `verify_client_auth`; `ct_eq` compares the two eight-byte slices. -/
def RealityAuth.verifyClientAuth (auth : RealityAuth) (clientRandom : Octets 32) (sessionId : List UInt8) : Bool :=
  if sessionId.length < 8 then false
  else (primitives.hmacSha256 auth.privateKeyBytes clientRandom.toList).toList.take 8 == sessionId.take 8

def ServerHelloModifier.new (privateKey : String) : Except AuthError ServerHelloModifier :=
  ServerHelloModifier.mk <$> RealityAuth.new primitives privateKey

/-- `modify_server_hello`: the 32 bytes of the random, at offset 6 of the
message, replaced. The message is changed in place in the source; here the
changed message is returned. -/
def ServerHelloModifier.modifyServerHello (modifier : ServerHelloModifier) (serverHelloData : List UInt8)
    (clientRandom : Octets 32) : Except AuthError (List UInt8) :=
  if serverHelloData.length < 38 then .error .serverHelloTooShort
  else if serverHelloData.getD 0 0 ≠ 0x02 then .error .notServerHello
  else
    let originalRandom := Octets.ofList 32 ((serverHelloData.drop 6).take 32)
    let modifiedRandom := modifier.auth.injectAuthIntoRandom primitives originalRandom clientRandom
    .ok (serverHelloData.take 6 ++ modifiedRandom.toList ++ serverHelloData.drop 38)

def ServerHello.modifyForReality (hello : ServerHello) (privateKey : String) (clientRandom : Octets 32) :
    Except AuthError ServerHello := do
  let modifier ← ServerHelloModifier.new primitives privateKey
  let rawData ← modifier.modifyServerHello primitives hello.rawData clientRandom
  pure ⟨rawData⟩

end Auth

def extensionsBlock (keyShareData : List UInt8) : List UInt8 :=
  [0x00, 0x2b, 0x00, 0x02, 0x03, 0x04, 0x00, 0x33] ++ BigEndian.bytes 2 ((4 + keyShareData.length) % 65536) ++
    [0x00, 0x1d] ++ BigEndian.bytes 2 (keyShareData.length % 65536) ++ keyShareData

/-- `ServerHello::new_reality`: legacy version 0x0303, the random, the client's
session id echoed, TLS_AES_128_GCM_SHA256, no compression, the extensions. The
source writes three placeholder bytes for the handshake length and then the low
three bytes of the length after the header over them; here the length is
written at once. -/
def ServerHello.newReality (clientSessionId : List UInt8) (random : Octets 32) (keyShareData : List UInt8) :
    ServerHello :=
  let extensions := extensionsBlock keyShareData
  let body := [0x03, 0x03] ++ random.toList ++ [UInt8.ofNat clientSessionId.length] ++ clientSessionId ++
    [0x13, 0x01, 0x00] ++ BigEndian.bytes 2 (extensions.length % 65536) ++ extensions
  ⟨[0x02] ++ BigEndian.bytes 3 body.length ++ body⟩

def ServerHello.encode (hello : ServerHello) : List UInt8 :=
  [22, 0x03, 0x03] ++ BigEndian.bytes 2 (hello.rawData.length % 65536) ++ hello.rawData

def ServerHello.handshakePayload (hello : ServerHello) : List UInt8 := hello.rawData

/-! ### The server's tag -/

section Tag

variable (primitives : AuthPrimitives)

theorem RealityAuth.toList_injectAuthIntoRandom (auth : RealityAuth) (originalRandom clientRandom : Octets 32) :
    (auth.injectAuthIntoRandom primitives originalRandom clientRandom).toList =
      originalRandom.toList.take 20 ++
        (auth.generateAuthTag primitives clientRandom (Octets.ofList 20 (originalRandom.toList.take 20))).toList.take 12 := by
  simp only [injectAuthIntoRandom]
  rw [Octets.ofList_take 32 _ (by simp), List.take_of_length_le (by simp)]

theorem ServerHelloModifier.modifyServerHello_of_layout (modifier : ServerHelloModifier) (front rest : List UInt8)
    (sized : front.length = 6) (typed : front.getD 0 0 = 0x02) (random clientRandom : Octets 32) :
    modifier.modifyServerHello primitives (front ++ random.toList ++ rest) clientRandom =
      .ok (front ++ (modifier.auth.injectAuthIntoRandom primitives random clientRandom).toList ++ rest) := by
  have long : ¬ (front ++ random.toList ++ rest).length < 38 := by simp [sized]; omega
  have first : (front ++ random.toList ++ rest).getD 0 0 = front.getD 0 0 := by
    simp only [List.getD_eq_getElem?_getD, List.append_assoc, List.getElem?_append_left (show 0 < front.length by omega)]
  have original : Octets.ofList 32 (((front ++ random.toList ++ rest).drop 6).take 32) = random := by
    rw [List.append_assoc, List.drop_left' sized, Octets.ofList_take_self, Octets.ofList_take_append]
  have kept : (front ++ random.toList ++ rest).take 6 = front := by
    rw [List.append_assoc, List.take_left' sized]
  have after : (front ++ random.toList ++ rest).drop 38 = rest := by
    rw [List.append_assoc, ← List.append_assoc, List.drop_left' (by simp [sized])]
  rw [modifyServerHello, if_neg long, first, typed, if_neg (by decide)]
  dsimp only
  rw [original, kept, after]

end Tag

/-! ### The ServerHello that is built -/

def ServerHello.front (clientSessionId keyShareData : List UInt8) : List UInt8 :=
  [0x02] ++ BigEndian.bytes 3 (2 + 32 + 1 + clientSessionId.length + 3 + 2 + (extensionsBlock keyShareData).length) ++
    [0x03, 0x03]

def ServerHello.back (clientSessionId keyShareData : List UInt8) : List UInt8 :=
  [UInt8.ofNat clientSessionId.length] ++ clientSessionId ++ [0x13, 0x01, 0x00] ++
    BigEndian.bytes 2 ((extensionsBlock keyShareData).length % 65536) ++ extensionsBlock keyShareData

@[simp] theorem length_extensionsBlock (keyShareData : List UInt8) :
    (extensionsBlock keyShareData).length = 14 + keyShareData.length := by
  simp [extensionsBlock]
  omega

theorem rawData_newReality (clientSessionId : List UInt8) (random : Octets 32) (keyShareData : List UInt8) :
    (ServerHello.newReality clientSessionId random keyShareData).rawData =
      ServerHello.front clientSessionId keyShareData ++ random.toList ++ ServerHello.back clientSessionId keyShareData := by
  have sized : ([0x03, 0x03] ++ random.toList ++ [UInt8.ofNat clientSessionId.length] ++ clientSessionId ++
      [0x13, 0x01, 0x00] ++ BigEndian.bytes 2 ((extensionsBlock keyShareData).length % 65536) ++
        extensionsBlock keyShareData).length =
      2 + 32 + 1 + clientSessionId.length + 3 + 2 + (extensionsBlock keyShareData).length := by
    simp only [List.length_append, List.length_cons, List.length_nil, Octets.length_toList, BigEndian.length_bytes]
  simp only [ServerHello.newReality]
  rw [sized]
  simp only [ServerHello.front, ServerHello.back, List.append_assoc]

@[simp] theorem length_front (clientSessionId keyShareData : List UInt8) :
    (ServerHello.front clientSessionId keyShareData).length = 6 := by
  simp [ServerHello.front]

theorem getD_front (clientSessionId keyShareData : List UInt8) :
    (ServerHello.front clientSessionId keyShareData).getD 0 0 = 0x02 := rfl

/-- Marking the ServerHello that `new_reality` built is building it with the
marked random: the message is accepted whatever its fields, and only the last
twelve bytes of its random change, to the server's tag. -/
theorem modifyForReality_newReality (primitives : AuthPrimitives) {privateKey : String} {auth : RealityAuth}
    (accepted : RealityAuth.new primitives privateKey = .ok auth) (clientSessionId : List UInt8)
    (random clientRandom : Octets 32) (keyShareData : List UInt8) :
    (ServerHello.newReality clientSessionId random keyShareData).modifyForReality primitives privateKey clientRandom =
      .ok (ServerHello.newReality clientSessionId (auth.injectAuthIntoRandom primitives random clientRandom)
        keyShareData) := by
  have modifier : ServerHelloModifier.new primitives privateKey = .ok ⟨auth⟩ := by
    rw [ServerHelloModifier.new, accepted]
    rfl
  have marked := ServerHelloModifier.modifyServerHello_of_layout primitives ⟨auth⟩ _
    (ServerHello.back clientSessionId keyShareData) (length_front clientSessionId keyShareData)
    (getD_front clientSessionId keyShareData) random clientRandom
  have rebuilt : ∀ hello : ServerHello, hello = ⟨hello.rawData⟩ := fun _ => rfl
  rw [rebuilt (ServerHello.newReality clientSessionId (auth.injectAuthIntoRandom primitives random clientRandom)
    keyShareData), rawData_newReality]
  simp only [ServerHello.modifyForReality, modifier, rawData_newReality, marked, bind, Except.bind, pure, Except.pure]

end XrayLite.Reality
