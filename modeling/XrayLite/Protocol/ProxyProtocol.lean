import XrayLite.Lib.RustNet

/-! The PROXY protocol parser of `src/protocol/proxy_protocol.rs`.

A v1 header is one text line, `PROXY TCP4 <src> <dst> <sport> <dport>\r\n`. A v2
header is a 12-byte signature, four bytes of version, family and length, then the
addresses. Either way the parser returns the header and the number of bytes it
takes up, which the caller cuts off the front of the stream. Nothing below
depends on the buffer holding only the header: what follows it is not read.
-/

set_option autoImplicit false

namespace XrayLite.Protocol

open RustNet

structure ProxyHeader where
  sourceAddr : SocketAddr
  destAddr : SocketAddr
  deriving DecidableEq, Repr

-- `PROXY_V1_SIGNATURE`, `b"PROXY "`
def proxyV1Signature : List UInt8 := [0x50, 0x52, 0x4F, 0x58, 0x59, 0x20]

def proxyV2Signature : List UInt8 := [0x0D, 0x0A, 0x0D, 0x0A, 0x00, 0x0D, 0x0A, 0x51, 0x55, 0x49, 0x54, 0x0A]

/-- The errors of `parse_proxy_protocol`. The caller only logs them. -/
inductive ProxyError where
  -- "无效的 Proxy Protocol 头部"
  | invalidHeader
  -- "未找到 CRLF"
  | crlfNotFound
  -- "无效的行结束符"
  | invalidLineEnding
  -- `std::str::from_utf8` refused the line
  | utf8
  -- "Proxy Protocol v1 格式错误"
  | v1Format
  -- a port that is no `u16`
  | port (error : ParseIntError)
  -- an address that does not parse
  | addr (error : AddrParseError)
  -- "未知协议: {}"
  | unknownProtocol (protocol : String)
  -- "Proxy Protocol v2 头部太短"
  | v2TooShort
  -- "数据不完整"
  | incomplete
  -- "IPv4 地址长度错误"
  | ipv4Length
  -- "IPv6 地址长度错误"
  | ipv6Length
  deriving DecidableEq, Repr

-- `SocketAddr::new(IpAddr::V4(Ipv4Addr::UNSPECIFIED), 0)`
def unspecified : SocketAddr := .v4 (Octets.ofList 4 [0, 0, 0, 0]) 0

-- the addresses of a v1 line, by its protocol word
def v1Addrs (protocol srcIp dstIp : String) (srcPort dstPort : UInt16) :
    Except ProxyError (SocketAddr × SocketAddr) :=
  if protocol = "TCP4" ∨ protocol = "UDP4" then do
    let src ← (Ipv4Addr.fromStr srcIp).mapError .addr
    let dst ← (Ipv4Addr.fromStr dstIp).mapError .addr
    pure (.v4 src srcPort, .v4 dst dstPort)
  else if protocol = "TCP6" ∨ protocol = "UDP6" then do
    let src ← (Ipv6Addr.fromStr srcIp).mapError .addr
    let dst ← (Ipv6Addr.fromStr dstIp).mapError .addr
    pure (.v6 src srcPort 0 0, .v6 dst dstPort 0 0)
  else if protocol = "UNKNOWN" then pure (unspecified, unspecified)
  else throw (.unknownProtocol protocol)

-- the line before the first `\r`, which a `\n` must follow, and where it ends
def v1Line (data : List UInt8) : Except ProxyError (String × Nat) :=
  match data.findIdx? (· == 0x0D) with
  | none => .error .crlfNotFound
  | some lineEnd =>
    if data.length < lineEnd + 2 ∨ data[lineEnd + 1]? ≠ some 0x0A then .error .invalidLineEnding
    else
      match Utf8.decode (data.take lineEnd) with
      | none => .error .utf8
      | some line => .ok (line, lineEnd)

-- `line.split(' ')`: a space is one byte of UTF-8 and no part of another character,
-- so splitting the line's bytes at every space byte gives its words
def v1Header (line : String) : Except ProxyError ProxyHeader := do
  let parts := ((Utf8.encode line).splitOn 0x20).map fun word => (Utf8.decode word).getD ""
  if parts.length < 6 then throw .v1Format
  -- `parts[1]` to `parts[5]`, all in bounds by the check above
  let srcPort ← (u16FromStr (parts.getD 4 "")).mapError .port
  let dstPort ← (u16FromStr (parts.getD 5 "")).mapError .port
  let (srcAddr, dstAddr) ← v1Addrs (parts.getD 1 "") (parts.getD 2 "") (parts.getD 3 "") srcPort dstPort
  pure ⟨srcAddr, dstAddr⟩

def parseV1 (data : List UInt8) : Except ProxyError (ProxyHeader × Nat) := do
  let (line, lineEnd) ← v1Line data
  let header ← v1Header line
  pure (header, lineEnd + 2)

-- the addresses of a v2 header, by its family; `addrLen` bytes follow the first 16
def v2Addrs (data : List UInt8) (family : UInt8) (addrLen : Nat) : Except ProxyError (SocketAddr × SocketAddr) :=
  let port (at_ : Nat) : UInt16 := BigEndian.getU16 (data.getD at_ 0) (data.getD (at_ + 1) 0)
  if family = 0x1 then
    if addrLen < 12 then throw .ipv4Length
    else pure (.v4 (Octets.ofList 4 (data.drop 16)) (port 24), .v4 (Octets.ofList 4 (data.drop 20)) (port 26))
  else if family = 0x2 then
    if addrLen < 36 then throw .ipv6Length
    else pure (.v6 (Octets.ofList 16 (data.drop 16)) (port 48) 0 0, .v6 (Octets.ofList 16 (data.drop 32)) (port 50) 0 0)
  -- unspecified or local
  else pure (unspecified, unspecified)

def parseV2 (data : List UInt8) : Except ProxyError (ProxyHeader × Nat) := do
  if data.length < 16 then throw .v2TooShort
  -- the version, the command and the transport protocol are read and not used
  let family := (data.getD 13 0 >>> 4) &&& 0x0F
  let addrLen := (data.getD 14 0).toNat * 256 + (data.getD 15 0).toNat
  if data.length < 16 + addrLen then throw .incomplete
  let (srcAddr, dstAddr) ← v2Addrs data family addrLen
  pure (⟨srcAddr, dstAddr⟩, 16 + addrLen)

def parseProxyProtocol (data : List UInt8) : Except ProxyError (ProxyHeader × Nat) :=
  if proxyV1Signature <+: data then parseV1 data
  else if data.length ≥ 12 ∧ data.take 12 = proxyV2Signature then parseV2 data
  else throw .invalidHeader

def isProxyProtocol (data : List UInt8) : Bool :=
  decide (proxyV1Signature <+: data ∨ (data.length ≥ 12 ∧ data.take 12 = proxyV2Signature))

section Consumed

variable {data : List UInt8} {header : ProxyHeader} {consumed : Nat}

theorem v1Line_eq_ok {line : String} {lineEnd : Nat} (found : v1Line data = .ok (line, lineEnd)) :
    lineEnd + 2 ≤ data.length := by
  unfold v1Line at found
  split at found
  case h_1 => cases found
  case h_2 position _ =>
    split at found
    case isTrue => cases found
    case isFalse ended =>
      split at found
      case h_1 => cases found
      case h_2 =>
        cases found
        omega

theorem parseV1_consumed_le (parsed : parseV1 data = .ok (header, consumed)) : consumed ≤ data.length := by
  simp only [parseV1, Except.bind_eq_ok_iff] at parsed
  obtain ⟨⟨line, lineEnd⟩, found, _, -, done⟩ := parsed
  cases done
  exact v1Line_eq_ok found

theorem parseV2_consumed_le (parsed : parseV2 data = .ok (header, consumed)) : consumed ≤ data.length := by
  simp only [parseV2] at parsed
  split at parsed
  case isTrue => cases parsed
  case isFalse =>
    split at parsed
    case isTrue => cases parsed
    case isFalse complete =>
      simp only [Except.bind_eq_ok_iff] at parsed
      obtain ⟨addrs, -, done⟩ := parsed
      cases done
      omega

theorem parseProxyProtocol_consumed_le (parsed : parseProxyProtocol data = .ok (header, consumed)) :
    consumed ≤ data.length := by
  unfold parseProxyProtocol at parsed
  split at parsed
  case isTrue => exact parseV1_consumed_le parsed
  case isFalse =>
    split at parsed
    case isTrue => exact parseV2_consumed_le parsed
    case isFalse => cases parsed

/-- Bytes that do not start with a signature never parse: the caller's check agrees with the parser. -/
theorem parseProxyProtocol_of_not_isProxyProtocol (unsigned : isProxyProtocol data = false) :
    parseProxyProtocol data = .error .invalidHeader := by
  simp only [isProxyProtocol, decide_eq_false_iff_not, not_or, not_and] at unsigned
  obtain ⟨notV1, notV2⟩ := unsigned
  simp only [parseProxyProtocol, if_neg notV1]
  rw [if_neg (fun signed => notV2 signed.1 signed.2)]
  rfl

end Consumed

/-! ### v1 lines

A v1 header is cut at its first `\r`; what the caller has buffered after the
`\r\n` is not read.
-/

theorem v1Line_append (line : List UInt8) (noReturn : (0x0D : UInt8) ∉ line) (rest : List UInt8) :
    v1Line (line ++ 0x0D :: 0x0A :: rest) =
      match Utf8.decode line with
      | none => .error .utf8
      | some text => .ok (text, line.length) := by
  have before : line.findIdx? (· == 0x0D) = none := by
    rw [List.findIdx?_eq_none_iff]
    intro byte member
    rw [beq_eq_false_iff_ne]
    rintro rfl
    exact noReturn member
  have found : (line ++ 0x0D :: 0x0A :: rest).findIdx? (· == 0x0D) = some line.length := by
    simp [List.findIdx?_append, List.findIdx?_cons, before]
  unfold v1Line
  rw [found]
  dsimp only
  rw [if_neg (by simp), List.take_left]

theorem parseV1_append (line : String) (noReturn : (0x0D : UInt8) ∉ Utf8.encode line) (rest : List UInt8) :
    parseV1 (Utf8.encode line ++ 0x0D :: 0x0A :: rest) =
      (v1Header line).map fun header => (header, (Utf8.encode line).length + 2) := by
  simp only [parseV1, v1Line_append _ noReturn, Utf8.decode_encode, bind, Except.bind]
  cases v1Header line <;> rfl

example : v1Header "PROXY UNKNOWN" = .error .v1Format := by decide +kernel

/-- The bare `PROXY UNKNOWN` line has two words where `parse_v1` wants six, so it
is refused whatever follows it. -/
theorem parseProxyProtocol_rejects_bare_unknown (rest : List UInt8) :
    parseProxyProtocol (Utf8.encode "PROXY UNKNOWN\r\n" ++ rest) = .error .v1Format := by
  have signed : proxyV1Signature <+: Utf8.encode "PROXY UNKNOWN\r\n" ++ rest := by
    rw [show Utf8.encode "PROXY UNKNOWN\r\n" = proxyV1Signature ++ Utf8.encode "UNKNOWN\r\n" by decide +kernel,
      List.append_assoc]
    exact List.prefix_append _ _
  have line : Utf8.encode "PROXY UNKNOWN\r\n" ++ rest = Utf8.encode "PROXY UNKNOWN" ++ 0x0D :: 0x0A :: rest := by
    rw [show Utf8.encode "PROXY UNKNOWN\r\n" = Utf8.encode "PROXY UNKNOWN" ++ [0x0D, 0x0A] by decide +kernel]
    simp
  have twoWords : v1Header "PROXY UNKNOWN" = .error .v1Format := by decide +kernel
  rw [parseProxyProtocol, if_pos signed, line, parseV1_append "PROXY UNKNOWN" (by decide +kernel), twoWords]
  rfl

end XrayLite.Protocol
