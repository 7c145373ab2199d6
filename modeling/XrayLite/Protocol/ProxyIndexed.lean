import XrayLite.Protocol.ProxyProtocol
import XrayLite.Lib.Slice

/-! `parse_proxy_protocol` with each index and slice as the source makes it, every
one of them able to panic.

`ProxyProtocol` reads `data` and the words of a v1 line with `getD` and `drop`, on
the ground that a check comes before every read. Here that ground is the theorem:
on every buffer, `parseProxyProtocolIndexed` returns `.ok` of `parseProxyProtocol`.
-/

set_option autoImplicit false

namespace XrayLite.Protocol

open RustNet

def v1LineIndexed (data : List UInt8) : Except Panic (Except ProxyError (String × Nat)) := do
  match data.findIdx? (· == 0x0D) with
  | none => return .error .crlfNotFound
  | some lineEnd =>
    -- `||` reads `data[end + 1]` only once the length check has passed
    if data.length < lineEnd + 2 then return .error .invalidLineEnding
    if (← Slice.index data (lineEnd + 1)) ≠ 0x0A then return .error .invalidLineEnding
    match Utf8.decode (← Slice.range data 0 lineEnd) with
    | none => return .error .utf8
    | some line => return .ok (line, lineEnd)

def v1HeaderIndexed (line : String) : Except Panic (Except ProxyError ProxyHeader) := do
  let parts := ((Utf8.encode line).splitOn 0x20).map fun word => (Utf8.decode word).getD ""
  if parts.length < 6 then return .error .v1Format
  let protocol ← Slice.index parts 1
  let srcIp ← Slice.index parts 2
  let dstIp ← Slice.index parts 3
  match (u16FromStr (← Slice.index parts 4)).mapError ProxyError.port with
  | .error error => return .error error
  | .ok srcPort =>
    match (u16FromStr (← Slice.index parts 5)).mapError ProxyError.port with
    | .error error => return .error error
    | .ok dstPort =>
      return (v1Addrs protocol srcIp dstIp srcPort dstPort).map fun (srcAddr, dstAddr) => ⟨srcAddr, dstAddr⟩

def parseV1Indexed (data : List UInt8) : Except Panic (Except ProxyError (ProxyHeader × Nat)) := do
  match ← v1LineIndexed data with
  | .error error => return .error error
  | .ok (line, lineEnd) =>
    match ← v1HeaderIndexed line with
    | .error error => return .error error
    | .ok header => return .ok (header, lineEnd + 2)

/-- The addresses of `parse_v2`, by family: `data[16]` to `data[51]`, and the
slices `data[16..32]` and `data[32..48]`. -/
def v2AddrsIndexed (data : List UInt8) (family : UInt8) (addrLen : Nat) :
    Except Panic (Except ProxyError (SocketAddr × SocketAddr)) := do
  let port (at_ : Nat) : Except Panic UInt16 := do
    let hi ← Slice.index data at_
    let lo ← Slice.index data (at_ + 1)
    pure (BigEndian.getU16 hi lo)
  if family = 0x1 then
    if addrLen < 12 then return .error .ipv4Length
    let src := Octets.ofList 4 [← Slice.index data 16, ← Slice.index data 17, ← Slice.index data 18,
      ← Slice.index data 19]
    let dst := Octets.ofList 4 [← Slice.index data 20, ← Slice.index data 21, ← Slice.index data 22,
      ← Slice.index data 23]
    let srcPort ← port 24
    let dstPort ← port 26
    return .ok (.v4 src srcPort, .v4 dst dstPort)
  else if family = 0x2 then
    if addrLen < 36 then return .error .ipv6Length
    -- `try_into` a `[u8; 16]` cannot fail on a slice of 16 bytes
    let src := Octets.ofList 16 (← Slice.range data 16 32)
    let dst := Octets.ofList 16 (← Slice.range data 32 48)
    let srcPort ← port 48
    let dstPort ← port 50
    return .ok (.v6 src srcPort 0 0, .v6 dst dstPort 0 0)
  else return .ok (unspecified, unspecified)

def parseV2Indexed (data : List UInt8) : Except Panic (Except ProxyError (ProxyHeader × Nat)) := do
  if data.length < 16 then return .error .v2TooShort
  -- the version and the command, read and not used
  let _verCmd ← Slice.index data 12
  let famProt ← Slice.index data 13
  let family := (famProt >>> 4) &&& 0x0F
  let addrLen := (← Slice.index data 14).toNat * 256 + (← Slice.index data 15).toNat
  if data.length < 16 + addrLen then return .error .incomplete
  match ← v2AddrsIndexed data family addrLen with
  | .error error => return .error error
  | .ok (srcAddr, dstAddr) => return .ok (⟨srcAddr, dstAddr⟩, 16 + addrLen)

def parseProxyProtocolIndexed (data : List UInt8) : Except Panic (Except ProxyError (ProxyHeader × Nat)) := do
  if proxyV1Signature <+: data then return ← parseV1Indexed data
  -- `&&` slices `data[..12]` only once the length check has passed
  if data.length ≥ 12 then
    if (← Slice.range data 0 12) = proxyV2Signature then return ← parseV2Indexed data
  return .error .invalidHeader

/-! ### Every read is in bounds

Each function above is `.ok` of its counterpart in `ProxyProtocol`: a v1 line's
`data[end + 1]` follows `data.len() < end + 2`, its words follow `parts.len() < 6`,
and the fixed offsets of v2 follow the family's minimum address length together
with `data.len() < 16 + addr_len`. -/

theorem v1LineIndexed_eq (data : List UInt8) : v1LineIndexed data = .ok (v1Line data) := by
  unfold v1LineIndexed v1Line
  cases data.findIdx? (· == 0x0D) with
  | none => rfl
  | some lineEnd =>
    dsimp only
    by_cases short : data.length < lineEnd + 2
    case pos => simp [short, pure, Except.pure]
    case neg =>
      rw [if_neg short, Slice.index_of_lt (by omega), Slice.range_zero_of_le (by omega)]
      simp only [bind, Except.bind, List.getElem?_eq_getElem (show lineEnd + 1 < data.length by omega), short,
        false_or, ne_eq, Option.some.injEq]
      refine Except.ite_ok fun _ => ?_
      cases Utf8.decode (data.take lineEnd) <;> rfl

theorem v1HeaderIndexed_eq (line : String) : v1HeaderIndexed line = .ok (v1Header line) := by
  unfold v1HeaderIndexed v1Header
  simp -zeta only [Except.throw_bind]
  dsimp only
  generalize ((Utf8.encode line).splitOn 0x20).map (fun word => (Utf8.decode word).getD "") = parts
  refine Except.ite_ok fun long => ?_
  have read : ∀ i, i < 6 → Slice.index parts i = .ok (parts.getD i "") := fun i small =>
    Slice.index_eq_getD (by omega) ""
  simp only [read 1 (by decide), read 2 (by decide), read 3 (by decide), read 4 (by decide), read 5 (by decide),
    bind, Except.bind]
  cases (u16FromStr (parts.getD 4 "")) with
  | error error => rfl
  | ok srcPort =>
    cases (u16FromStr (parts.getD 5 "")) with
    | error error => rfl
    | ok dstPort => cases v1Addrs (parts.getD 1 "") (parts.getD 2 "") (parts.getD 3 "") srcPort dstPort <;> rfl

theorem parseV1Indexed_eq (data : List UInt8) : parseV1Indexed data = .ok (parseV1 data) := by
  unfold parseV1Indexed parseV1
  simp only [v1LineIndexed_eq, bind, Except.bind]
  cases v1Line data with
  | error error => rfl
  | ok found =>
    simp only [v1HeaderIndexed_eq]
    cases v1Header found.1 <;> rfl

theorem v2AddrsIndexed_eq (data : List UInt8) (family : UInt8) (addrLen : Nat) (within : 16 + addrLen ≤ data.length) :
    v2AddrsIndexed data family addrLen = .ok (v2Addrs data family addrLen) := by
  have read : ∀ i, i < data.length → Slice.index data i = .ok (data.getD i 0) := fun i inside =>
    Slice.index_eq_getD inside 0
  have four : ∀ k, k + 4 ≤ data.length → Octets.ofList 4 (data.drop k) =
      Octets.ofList 4 [data.getD k 0, data.getD (k + 1) 0, data.getD (k + 2) 0, data.getD (k + 3) 0] := by
    intro k room
    rw [Slice.drop_eq_getD_cons (show k < data.length by omega) 0,
      Slice.drop_eq_getD_cons (show k + 1 < data.length by omega) 0,
      Slice.drop_eq_getD_cons (show k + 1 + 1 < data.length by omega) 0,
      Slice.drop_eq_getD_cons (show k + 1 + 1 + 1 < data.length by omega) 0]
    simp only [Nat.add_assoc, Nat.reduceAdd]
    exact Octets.ofList_append_of_length
      (show [data.getD k 0, data.getD (k + 1) 0, data.getD (k + 2) 0, data.getD (k + 3) 0].length = 4 from rfl) _
  unfold v2AddrsIndexed v2Addrs
  dsimp only
  split
  case isTrue =>
    refine Except.ite_ok fun long => ?_
    simp only [read 16 (by omega), read 17 (by omega), read 18 (by omega), read 19 (by omega), read 20 (by omega),
      read 21 (by omega), read 22 (by omega), read 23 (by omega), read 24 (by omega), read 25 (by omega),
      read 26 (by omega), read 27 (by omega), four 16 (by omega), four 20 (by omega), Nat.reduceAdd, bind,
      Except.bind, pure, Except.pure]
  case isFalse =>
    split
    case isTrue =>
      refine Except.ite_ok fun long => ?_
      simp only [Slice.range_of_le (show 16 ≤ 32 by decide) (show 32 ≤ data.length by omega),
        Slice.range_of_le (show 32 ≤ 48 by decide) (show 48 ≤ data.length by omega), read 48 (by omega),
        read 49 (by omega), read 50 (by omega), read 51 (by omega), List.drop_take, Nat.reduceSub,
        Octets.ofList_take_self, Nat.reduceAdd, bind, Except.bind, pure, Except.pure]
    case isFalse => rfl

theorem parseV2Indexed_eq (data : List UInt8) : parseV2Indexed data = .ok (parseV2 data) := by
  unfold parseV2Indexed parseV2
  simp -zeta only [Except.throw_bind]
  refine Except.ite_ok fun long => ?_
  simp only [Slice.index_eq_getD (show 12 < data.length by omega) 0, Slice.index_eq_getD (show 13 < data.length by omega) 0,
    Slice.index_eq_getD (show 14 < data.length by omega) 0, Slice.index_eq_getD (show 15 < data.length by omega) 0,
    bind, Except.bind]
  refine Except.ite_ok fun complete => ?_
  rw [v2AddrsIndexed_eq data _ _ (by omega)]
  cases v2Addrs data (data.getD 13 0 >>> 4 &&& 15) ((data.getD 14 0).toNat * 256 + (data.getD 15 0).toNat) <;> rfl

theorem parseProxyProtocolIndexed_eq (data : List UInt8) :
    parseProxyProtocolIndexed data = .ok (parseProxyProtocol data) := by
  unfold parseProxyProtocolIndexed parseProxyProtocol
  dsimp only
  by_cases v1 : proxyV1Signature <+: data
  case pos => rw [if_pos v1, if_pos v1, parseV1Indexed_eq]
  case neg =>
    rw [if_neg v1, if_neg v1]
    by_cases long : data.length ≥ 12
    case neg => rw [if_neg long, if_neg (fun signed => long signed.1)]; rfl
    case pos =>
      rw [if_pos long, Slice.range_zero_of_le long]
      simp only [long, true_and, bind, Except.bind]
      split
      case isTrue => rw [parseV2Indexed_eq]
      case isFalse => rfl

/-- `parse_proxy_protocol` panics on no input, and the count it returns is within
the buffer, so that the caller's `read_buf[consumed..]` does not panic either. -/
theorem parseProxyProtocol_never_panics (data : List UInt8) :
    parseProxyProtocolIndexed data = .ok (parseProxyProtocol data) ∧
      ∀ header consumed, parseProxyProtocol data = .ok (header, consumed) →
        consumed ≤ data.length ∧ Slice.range data consumed data.length = .ok (data.drop consumed) := by
  refine ⟨parseProxyProtocolIndexed_eq data, fun header consumed parsed => ?_⟩
  have within := parseProxyProtocol_consumed_le parsed
  exact ⟨within, Slice.range_length_of_le within⟩

end XrayLite.Protocol
