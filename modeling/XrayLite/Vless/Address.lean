import XrayLite.Lib.RustNet

/-! VLESS target addresses, `src/protocol/vless/address.rs`.

VLESS writes the port before the address (`PortThenAddress`). A Mux.Cool
client puts a port, the type byte `0x00` and a session byte in front of the
real address, so `decode` recurses once per such prefix. The buffer is the
list of unread bytes; a successful decode returns the bytes after the address.
-/

set_option autoImplicit false

namespace XrayLite.Vless

open BigEndian RustNet

inductive Address where
  | ipv4 (ip : Ipv4Addr) (port : UInt16)
  | ipv6 (ip : Ipv6Addr) (port : UInt16)
  | domain (name : String) (port : UInt16)
  deriving DecidableEq, Repr

/-- One constructor per `anyhow!` of `Address::decode`, in source order;
`invalidUtf8` is the `String::from_utf8` error that `?` passes on. -/
inductive AddressError where
  | shortPortAndType
  | shortIpv4
  | shortDomainLength
  | shortDomain
  | invalidUtf8
  | shortIpv6
  | shortMuxSessionId
  | unknownAddressType (addrType : UInt8)
  deriving DecidableEq, Repr

/-- `Address::decode`. The buffer is `&mut BytesMut`: the second component is
what is left in it, on the error paths as well. -/
def Address.decode : List UInt8 → Except AddressError Address × List UInt8
  | hi :: lo :: addrType :: buf =>
    let port := getU16 hi lo
    match addrType with
    | 0x01 =>
      if buf.length < 4 then (.error .shortIpv4, buf)
      else (.ok (.ipv4 (Octets.ofList 4 buf) port), buf.drop 4)
    | 0x02 =>
      match buf with
      | [] => (.error .shortDomainLength, [])
      | len :: buf =>
        if buf.length < len.toNat then (.error .shortDomain, buf)
        else
          -- `copy_to_bytes` has taken the name before `String::from_utf8` checks it
          match Utf8.decode (buf.take len.toNat) with
          | some name => (.ok (.domain name port), buf.drop len.toNat)
          | none => (.error .invalidUtf8, buf.drop len.toNat)
    | 0x03 =>
      if buf.length < 16 then (.error .shortIpv6, buf)
      else (.ok (.ipv6 (Octets.ofList 16 buf) port), buf.drop 16)
    -- Mux prefix: the port just read belongs to the prefix; the session byte is skipped
    -- and the real address follows with its own port.
    | 0x00 =>
      match buf with
      | [] => (.error .shortMuxSessionId, [])
      | _sessionId :: buf => Address.decode buf
    | addrType => (.error (.unknownAddressType addrType), buf)
  | buf => (.error .shortPortAndType, buf)

def Address.encode : Address → List UInt8
  | .ipv4 ip port => putU16 port ++ [0x01] ++ ip.toList
  | .domain name port => putU16 port ++ [0x02] ++ [UInt8.ofNat name.utf8ByteSize] ++ Utf8.encode name
  | .ipv6 ip port => putU16 port ++ [0x03] ++ ip.toList

def Address.port : Address → UInt16
  | .ipv4 _ port | .ipv6 _ port | .domain _ port => port

def Address.toString : Address → String
  | .ipv4 ip port => ip.display ++ ":" ++ port.toNat.repr
  | .ipv6 ip port => "[" ++ ip.display ++ "]:" ++ port.toNat.repr
  | .domain name port => name ++ ":" ++ port.toNat.repr

/-! ## What one call of `decode` does -/

@[simp] theorem Address.decode_ipv4 (hi lo : UInt8) (ip : Ipv4Addr) (rest : List UInt8) :
    Address.decode (hi :: lo :: 0x01 :: (ip.toList ++ rest)) = (.ok (.ipv4 ip (getU16 hi lo)), rest) := by
  simp [Address.decode, ip.length_eq, Octets.ofList_take_append]

@[simp] theorem Address.decode_ipv6 (hi lo : UInt8) (ip : Ipv6Addr) (rest : List UInt8) :
    Address.decode (hi :: lo :: 0x03 :: (ip.toList ++ rest)) = (.ok (.ipv6 ip (getU16 hi lo)), rest) := by
  simp [Address.decode, ip.length_eq, Octets.ofList_take_append]

theorem Address.decode_domain (hi lo : UInt8) (name : String) (fits : name.utf8ByteSize < 256)
    (rest : List UInt8) :
    Address.decode (hi :: lo :: 0x02 :: UInt8.ofNat name.utf8ByteSize :: (Utf8.encode name ++ rest)) =
      (.ok (.domain name (getU16 hi lo)), rest) := by
  have size : (UInt8.ofNat name.utf8ByteSize).toNat = (Utf8.encode name).length := by
    rw [UInt8.toNat_ofNat', Utf8.length_encode]
    omega
  simp [Address.decode, size]

@[simp] theorem Address.decode_mux (hi lo sessionId : UInt8) (tail : List UInt8) :
    Address.decode (hi :: lo :: 0x00 :: sessionId :: tail) = Address.decode tail := by
  simp [Address.decode]

theorem Address.decode_ok_cases {buf rest : List UInt8} {address : Address}
    (decoded : Address.decode buf = (.ok address, rest)) :
      (∃ hi lo ip, buf = hi :: lo :: 0x01 :: (ip.toList ++ rest) ∧ address = .ipv4 ip (getU16 hi lo)) ∨
      (∃ hi lo name, name.utf8ByteSize < 256 ∧
        buf = hi :: lo :: 0x02 :: UInt8.ofNat name.utf8ByteSize :: (Utf8.encode name ++ rest) ∧
        address = .domain name (getU16 hi lo)) ∨
      (∃ hi lo ip, buf = hi :: lo :: 0x03 :: (ip.toList ++ rest) ∧ address = .ipv6 ip (getU16 hi lo)) ∨
      (∃ hi lo sessionId tail, buf = hi :: lo :: 0x00 :: sessionId :: tail ∧
        Address.decode tail = (.ok address, rest)) := by
  fun_cases Address.decode buf <;>
    simp only [Address.decode, *, reduceIte, reduceCtorEq, Prod.mk.injEq, false_and] at decoded
  case case2 hi lo buf _ long =>
    simp only [Except.ok.injEq] at decoded
    obtain ⟨rfl, rfl⟩ := decoded
    refine .inl ⟨hi, lo, Octets.ofList 4 buf, ?_, rfl⟩
    rw [Octets.ofList_take 4 buf (by omega), List.take_append_drop]
  case case5 hi lo _ len buf long name found =>
    simp only [Except.ok.injEq] at decoded
    obtain ⟨rfl, rfl⟩ := decoded
    have bytes := (Utf8.decode_eq_some_iff _ _).mp found
    have size : name.utf8ByteSize = len.toNat := by
      rw [← Utf8.length_encode, bytes, List.length_take]
      omega
    refine .inr (.inl ⟨hi, lo, name, by rw [size]; exact len.toNat_lt, ?_, rfl⟩)
    rw [size, UInt8.ofNat_toNat, bytes, List.take_append_drop]
  case case8 hi lo buf _ long =>
    simp only [Except.ok.injEq] at decoded
    obtain ⟨rfl, rfl⟩ := decoded
    refine .inr (.inr (.inl ⟨hi, lo, Octets.ofList 16 buf, ?_, rfl⟩))
    rw [Octets.ofList_take 16 buf (by omega), List.take_append_drop]
  case case10 hi lo sessionId tail =>
    exact .inr (.inr (.inr ⟨hi, lo, sessionId, tail, rfl, decoded⟩))

/-- What `decode` leaves in the buffer, on success or on error, is a suffix of it:
`get_*` and `copy_to_*` only ever take bytes off the front. -/
theorem Address.decode_suffix (buf : List UInt8) : (Address.decode buf).2 <:+ buf := by
  fun_induction Address.decode buf <;> simp [List.suffix_cons_iff, List.drop_suffix, *]

end XrayLite.Vless
