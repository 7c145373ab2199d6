import XrayLite.Vless.Request

/-! The VLESS request header grammar.

A header is version 0, an allowed UUID, an addon length byte and that many
addon bytes, a command byte, any number of Mux prefixes (port, `0x00`,
session byte), and finally a port and a target address. `Header` carries the
side conditions as fields, so every value of it is a well-formed header; its
`bytes` lay it out. The main result says that `VlessRequest.decode` succeeds on
exactly the buffers that start with such bytes and leaves exactly the rest.
-/

set_option autoImplicit false

namespace XrayLite.Vless

open BigEndian RustNet

inductive Target where
  | ipv4 (ip : Ipv4Addr)
  | domain (name : String) (fits : name.utf8ByteSize < 256)
  | ipv6 (ip : Ipv6Addr)

def Target.bytes : Target → List UInt8
  | .ipv4 ip => 0x01 :: ip.toList
  | .domain name _ => 0x02 :: UInt8.ofNat name.utf8ByteSize :: Utf8.encode name
  | .ipv6 ip => 0x03 :: ip.toList

def Target.address (target : Target) (port : UInt16) : Address :=
  match target with
  | .ipv4 ip => .ipv4 ip port
  | .domain name _ => .domain name port
  | .ipv6 ip => .ipv6 ip port

structure MuxPrefix where
  hi : UInt8
  lo : UInt8
  sessionId : UInt8

def MuxPrefix.bytes (muxPrefix : MuxPrefix) : List UInt8 :=
  [muxPrefix.hi, muxPrefix.lo, 0x00, muxPrefix.sessionId]

/-- Everything `Address::decode` reads: the Mux prefixes, the port and the target. -/
structure AddressPart where
  muxes : List MuxPrefix
  hi : UInt8
  lo : UInt8
  target : Target

def AddressPart.bytes (part : AddressPart) : List UInt8 :=
  part.muxes.flatMap MuxPrefix.bytes ++ part.hi :: part.lo :: part.target.bytes

def AddressPart.address (part : AddressPart) : Address :=
  part.target.address (getU16 part.hi part.lo)

theorem AddressPart.bytes_cons (muxPrefix : MuxPrefix) (part : AddressPart) :
    ({ part with muxes := muxPrefix :: part.muxes } : AddressPart).bytes = muxPrefix.bytes ++ part.bytes := by
  simp [AddressPart.bytes]

theorem AddressPart.length_bytes (part : AddressPart) : 4 ≤ part.bytes.length := by
  have target : 2 ≤ part.target.bytes.length := by
    cases part.target <;> simp [Target.bytes]
  simp only [AddressPart.bytes, List.length_append, List.length_cons]
  omega

theorem Address.decode_addressPart (part : AddressPart) (rest : List UInt8) :
    Address.decode (part.bytes ++ rest) = (.ok part.address, rest) := by
  obtain ⟨muxes, hi, lo, target⟩ := part
  induction muxes with
  | nil =>
    cases target with
    | ipv4 ip => simp [AddressPart.bytes, AddressPart.address, Target.bytes, Target.address]
    | domain name fits =>
      simpa [AddressPart.bytes, AddressPart.address, Target.bytes, Target.address]
        using Address.decode_domain hi lo name fits rest
    | ipv6 ip => simp [AddressPart.bytes, AddressPart.address, Target.bytes, Target.address]
  | cons muxPrefix muxes ih =>
    simpa [AddressPart.bytes, AddressPart.address, MuxPrefix.bytes] using ih

theorem Address.decode_ok_addressPart : ∀ {buf rest : List UInt8} {address : Address},
    Address.decode buf = (.ok address, rest) →
      ∃ part : AddressPart, buf = part.bytes ++ rest ∧ address = part.address
  | buf, rest, address, decoded => by
    rcases Address.decode_ok_cases decoded with
      ⟨hi, lo, ip, rfl, rfl⟩ | ⟨hi, lo, name, fits, rfl, rfl⟩ | ⟨hi, lo, ip, rfl, rfl⟩ |
      ⟨hi, lo, sessionId, tail, rfl, inner⟩
    · exact ⟨⟨[], hi, lo, .ipv4 ip⟩, by simp [AddressPart.bytes, Target.bytes], rfl⟩
    · exact ⟨⟨[], hi, lo, .domain name fits⟩, by simp [AddressPart.bytes, Target.bytes], rfl⟩
    · exact ⟨⟨[], hi, lo, .ipv6 ip⟩, by simp [AddressPart.bytes, Target.bytes], rfl⟩
    · -- a Mux prefix was skipped: the rest is an address part, one prefix shorter
      obtain ⟨part, rfl, rfl⟩ := Address.decode_ok_addressPart inner
      refine ⟨{ part with muxes := ⟨hi, lo, sessionId⟩ :: part.muxes }, ?_, rfl⟩
      simp [AddressPart.bytes_cons, MuxPrefix.bytes]
termination_by buf => buf.length

theorem Address.decode_eq_ok_iff {buf rest : List UInt8} {address : Address} :
    Address.decode buf = (.ok address, rest) ↔
      ∃ part : AddressPart, buf = part.bytes ++ rest ∧ address = part.address := by
  constructor
  · exact Address.decode_ok_addressPart
  · rintro ⟨part, rfl, rfl⟩
    exact Address.decode_addressPart part rest

/-- A whole request header. The fields after `addressPart` are the grammar's side
conditions: the UUID is allowed and the addon length fits its byte. -/
structure Header (allowedUuids : List Uuid) where
  uuid : Uuid
  addon : List UInt8
  command : Command
  addressPart : AddressPart
  allowed : uuid ∈ allowedUuids
  addon_fits : addon.length < 256

section Request

variable {allowedUuids : List Uuid}

def Header.bytes (header : Header allowedUuids) : List UInt8 :=
  0x00 :: header.uuid.toList ++ UInt8.ofNat header.addon.length :: header.addon ++
    header.command.toU8 :: header.addressPart.bytes

/-- The request a header stands for: its UUID, command and addon length, and
the innermost address with its port. -/
def Header.request (header : Header allowedUuids) : VlessRequest :=
  { version := vlessVersion, uuid := header.uuid, command := header.command,
    address := header.addressPart.address, addonLength := UInt8.ofNat header.addon.length }

@[simp] theorem Command.fromU8_toU8 (command : Command) : Command.fromU8 command.toU8 = .ok command := by
  cases command <;> rfl

theorem Command.fromU8_eq_ok {value : UInt8} {command : Command}
    (decoded : Command.fromU8 value = .ok command) : value = command.toU8 := by
  unfold Command.fromU8 at decoded
  split at decoded <;> cases decoded <;> rfl

theorem VlessRequest.decode_header (header : Header allowedUuids) (rest : List UInt8) :
    VlessRequest.decode (header.bytes ++ rest) allowedUuids = (.ok header.request, rest) := by
  have long : ¬ (header.bytes ++ rest).length < 22 := by
    have := header.addressPart.length_bytes
    simp [Header.bytes]
    omega
  have addonLength : (UInt8.ofNat header.addon.length).toNat = header.addon.length := by
    rw [UInt8.toNat_ofNat']
    have := header.addon_fits
    omega
  unfold VlessRequest.decode
  rw [if_neg long]
  simp [Header.bytes, vlessVersion, Octets.ofList_take_append, header.allowed, addonLength,
    Address.decode_addressPart, Header.request]

theorem VlessRequest.decode_ok_header {buf rest : List UInt8} {request : VlessRequest}
    (decoded : VlessRequest.decode buf allowedUuids = (.ok request, rest)) :
    ∃ header : Header allowedUuids, buf = header.bytes ++ rest ∧ request = header.request := by
  unfold VlessRequest.decode at decoded
  dsimp only at decoded
  split at decoded
  · cases decoded
  rename_i long
  split at decoded
  case h_2 => cases decoded
  rename_i version tail
  split at decoded
  · cases decoded
  rename_i isVersion
  split at decoded
  · cases decoded
  rename_i allowed
  split at decoded
  case h_2 => cases decoded
  rename_i addonLength afterUuid uuidSplit
  split at decoded
  · cases decoded
  rename_i addonFits
  split at decoded
  case h_2 => cases decoded
  rename_i commandByte afterAddon addonSplit
  split at decoded
  · cases decoded
  rename_i command isCommand
  split at decoded
  case h_2 => cases decoded
  rename_i address rest' addressDecoded
  simp only [Prod.mk.injEq, Except.ok.injEq] at decoded
  obtain ⟨rfl, rfl⟩ := decoded
  obtain ⟨part, rfl, rfl⟩ := Address.decode_ok_addressPart addressDecoded
  have addonLong : addonLength.toNat ≤ afterUuid.length := by omega
  have uuidBytes : tail = (Octets.ofList 16 tail).toList ++ addonLength :: afterUuid := by
    rw [Octets.ofList_take 16 tail (by simp at long; omega), ← uuidSplit, List.take_append_drop]
  have addonBytes :
      afterUuid = afterUuid.take addonLength.toNat ++ commandByte :: (part.bytes ++ rest') := by
    rw [← addonSplit, List.take_append_drop]
  have addonSize : (afterUuid.take addonLength.toNat).length = addonLength.toNat := by
    rw [List.length_take, Nat.min_eq_left addonLong]
  generalize Octets.ofList 16 tail = uuid at allowed uuidBytes ⊢
  generalize afterUuid.take addonLength.toNat = addon at addonBytes addonSize ⊢
  have addonFits : addon.length < 256 := by
    rw [addonSize]
    exact addonLength.toNat_lt
  have addonLengthByte : UInt8.ofNat addon.length = addonLength := by
    rw [addonSize, UInt8.ofNat_toNat]
  refine ⟨⟨uuid, addon, command, part, of_not_not allowed, addonFits⟩, ?_, ?_⟩
  · rw [uuidBytes, addonBytes, of_not_not isVersion, Command.fromU8_eq_ok isCommand]
    simp [Header.bytes, addonLengthByte, vlessVersion]
  · simp [Header.request, addonLengthByte, of_not_not isVersion]

theorem VlessRequest.decode_eq_ok_iff {buf rest : List UInt8} {request : VlessRequest} :
    VlessRequest.decode buf allowedUuids = (.ok request, rest) ↔
      ∃ header : Header allowedUuids, buf = header.bytes ++ rest ∧ request = header.request := by
  constructor
  · exact VlessRequest.decode_ok_header
  · rintro ⟨header, rfl, rfl⟩
    exact VlessRequest.decode_header header rest

/-- `VlessRequest::decode` accepts exactly the header grammar: on `h ++ t` it
returns `Ok(r)` and leaves exactly `t` iff `h` is a header's bytes, `r` being
that header's request; on a buffer that starts with no header it fails. -/
theorem decode_accepts_exactly_headers (allowedUuids : List Uuid) :
    (∀ (buf rest : List UInt8) (request : VlessRequest),
      VlessRequest.decode buf allowedUuids = (.ok request, rest) ↔
        ∃ header : Header allowedUuids, buf = header.bytes ++ rest ∧ request = header.request) ∧
    (∀ buf : List UInt8, (∀ header : Header allowedUuids, ¬ header.bytes <+: buf) →
      ∃ error, (VlessRequest.decode buf allowedUuids).1 = .error error) := by
  refine ⟨fun _ _ _ => VlessRequest.decode_eq_ok_iff, ?_⟩
  intro buf noHeader
  match decoded : VlessRequest.decode buf allowedUuids with
  | (.error error, _) => exact ⟨error, rfl⟩
  | (.ok request, rest) =>
    obtain ⟨header, whole, -⟩ := VlessRequest.decode_ok_header decoded
    exact absurd (whole ▸ List.prefix_append header.bytes rest) (noHeader header)

end Request

/-! ### Round trip through `encode`

`VlessRequest::encode` writes no addon, and `Address::encode` writes the port
first, as `decode` reads them. Only the domain length is narrowed, `as u8`.
-/

def Address.Fits : Address → Prop
  | .domain name _ => name.utf8ByteSize < 256
  | _ => True

theorem Address.four_le_length_encode (address : Address) : 4 ≤ address.encode.length := by
  cases address with
  | domain name port =>
    simp only [Address.encode, List.length_append, length_putU16, List.length_singleton]
    omega
  | ipv4 | ipv6 => simp [Address.encode]

theorem Address.decode_encode (address : Address) (fits : address.Fits) (rest : List UInt8) :
    Address.decode (address.encode ++ rest) = (.ok address, rest) := by
  cases address with
  | ipv4 ip port =>
    obtain ⟨hi, lo, split, read⟩ := putU16_eq port
    simp only [Address.encode, split, List.cons_append, List.nil_append]
    rw [Address.decode_ipv4, read]
  | domain name port =>
    obtain ⟨hi, lo, split, read⟩ := putU16_eq port
    simp only [Address.encode, split, List.cons_append, List.nil_append]
    rw [Address.decode_domain hi lo name fits, read]
  | ipv6 ip port =>
    obtain ⟨hi, lo, split, read⟩ := putU16_eq port
    simp only [Address.encode, split, List.cons_append, List.nil_append]
    rw [Address.decode_ipv6, read]

theorem VlessRequest.decode_encode_append (request : VlessRequest) (allowedUuids : List Uuid)
    (version : request.version = vlessVersion) (allowed : request.uuid ∈ allowedUuids) (rest : List UInt8) :
    ∃ bytes, request.encode = .ok bytes ∧
      VlessRequest.decode (bytes ++ rest) allowedUuids =
        match Address.decode (request.address.encode ++ rest) with
        | (.ok address, buf) => (.ok { request with address, addonLength := 0 }, buf)
        | (.error error, buf) => (.error (.address error), buf) := by
  obtain ⟨version, uuid, command, address, addonLength⟩ := request
  dsimp only at version allowed ⊢
  subst version
  refine ⟨_, rfl, ?_⟩
  have long : ¬ ([vlessVersion] ++ uuid.toList ++ [0] ++ [command.toU8] ++ address.encode ++ rest).length < 22 := by
    have := address.four_le_length_encode
    simp
    omega
  unfold VlessRequest.decode
  rw [if_neg long]
  -- `decode` and this statement match on the address with matchers of their own: settle the address first
  rcases decoded : Address.decode (address.encode ++ rest) with ⟨_ | _, buf⟩ <;>
    simp only [vlessVersion, List.cons_append, List.nil_append, List.append_assoc, ne_eq, not_true_eq_false,
      ↓reduceIte, Octets.ofList_take_append, allowed, Octets.length_toList, List.drop_left', List.length_cons,
      List.length_append, UInt8.toNat_zero, not_lt_zero, List.drop_zero, Command.fromU8_toU8, decoded]

theorem VlessRequest.decode_encode (request : VlessRequest) (allowedUuids : List Uuid)
    (version : request.version = vlessVersion) (allowed : request.uuid ∈ allowedUuids)
    (fits : request.address.Fits) (rest : List UInt8) :
    ∃ bytes, request.encode = .ok bytes ∧
      VlessRequest.decode (bytes ++ rest) allowedUuids = (.ok { request with addonLength := 0 }, rest) := by
  obtain ⟨bytes, encoded, decoded⟩ := VlessRequest.decode_encode_append request allowedUuids version allowed rest
  refine ⟨bytes, encoded, ?_⟩
  rw [decoded, Address.decode_encode request.address fits rest]

/-- A domain of 256 bytes has its length written as the byte 0: `decode` reads the
empty domain and leaves the name in the buffer. -/
theorem Address.decode_encode_long_domain (port : UInt16) (rest : List UInt8) :
    Address.decode ((Address.domain (String.replicate 256 'a') port).encode ++ rest) =
      (.ok (.domain "" port), Utf8.encode (String.replicate 256 'a') ++ rest) := by
  obtain ⟨hi, lo, split, read⟩ := putU16_eq port
  have wrapped : UInt8.ofNat (String.replicate 256 'a').utf8ByteSize = UInt8.ofNat ("" : String).utf8ByteSize := by
    decide +kernel
  have empty := Address.decode_domain hi lo "" (by decide) (Utf8.encode (String.replicate 256 'a') ++ rest)
  rw [show Utf8.encode "" = [] from rfl, List.nil_append, read] at empty
  simp only [Address.encode, split, wrapped, List.cons_append, List.nil_append]
  exact empty

/-- So a request for such a domain does not survive `encode` and `decode`, whatever
its UUID, command and port and whatever bytes follow it. -/
theorem VlessRequest.decode_encode_drops_long_domain (uuid : Uuid) (others : List Uuid) (command : Command)
    (port : UInt16) (rest : List UInt8) :
    ∃ bytes, VlessRequest.encode ⟨vlessVersion, uuid, command, .domain (String.replicate 256 'a') port, 0⟩ =
        .ok bytes ∧
      VlessRequest.decode (bytes ++ rest) (uuid :: others) =
        (.ok ⟨vlessVersion, uuid, command, .domain "" port, 0⟩, Utf8.encode (String.replicate 256 'a') ++ rest) := by
  obtain ⟨bytes, encoded, decoded⟩ := VlessRequest.decode_encode_append
    ⟨vlessVersion, uuid, command, .domain (String.replicate 256 'a') port, 0⟩ (uuid :: others) rfl
    List.mem_cons_self rest
  refine ⟨bytes, encoded, ?_⟩
  rw [decoded, Address.decode_encode_long_domain]

end XrayLite.Vless
