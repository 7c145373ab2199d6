import XrayLite.Vless.Address

/-! VLESS request and response headers, `src/protocol/vless/request.rs` and
`response.rs`.

`decode` reads from the front of the buffer and returns what it leaves; the
server forwards those bytes as the first application data. An up-front check
wants 22 bytes, which is below the shortest header (23 bytes: an empty domain).
-/

set_option autoImplicit false

namespace XrayLite.Vless

def vlessVersion : UInt8 := 0

abbrev Uuid := Octets 16

inductive Command where
  | tcp
  | udp
  | mux
  deriving DecidableEq, Repr

def Command.toU8 : Command → UInt8
  | .tcp => 0x01
  | .udp => 0x02
  | .mux => 0x03

/-- One constructor per `anyhow!` of `VlessRequest::decode` and `Command::from_u8`;
an address error is passed on by `?`. -/
inductive RequestError where
  | bufferTooSmall
  | unsupportedVersion (version : UInt8)
  | unauthorizedUuid (uuid : Uuid)
  | addonTooShort
  | commandTooShort
  | unknownCommand (value : UInt8)
  | address (error : AddressError)
  deriving DecidableEq, Repr

def Command.fromU8 : UInt8 → Except RequestError Command
  | 0x01 => .ok .tcp
  | 0x02 => .ok .udp
  | 0x03 => .ok .mux
  | value => .error (.unknownCommand value)

structure VlessRequest where
  version : UInt8
  uuid : Uuid
  command : Command
  address : Address
  addonLength : UInt8
  deriving DecidableEq, Repr

/-- `VlessRequest::decode`. As with `Address.decode`, the second component is what
is left in the buffer, whether the decode succeeded or not. -/
def VlessRequest.decode (buf : List UInt8) (allowedUuids : List Uuid) :
    Except RequestError VlessRequest × List UInt8 :=
  if buf.length < 22 then (.error .bufferTooSmall, buf)
  else
    match buf with
    | version :: buf =>
      if version ≠ vlessVersion then (.error (.unsupportedVersion version), buf)
      else
        let uuid := Octets.ofList 16 buf
        let buf := buf.drop 16
        if uuid ∉ allowedUuids then (.error (.unauthorizedUuid uuid), buf)
        else
          match buf with
          | addonLength :: buf =>
            if buf.length < addonLength.toNat then (.error .addonTooShort, buf)
            else
              match buf.drop addonLength.toNat with
              | commandByte :: buf =>
                match Command.fromU8 commandByte with
                | .error error => (.error error, buf)
                | .ok command =>
                  match Address.decode buf with
                  | (.ok address, buf) => (.ok { version, uuid, command, address, addonLength }, buf)
                  | (.error error, buf) => (.error (.address error), buf)
              | [] => (.error .commandTooShort, [])
          -- the length check leaves at least five bytes here, so `get_u8` cannot run out
          | [] => (.error .bufferTooSmall, [])
    | [] => (.error .bufferTooSmall, [])

/-! ### What a failed decode leaves in the buffer -/

theorem VlessRequest.decode_suffix_tail (allowedUuids : List Uuid) (version : UInt8) (tail : List UInt8)
    (long : ¬ (version :: tail).length < 22) :
    (VlessRequest.decode (version :: tail) allowedUuids).2 <:+ tail := by
  unfold VlessRequest.decode
  rw [if_neg long]
  dsimp only
  split
  · exact List.suffix_refl tail
  split
  · exact List.drop_suffix 16 tail
  split
  next addonLength afterAddon afterUuid =>
    have addonRest : afterAddon <:+ tail :=
      (List.suffix_cons addonLength afterAddon).trans (afterUuid ▸ List.drop_suffix 16 tail)
    split
    · exact addonRest
    split
    next commandByte afterCommand skipped =>
      have commandRest : afterCommand <:+ tail :=
        ((List.suffix_cons commandByte afterCommand).trans (skipped ▸ List.drop_suffix _ afterAddon)).trans
          addonRest
      split
      · exact commandRest
      · have addressRest := Address.decode_suffix afterCommand
        split
        all_goals
          rename_i decoded
          rw [decoded] at addressRest
          exact addressRest.trans commandRest
    next => exact List.nil_suffix
  next => exact List.nil_suffix

theorem VlessRequest.decode_keeps_buffer_iff (buf : List UInt8) (allowedUuids : List Uuid) :
    (VlessRequest.decode buf allowedUuids).2 = buf ↔ buf.length < 22 := by
  constructor
  case mpr =>
    intro short
    simp [VlessRequest.decode, short]
  case mp =>
    intro kept
    by_contra long
    cases buf with
    | nil => simp at long
    | cons version tail =>
      have shorter := (VlessRequest.decode_suffix_tail allowedUuids version tail long).length_le
      rw [kept, List.length_cons] at shorter
      omega

/-- `VlessRequest::encode`: the addon length is always written as 0. It never fails. -/
def VlessRequest.encode (request : VlessRequest) : Except RequestError (List UInt8) :=
  .ok ([request.version] ++ request.uuid.toList ++ [0] ++ [request.command.toU8] ++
    request.address.encode)

structure VlessResponse where
  version : UInt8
  addonLength : UInt8
  deriving DecidableEq, Repr

def VlessResponse.new : VlessResponse := ⟨vlessVersion, 0⟩

def VlessResponse.encode (response : VlessResponse) : List UInt8 :=
  [response.version, response.addonLength]

end XrayLite.Vless
