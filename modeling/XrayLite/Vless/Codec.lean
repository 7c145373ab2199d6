import XrayLite.Lib.Transition
import XrayLite.Vless.Request
import XrayLite.Server.Dispatch

/-! `VlessCodec` (`codec.rs`): the list of allowed client UUIDs that decoding
checks requests against, with calls that add and remove entries.

What the list stands for is a set: `add_uuid` inserts, `remove_uuid` erases.
The list is that set as long as it holds no UUID twice; `add_uuid` keeps
that, but `VlessCodec::new` takes the clients' ids as the configuration lists
them, and nothing rejects an id given twice. Then `remove_uuid` reports a
removal and the UUID stays allowed (`removeUuid_keeps_repeated_client`).
-/

set_option autoImplicit false

namespace XrayLite.Vless

structure VlessCodec where
  allowedUuids : List Uuid
  deriving DecidableEq, Repr

namespace VlessCodec

def new (allowedUuids : List Uuid) : VlessCodec := ⟨allowedUuids⟩

def decodeRequest (codec : VlessCodec) (buf : List UInt8) : Except RequestError VlessRequest × List UInt8 :=
  VlessRequest.decode buf codec.allowedUuids

def encodeResponse (_codec : VlessCodec) (response : VlessResponse) : List UInt8 :=
  response.encode

def validateUuid (codec : VlessCodec) (uuid : Uuid) : Bool :=
  codec.allowedUuids.contains uuid

def addUuid (codec : VlessCodec) (uuid : Uuid) : VlessCodec :=
  if codec.allowedUuids.contains uuid then codec else ⟨codec.allowedUuids ++ [uuid]⟩

/-- `remove_uuid`: the first entry equal to `uuid` goes, and the result says
whether there was one. -/
def removeUuid (codec : VlessCodec) (uuid : Uuid) : VlessCodec × Bool :=
  match codec.allowedUuids.findIdx? (fun u => u == uuid) with
  | some pos => (⟨codec.allowedUuids.eraseIdx pos⟩, true)
  | none => (codec, false)

end VlessCodec

inductive CodecCall where
  | addUuid (uuid : Uuid)
  | removeUuid (uuid : Uuid)
  deriving DecidableEq, Repr

def VlessCodec.next (codec : VlessCodec) : CodecCall → Option VlessCodec
  | .addUuid uuid => some (codec.addUuid uuid)
  | .removeUuid uuid => some (codec.removeUuid uuid).1

def CodecCall.applySet (allowed : Finset Uuid) : CodecCall → Finset Uuid
  | .addUuid uuid => insert uuid allowed
  | .removeUuid uuid => allowed.erase uuid

namespace VlessCodec

variable (codec : VlessCodec) (uuid : Uuid)

theorem validateUuid_iff : codec.validateUuid uuid = true ↔ uuid ∈ codec.allowedUuids := by
  simp [validateUuid]

theorem allowedUuids_addUuid : (codec.addUuid uuid).allowedUuids =
    if uuid ∈ codec.allowedUuids then codec.allowedUuids else codec.allowedUuids ++ [uuid] := by
  by_cases allowed : uuid ∈ codec.allowedUuids
  case pos => simp [addUuid, allowed]
  case neg => simp [addUuid, allowed]

theorem removeUuid_eq : codec.removeUuid uuid = (⟨codec.allowedUuids.erase uuid⟩, codec.validateUuid uuid) := by
  have erased := List.erase_eq_eraseIdx codec.allowedUuids uuid
  rcases found : codec.allowedUuids.findIdx? (fun u => u == uuid) with _ | pos
  case none =>
    have absent : uuid ∉ codec.allowedUuids := by
      intro present
      simp only [List.findIdx?_eq_none_iff] at found
      simpa using found uuid present
    simp [removeUuid, found, validateUuid, absent, List.erase_of_not_mem absent]
  case some =>
    have present : uuid ∈ codec.allowedUuids := by
      obtain ⟨inside, first, -⟩ := List.findIdx?_eq_some_iff_getElem.mp found
      exact beq_iff_eq.mp first ▸ List.getElem_mem inside
    rw [List.idxOf?, found] at erased
    simp [removeUuid, found, validateUuid, present, erased]

/-- `remove_uuid` reports whether `uuid` was allowed; it revokes it only where
the list held it once. -/
theorem removeUuid_revokes_iff :
    (codec.removeUuid uuid).2 = codec.validateUuid uuid ∧
      ((codec.removeUuid uuid).1.validateUuid uuid = true ↔ 2 ≤ codec.allowedUuids.count uuid) := by
  refine ⟨by rw [removeUuid_eq], ?_⟩
  rw [removeUuid_eq, validateUuid_iff, ← List.count_pos_iff, List.count_erase_self]
  omega

/-- A client id listed twice stays allowed after its removal. -/
example : (VlessCodec.removeUuid ⟨[Octets.ofList 16 [], Octets.ofList 16 []]⟩ (Octets.ofList 16 [])).1.validateUuid
    (Octets.ofList 16 []) = true := by
  decide

/-! ### The list as the set it stands for -/

/-- The codec's list holds the UUIDs of `allowed`, each once. -/
structure Represents (allowed : Finset Uuid) : Prop where
  nodup : codec.allowedUuids.Nodup
  toFinset_eq : codec.allowedUuids.toFinset = allowed

variable {codec} {allowed : Finset Uuid}

theorem Represents.validateUuid_iff (represents : codec.Represents allowed) :
    codec.validateUuid uuid = true ↔ uuid ∈ allowed := by
  rw [VlessCodec.validateUuid_iff, ← represents.toFinset_eq, List.mem_toFinset]

theorem decode_congr {allowedUuids allowedUuids' : List Uuid} (same : ∀ u, u ∈ allowedUuids ↔ u ∈ allowedUuids')
    (buf : List UInt8) : VlessRequest.decode buf allowedUuids = VlessRequest.decode buf allowedUuids' := by
  simp only [VlessRequest.decode, same]

theorem Represents.decodeRequest_eq (represents : codec.Represents allowed) (buf : List UInt8) :
    codec.decodeRequest buf = VlessRequest.decode buf allowed.toList := by
  apply decode_congr
  intro u
  rw [Finset.mem_toList, ← represents.toFinset_eq, List.mem_toFinset]

theorem Represents.addUuid (represents : codec.Represents allowed) :
    (codec.addUuid uuid).Represents (insert uuid allowed) := by
  rw [← represents.toFinset_eq]
  by_cases present : uuid ∈ codec.allowedUuids
  case pos =>
    have kept : insert uuid codec.allowedUuids.toFinset = codec.allowedUuids.toFinset :=
      Finset.insert_eq_of_mem (List.mem_toFinset.mpr present)
    refine ⟨?_, ?_⟩ <;> simp only [allowedUuids_addUuid, if_pos present, kept, represents.nodup]
  case neg =>
    refine ⟨?_, ?_⟩
    · rw [allowedUuids_addUuid, if_neg present]
      exact represents.nodup.append (List.nodup_singleton uuid) (by simpa using present)
    · rw [allowedUuids_addUuid, if_neg present, List.toFinset_append, Finset.insert_eq, Finset.union_comm]
      rfl

theorem Represents.removeUuid (represents : codec.Represents allowed) :
    (codec.removeUuid uuid).1.Represents (allowed.erase uuid) := by
  rw [removeUuid_eq]
  refine ⟨represents.nodup.erase uuid, ?_⟩
  ext u
  rw [List.mem_toFinset, represents.nodup.mem_erase_iff, Finset.mem_erase, ← represents.toFinset_eq,
    List.mem_toFinset]

theorem Represents.next {call : CodecCall} {codec' : VlessCodec} (represents : codec.Represents allowed)
    (stepped : codec.next call = some codec') : codec'.Represents (call.applySet allowed) := by
  cases call with
  | addUuid uuid =>
    cases stepped
    exact represents.addUuid uuid
  | removeUuid uuid =>
    cases stepped
    exact represents.removeUuid uuid

theorem Represents.exec (represents : codec.Represents allowed) (calls : List CodecCall) :
    ∃ codec', Transition.exec VlessCodec.next codec calls = some codec' ∧
      codec'.Represents (calls.foldl CodecCall.applySet allowed) := by
  induction calls generalizing codec allowed with
  | nil => exact ⟨codec, rfl, represents⟩
  | cons call calls ih =>
    obtain ⟨codec₁, stepped⟩ : ∃ codec₁, codec.next call = some codec₁ := by
      cases call <;> exact ⟨_, rfl⟩
    obtain ⟨codec', ran, represents'⟩ := ih (represents.next stepped)
    exact ⟨codec', by rw [Transition.exec_cons, stepped, Option.bind_some, ran], represents'⟩

end VlessCodec

/-- From a list without repeats, every run of `add_uuid` and `remove_uuid` calls
leaves a codec whose `validate_uuid` and `decode_request` are those of the set
the calls compute, and whose list still has no repeats. -/
theorem codec_run_refines_set {allowedUuids : List Uuid} (distinct : allowedUuids.Nodup) (calls : List CodecCall) :
    ∃ codec, Transition.exec VlessCodec.next (VlessCodec.new allowedUuids) calls = some codec ∧
      codec.allowedUuids.Nodup ∧
      (∀ uuid, codec.validateUuid uuid = true ↔ uuid ∈ calls.foldl CodecCall.applySet allowedUuids.toFinset) ∧
      ∀ buf, codec.decodeRequest buf = VlessRequest.decode buf (calls.foldl CodecCall.applySet allowedUuids.toFinset).toList := by
  have initial : (VlessCodec.new allowedUuids).Represents allowedUuids.toFinset := ⟨distinct, rfl⟩
  obtain ⟨codec, ran, represents⟩ := initial.exec calls
  exact ⟨codec, ran, represents.nodup, fun uuid => represents.validateUuid_iff uuid, represents.decodeRequest_eq⟩

theorem codec_run_refines_set_add_remove :
    ([] : List Uuid).Nodup ∧
      ∃ codec, Transition.exec VlessCodec.next (VlessCodec.new [])
          [.addUuid (Octets.ofList 16 []), .removeUuid (Octets.ofList 16 [])] = some codec ∧
        codec.allowedUuids.Nodup ∧
        (∀ uuid, codec.validateUuid uuid = true ↔ uuid ∈
          [CodecCall.addUuid (Octets.ofList 16 []), .removeUuid (Octets.ofList 16 [])].foldl
            CodecCall.applySet ([] : List Uuid).toFinset) ∧
        ∀ buf, codec.decodeRequest buf = VlessRequest.decode buf
          ([CodecCall.addUuid (Octets.ofList 16 []), .removeUuid (Octets.ofList 16 [])].foldl
            CodecCall.applySet ([] : List Uuid).toFinset).toList :=
  ⟨List.nodup_nil, codec_run_refines_set List.nodup_nil _⟩

/-- A client id given twice passes the validator's check of its inbound, and
the codec `run_inbound` then builds keeps it: `remove_uuid` reports its
removal, and `validate_uuid` still accepts it. -/
theorem removeUuid_keeps_repeated_client {ε δ : Type} (primitives : Reality.Primitives ε)
    (base64 : Server.Base64 δ) (parseUuid : String → Option Uuid) (binds : RustNet.SocketAddr → Bool)
    {inbound : Config.Inbound} {client : Config.Client} (listed : client ∈ inbound.settings.clients)
    (valid : Config.Validator.InboundValid parseUuid inbound) :
    Config.Validator.InboundValid parseUuid
        { inbound with settings := { inbound.settings with clients := client :: inbound.settings.clients } } ∧
      ∀ listener, Server.runInbound primitives base64 parseUuid binds
          { inbound with settings := { inbound.settings with clients := client :: inbound.settings.clients } } =
            .ok listener →
        ∃ uuid, parseUuid client.id = some uuid ∧ ((VlessCodec.new listener.uuids).removeUuid uuid).2 = true ∧
          ((VlessCodec.new listener.uuids).removeUuid uuid).1.validateUuid uuid = true := by
  refine ⟨Config.Validator.InboundValid.repeat_client parseUuid listed valid, ?_⟩
  intro listener started
  obtain ⟨uuid, parsed⟩ := Option.isSome_iff_exists.mp (valid.clients client listed)
  have listedTwice : 2 ≤ listener.uuids.count uuid := by
    have again : uuid ∈ inbound.settings.clients.filterMap fun client => parseUuid client.id :=
      List.mem_filterMap.mpr ⟨client, listed, parsed⟩
    obtain ⟨-, -, -, -, -, uuids⟩ := Server.runInbound_eq_ok primitives base64 parseUuid binds started
    rw [uuids, List.filterMap_cons, parsed, List.count_cons_self]
    have once := List.count_pos_iff.mpr again
    omega
  obtain ⟨reported, kept⟩ := VlessCodec.removeUuid_revokes_iff (VlessCodec.new listener.uuids) uuid
  refine ⟨uuid, parsed, ?_, kept.mpr listedTwice⟩
  rw [reported, VlessCodec.validateUuid_iff, ← List.count_pos_iff]
  exact Nat.lt_of_lt_of_le (by decide) listedTwice

theorem removeUuid_keeps_repeated_client_once :
    let primitives : Reality.Primitives Unit :=
      ⟨fun _ => .error (), fun _ => "", fun _ _ => [], fun _ _ => none, fun _ _ _ _ => none⟩
    let base64 : Server.Base64 Unit := ⟨fun _ => .error (), fun _ => .error ()⟩
    let parseUuid : String → Option Uuid := fun _ => some (Octets.ofList 16 [])
    let binds : RustNet.SocketAddr → Bool := fun _ => true
    let client : Config.Client := ⟨"b831381d-6324-4d53-ad4f-8cda48b30811"⟩
    let inbound : Config.Inbound :=
      ⟨.vless, "0.0.0.0", 443, ⟨[client], ⟨false⟩⟩, ⟨.none, none, none, ⟨true, true, false⟩⟩⟩
    client ∈ inbound.settings.clients ∧ Config.Validator.InboundValid parseUuid inbound ∧
      Config.Validator.InboundValid parseUuid
          { inbound with settings := { inbound.settings with clients := client :: inbound.settings.clients } } ∧
        ∀ listener, Server.runInbound primitives base64 parseUuid binds
            { inbound with settings := { inbound.settings with clients := client :: inbound.settings.clients } } =
              .ok listener →
          ∃ uuid, parseUuid client.id = some uuid ∧ ((VlessCodec.new listener.uuids).removeUuid uuid).2 = true ∧
            ((VlessCodec.new listener.uuids).removeUuid uuid).1.validateUuid uuid = true := by
  intro primitives base64 parseUuid binds client inbound
  have listed : client ∈ inbound.settings.clients := List.mem_singleton_self client
  have valid : Config.Validator.InboundValid parseUuid inbound :=
    ⟨show (443 : UInt16) ≠ 0 by decide, fun _ _ => rfl, fun _ absent => (nomatch absent),
      fun _ absent => (nomatch absent)⟩
  exact ⟨listed, valid, removeUuid_keeps_repeated_client primitives base64 parseUuid binds listed valid⟩

end XrayLite.Vless
