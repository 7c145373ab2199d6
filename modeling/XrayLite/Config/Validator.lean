import XrayLite.Lib.Octets

/-! The configuration of `src/config/mod.rs` and its check, `src/config/validator.rs`.

Only the fields that the check, `Server::run_inbound` or `Server::handle_client`
read are kept: not `network`, `decryption`, `flow`, `email`, `destOverride`, an
outbound's `settings` or the routing rules. `Uuid::parse_str` is the `uuid` crate's,
and a parameter here.
-/

set_option autoImplicit false

namespace XrayLite.Config

inductive Protocol where
  | vless | vmess | trojan | shadowsocks
  deriving DecidableEq, Repr

structure Client where
  id : String
  deriving DecidableEq, Repr

structure SniffingConfig where
  enabled : Bool
  deriving DecidableEq, Repr

structure InboundSettings where
  clients : List Client
  sniffing : SniffingConfig
  deriving DecidableEq, Repr

inductive Security where
  | none | tls | reality
  deriving DecidableEq, Repr

structure RealitySettings where
  dest : String
  serverNames : List String
  privateKey : String
  publicKey : Option String
  shortIds : List String
  fingerprint : String
  deriving DecidableEq, Repr

inductive XhttpMode where
  | auto | streamUp | streamDown | streamOne
  deriving DecidableEq, Repr

structure XhttpSettings where
  mode : XhttpMode
  path : String
  host : String
  deriving DecidableEq, Repr

structure SockOpt where
  tcpFastOpen : Bool
  tcpNoDelay : Bool
  acceptProxyProtocol : Bool
  deriving DecidableEq, Repr

structure StreamSettings where
  security : Security
  realitySettings : Option RealitySettings
  xhttpSettings : Option XhttpSettings
  sockopt : SockOpt
  deriving DecidableEq, Repr

structure Inbound where
  protocol : Protocol
  listen : String
  port : UInt16
  settings : InboundSettings
  streamSettings : StreamSettings
  deriving DecidableEq, Repr

structure Outbound where
  protocol : String
  tag : String
  deriving DecidableEq, Repr

set_option linter.dupNamespace false in
structure Config where
  inbounds : List Inbound
  outbounds : List Outbound
  deriving DecidableEq, Repr

-- Every check of the validator has this shape: an empty field is refused with
-- a message naming it.
def ensureNonEmpty (empty : Bool) (message : String) : Except String Unit :=
  if empty then .error message else .ok ()

@[simp] theorem ensureNonEmpty_eq_ok_iff (empty : Bool) (message : String) :
    ensureNonEmpty empty message = .ok () ↔ empty = false := by
  cases empty <;> simp [ensureNonEmpty]

namespace Validator

variable (parseUuid : String → Option (Octets 16))

def validateRealitySettings (reality : RealitySettings) (inboundIdx : Nat) : Except String Unit := do
  ensureNonEmpty reality.dest.isEmpty s!"入站 {inboundIdx} 的 Reality dest 不能为空"
  ensureNonEmpty reality.serverNames.isEmpty s!"入站 {inboundIdx} 的 Reality serverNames 不能为空"
  ensureNonEmpty reality.privateKey.isEmpty s!"入站 {inboundIdx} 的 Reality privateKey 不能为空"

def validateXhttpSettings (xhttp : XhttpSettings) (inboundIdx : Nat) : Except String Unit :=
  ensureNonEmpty xhttp.path.isEmpty s!"入站 {inboundIdx} 的 XHTTP path 不能为空"

-- the client loop of `validate_inbound`, from client `clientIdx` on
def validateClients (idx : Nat) : Nat → List Client → Except String Unit
  | _, [] => .ok ()
  | clientIdx, client :: clients =>
    let id := client.id
    if (parseUuid id).isNone then .error s!"入站 {idx} 的客户端 {clientIdx} UUID 格式无效: {id}"
    else validateClients idx (clientIdx + 1) clients

def validateInbound (inbound : Inbound) (idx : Nat) : Except String Unit := do
  if inbound.port = 0 then throw s!"入站 {idx} 的端口不能为 0"
  validateClients parseUuid idx 0 inbound.settings.clients
  if let some reality := inbound.streamSettings.realitySettings then
    validateRealitySettings reality idx
  if let some xhttp := inbound.streamSettings.xhttpSettings then
    validateXhttpSettings xhttp idx

-- the inbound loop of `validate`, from inbound `idx` on
def validateInbounds : Nat → List Inbound → Except String Unit
  | _, [] => .ok ()
  | idx, inbound :: inbounds => do
    validateInbound parseUuid inbound idx
    validateInbounds (idx + 1) inbounds

def validate (config : Config) : Except String Unit := do
  if config.inbounds.isEmpty then throw "至少需要一个入站配置"
  validateInbounds parseUuid 0 config.inbounds
  if config.outbounds.isEmpty then throw "至少需要一个出站配置"

/-- What the validator asks of one inbound, whatever its place in the list. -/
@[mk_iff] structure InboundValid (inbound : Inbound) : Prop where
  port_ne_zero : inbound.port ≠ 0
  clients : ∀ client ∈ inbound.settings.clients, (parseUuid client.id).isSome
  reality : ∀ reality, inbound.streamSettings.realitySettings = some reality →
    reality.dest ≠ "" ∧ reality.serverNames ≠ [] ∧ reality.privateKey ≠ ""
  xhttp : ∀ xhttp, inbound.streamSettings.xhttpSettings = some xhttp → xhttp.path ≠ ""

/-- The clients are checked one by one: listing a client of a valid inbound once
more keeps it valid. -/
theorem InboundValid.repeat_client {inbound : Inbound} {client : Client} (listed : client ∈ inbound.settings.clients)
    (valid : InboundValid parseUuid inbound) :
    InboundValid parseUuid
      { inbound with settings := { inbound.settings with clients := client :: inbound.settings.clients } } := by
  refine ⟨valid.port_ne_zero, ?_, valid.reality, valid.xhttp⟩
  intro member listedAgain
  rcases List.mem_cons.mp listedAgain with same | earlier
  case inl => exact same ▸ valid.clients client listed
  case inr => exact valid.clients member earlier

theorem validateClients_eq_ok_iff (idx : Nat) :
    ∀ (clientIdx : Nat) (clients : List Client),
      validateClients parseUuid idx clientIdx clients = .ok () ↔
        ∀ client ∈ clients, (parseUuid client.id).isSome
  | _, [] => by simp [validateClients]
  | clientIdx, client :: clients => by
    unfold validateClients
    dsimp only
    by_cases parsed : (parseUuid client.id).isNone
    case pos =>
      simp only [parsed, if_true]
      simp_all
    case neg =>
      have first : (parseUuid client.id).isSome := by
        cases found : parseUuid client.id <;> simp_all
      rw [if_neg parsed, validateClients_eq_ok_iff idx (clientIdx + 1) clients, List.forall_mem_cons]
      simp [first]

theorem validateRealitySettings_eq_ok_iff (reality : RealitySettings) (inboundIdx : Nat) :
    validateRealitySettings reality inboundIdx = .ok () ↔
      reality.dest ≠ "" ∧ reality.serverNames ≠ [] ∧ reality.privateKey ≠ "" := by
  unfold validateRealitySettings
  cases dest : reality.dest.isEmpty <;> cases names : reality.serverNames.isEmpty <;>
    cases key : reality.privateKey.isEmpty <;>
    simp_all [ensureNonEmpty, bind, Except.bind, String.isEmpty_iff]

theorem validateInbound_eq_ok_iff (inbound : Inbound) (idx : Nat) :
    validateInbound parseUuid inbound idx = .ok () ↔ InboundValid parseUuid inbound := by
  rw [inboundValid_iff, ← validateClients_eq_ok_iff parseUuid idx 0]
  unfold validateInbound
  by_cases zero : inbound.port = 0
  case pos => simp [zero, throw, throwThe, MonadExceptOf.throw, bind, Except.bind]
  case neg =>
    cases clients : validateClients parseUuid idx 0 inbound.settings.clients
    case error => simp [zero, bind, Except.bind]
    case ok =>
      cases reality : inbound.streamSettings.realitySettings with
      | none =>
        cases xhttp : inbound.streamSettings.xhttpSettings <;>
          simp [zero, bind, Except.bind, pure, Except.pure, validateXhttpSettings, ensureNonEmpty,
            String.isEmpty_iff]
      | some settings =>
        have checked := validateRealitySettings_eq_ok_iff settings idx
        cases result : validateRealitySettings settings idx <;>
          cases xhttp : inbound.streamSettings.xhttpSettings <;>
          simp_all [bind, Except.bind, pure, Except.pure, validateXhttpSettings, ensureNonEmpty,
            String.isEmpty_iff]

theorem validateInbounds_eq_ok_iff :
    ∀ (idx : Nat) (inbounds : List Inbound),
      validateInbounds parseUuid idx inbounds = .ok () ↔ ∀ inbound ∈ inbounds, InboundValid parseUuid inbound
  | _, [] => by simp [validateInbounds]
  | idx, inbound :: inbounds => by
    have first := validateInbound_eq_ok_iff parseUuid inbound idx
    have rest := validateInbounds_eq_ok_iff (idx + 1) inbounds
    unfold validateInbounds
    cases checked : validateInbound parseUuid inbound idx <;> simp_all [bind, Except.bind]

/-- The validator accepts exactly the configurations with an inbound and an
outbound whose every inbound is valid. -/
theorem validate_eq_ok_iff (config : Config) :
    validate parseUuid config = .ok () ↔
      config.inbounds ≠ [] ∧ (∀ inbound ∈ config.inbounds, InboundValid parseUuid inbound) ∧
        config.outbounds ≠ [] := by
  have inbounds := validateInbounds_eq_ok_iff parseUuid 0 config.inbounds
  unfold validate
  cases checked : validateInbounds parseUuid 0 config.inbounds <;>
    cases noInbound : config.inbounds.isEmpty <;> cases noOutbound : config.outbounds.isEmpty <;>
    simp_all [bind, Except.bind, pure, Except.pure, throw, throwThe, MonadExceptOf.throw]

end Validator

end XrayLite.Config
