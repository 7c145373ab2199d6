import XrayLite.Config.Validator
import XrayLite.Reality.ServerRustls
import XrayLite.Lib.RustNet
import XrayLite.Vless.Request

/-! Starting an inbound and handing it its connections: `Server::run_inbound`
and `Server::handle_client` of `src/server.rs`, with `RealityServer::new`
(`src/transport/reality/server.rs`) and `XhttpServer::new`.

The socket calls of `run_inbound` are the system's: whether an address can be
bound is a parameter. The `base64` and `uuid` crates are parameters too. Of
`handle_client` the model keeps what it puts between the TCP stream and
`serve_vless`: the layers, outermost first.
-/

set_option autoImplicit false

namespace XrayLite.Server

open Config RustNet Reality

-- `base64::engine::general_purpose::URL_SAFE_NO_PAD` and `STANDARD`
structure Base64 (δ : Type) where
  urlSafeNoPad : String → Except δ (List UInt8)
  standard : String → Except δ (List UInt8)

structure RealityServer where
  inner : RealityServerRustls
  deriving DecidableEq, Repr

inductive RealityServerError (ε δ : Type) where
  -- "Reality dest 不能为空"
  | emptyDest
  -- "Reality privateKey 不能为空"
  | emptyPrivateKey
  -- "Failed to decode Reality private key: {e}"
  | privateKeyDecode (error : δ)
  -- "Reality privateKey must be 32 bytes (got {n})"
  | privateKeyLength (got : Nat)
  | rustls (error : ServerError ε)
  deriving DecidableEq, Repr

section Reality

variable {ε δ : Type} (primitives : Primitives ε) (base64 : Base64 δ)

/-- `RealityServer::new`; `run_inbound` passes the inbound's Reality settings
field by field as its `RealityConfig`. -/
def RealityServer.new (config : RealitySettings) : Except (RealityServerError ε δ) RealityServer := do
  if config.dest.isEmpty then throw .emptyDest
  if config.privateKey.isEmpty then throw .emptyPrivateKey
  -- `URL_SAFE_NO_PAD.decode(..).or_else(|_| STANDARD.decode(..))`
  let privateKeyBytes ← match base64.urlSafeNoPad config.privateKey with
    | .ok bytes => pure bytes
    | .error _ => (base64.standard config.privateKey).mapError .privateKeyDecode
  if privateKeyBytes.length ≠ 32 then throw (.privateKeyLength privateKeyBytes.length)
  let inner ← (RealityServerRustls.new primitives privateKeyBytes (some config.dest) config.shortIds
    config.serverNames).mapError .rustls
  pure ⟨inner⟩

end Reality

structure XhttpConfig where
  mode : XhttpMode
  path : String
  host : String
  deriving DecidableEq, Repr

structure XhttpServer where
  config : XhttpConfig
  deriving DecidableEq, Repr

def XhttpServer.new (config : XhttpConfig) : Except String XhttpServer :=
  if config.path.isEmpty then .error "XHTTP path 不能为空" else .ok ⟨config⟩

inductive InboundError (ε δ : Type) where
  | addrParse (error : AddrParseError)
  | bind (addr : SocketAddr)
  | reality (error : RealityServerError ε δ)
  | xhttp (message : String)
  deriving DecidableEq, Repr

/-- What `run_inbound` has built when it enters its accept loop. -/
structure Listener where
  socketAddr : SocketAddr
  -- `VlessCodec::new(uuids)`
  uuids : List Vless.Uuid
  realityServer : Option RealityServer
  xhttpServer : Option XhttpServer
  sniffingEnabled : Bool
  tcpNoDelay : Bool
  acceptProxyProtocol : Bool
  deriving DecidableEq, Repr

-- `format!("{}:{}", inbound.listen, inbound.port)`
def listenAddr (inbound : Inbound) : String := inbound.listen ++ ":" ++ toString inbound.port.toNat

section Inbound

variable {ε δ : Type} (primitives : Primitives ε) (base64 : Base64 δ) (parseUuid : String → Option Vless.Uuid)
  (binds : SocketAddr → Bool)

-- `let reality_server = ..`: a Reality server only for Reality security with Reality settings
def buildRealityServer (inbound : Inbound) : Except (InboundError ε δ) (Option RealityServer) :=
  if inbound.streamSettings.security = .reality then
    match inbound.streamSettings.realitySettings with
    | some settings => ((RealityServer.new primitives base64 settings).map some).mapError .reality
    | none => .ok none
  else .ok none

-- `let _xhttp_server = ..`
def buildXhttpServer (inbound : Inbound) : Except (InboundError ε δ) (Option XhttpServer) :=
  match inbound.streamSettings.xhttpSettings with
  | some settings => ((XhttpServer.new ⟨settings.mode, settings.path, settings.host⟩).map some).mapError .xhttp
  | none => .ok none

def runInbound (inbound : Inbound) : Except (InboundError ε δ) Listener := do
  let socketAddr ← (SocketAddr.fromStr (listenAddr inbound)).mapError .addrParse
  -- `Socket::new`, `bind`, `listen`
  unless binds socketAddr do throw (.bind socketAddr)
  let uuids := inbound.settings.clients.filterMap fun client => parseUuid client.id
  let realityServer ← buildRealityServer primitives base64 inbound
  let xhttpServer ← buildXhttpServer inbound
  pure { socketAddr, uuids, realityServer, xhttpServer,
         sniffingEnabled := inbound.settings.sniffing.enabled,
         tcpNoDelay := inbound.streamSettings.sockopt.tcpNoDelay,
         acceptProxyProtocol := inbound.streamSettings.sockopt.acceptProxyProtocol }

theorem XhttpServer.new_of_path {config : XhttpConfig} (path : config.path ≠ "") :
    XhttpServer.new config = .ok ⟨config⟩ := by
  simp [XhttpServer.new, String.isEmpty_iff, path]

theorem buildRealityServer_eq_ok {inbound : Inbound} {realityServer : Option RealityServer}
    (built : buildRealityServer primitives base64 inbound = .ok realityServer) :
    realityServer.isSome ↔
      inbound.streamSettings.security = .reality ∧ inbound.streamSettings.realitySettings.isSome := by
  unfold buildRealityServer at built
  split at built
  case isTrue reality =>
    split at built
    case h_1 settings present =>
      cases made : RealityServer.new primitives base64 settings <;>
        simp [made, Except.map, Except.mapError] at built
      simp [← built, reality, present]
    case h_2 absent =>
      cases built
      simp [absent]
  case isFalse other =>
    cases built
    simp [other]

theorem buildRealityServer_ok_iff (inbound : Inbound) :
    (∃ realityServer, buildRealityServer primitives base64 inbound = .ok realityServer) ↔
      (inbound.streamSettings.security = .reality → ∀ settings,
        inbound.streamSettings.realitySettings = some settings →
          ∃ server, RealityServer.new primitives base64 settings = .ok server) := by
  unfold buildRealityServer
  split
  case isTrue reality =>
    split
    case h_1 settings present =>
      cases made : RealityServer.new primitives base64 settings <;>
        simp [made, present, reality, Except.map, Except.mapError]
    case h_2 absent => simp [absent]
  case isFalse other => simp [other]

theorem buildXhttpServer_eq_ok {inbound : Inbound} {xhttpServer : Option XhttpServer}
    (built : buildXhttpServer (ε := ε) (δ := δ) inbound = .ok xhttpServer) :
    xhttpServer.isSome = inbound.streamSettings.xhttpSettings.isSome := by
  unfold buildXhttpServer at built
  split at built
  case h_1 settings present =>
    cases made : XhttpServer.new ⟨settings.mode, settings.path, settings.host⟩ <;>
      simp [made, Except.map, Except.mapError] at built
    simp [← built, present]
  case h_2 absent =>
    cases built
    simp [absent]

theorem buildXhttpServer_of_path {inbound : Inbound}
    (path : ∀ xhttp, inbound.streamSettings.xhttpSettings = some xhttp → xhttp.path ≠ "") :
    ∃ xhttpServer, buildXhttpServer (ε := ε) (δ := δ) inbound = .ok xhttpServer := by
  unfold buildXhttpServer
  split
  case h_1 settings present =>
    have nonEmpty : (⟨settings.mode, settings.path, settings.host⟩ : XhttpConfig).path ≠ "" :=
      path settings present
    simp [XhttpServer.new_of_path nonEmpty, Except.map, Except.mapError]
  case h_2 => exact ⟨none, rfl⟩

/-- `run_inbound` reaches its accept loop with the parsed and bound address, the
servers the inbound's settings call for, and the UUIDs of the clients whose ids
parse, in the configuration's order and with any repeat. -/
theorem runInbound_eq_ok {inbound : Inbound} {listener : Listener}
    (started : runInbound primitives base64 parseUuid binds inbound = .ok listener) :
    SocketAddr.fromStr (listenAddr inbound) = .ok listener.socketAddr ∧ binds listener.socketAddr ∧
      buildRealityServer primitives base64 inbound = .ok listener.realityServer ∧
      buildXhttpServer (ε := ε) (δ := δ) inbound = .ok listener.xhttpServer ∧
      listener.acceptProxyProtocol = inbound.streamSettings.sockopt.acceptProxyProtocol ∧
      listener.uuids = inbound.settings.clients.filterMap fun client => parseUuid client.id := by
  unfold runInbound at started
  obtain ⟨addr, parsed, started⟩ := Except.bind_eq_ok_iff.mp started
  have bound : binds addr := by
    cases checked : binds addr <;> simp_all [throw, throwThe, MonadExceptOf.throw, bind, Except.bind]
  simp only [bound, if_true] at started
  obtain ⟨realityServer, reality, started⟩ := Except.bind_eq_ok_iff.mp started
  obtain ⟨xhttpServer, xhttp, started⟩ := Except.bind_eq_ok_iff.mp started
  cases started
  exact ⟨Except.mapError_eq_ok_iff.mp parsed, bound, reality, xhttp, rfl, rfl⟩

/-- For an inbound the validator accepts, `run_inbound` starts exactly when its
address parses and binds and, with Reality security and settings, `RealityServer::new`
accepts them. -/
theorem runInbound_ok_iff {inbound : Inbound} (valid : Validator.InboundValid parseUuid inbound) :
    (∃ listener, runInbound primitives base64 parseUuid binds inbound = .ok listener) ↔
      (∃ addr, SocketAddr.fromStr (listenAddr inbound) = .ok addr ∧ binds addr) ∧
      (inbound.streamSettings.security = .reality → ∀ settings,
        inbound.streamSettings.realitySettings = some settings →
          ∃ server, RealityServer.new primitives base64 settings = .ok server) := by
  rw [← buildRealityServer_ok_iff]
  constructor
  case mp =>
    rintro ⟨listener, started⟩
    obtain ⟨parsed, bound, reality, -⟩ := runInbound_eq_ok primitives base64 parseUuid binds started
    exact ⟨⟨listener.socketAddr, parsed, bound⟩, listener.realityServer, reality⟩
  case mpr =>
    rintro ⟨⟨addr, parsed, bound⟩, realityServer, reality⟩
    obtain ⟨xhttpServer, xhttp⟩ := buildXhttpServer_of_path (ε := ε) (δ := δ) valid.xhttp
    refine ⟨⟨addr, inbound.settings.clients.filterMap (parseUuid ·.id), realityServer, xhttpServer,
      inbound.settings.sniffing.enabled, inbound.streamSettings.sockopt.tcpNoDelay,
      inbound.streamSettings.sockopt.acceptProxyProtocol⟩, ?_⟩
    simp [runInbound, parsed, bound, reality, xhttp, bind, Except.bind, pure, Except.pure, Except.mapError]

end Inbound

inductive Layer where
  -- the PROXY header, when the peeked bytes carry one
  | proxyProtocol
  | realityHandshake
  | xhttp
  deriving DecidableEq, Repr

/-- What `handle_client` runs a connection through before `serve_vless`. -/
def handleClientLayers (listener : Listener) : List Layer :=
  (if listener.acceptProxyProtocol then [.proxyProtocol] else []) ++
    (if listener.realityServer.isSome then [.realityHandshake] else []) ++
    (if listener.xhttpServer.isSome then [.xhttp] else [])

-- The layers an inbound's settings call for.
def inboundLayers (inbound : Inbound) : List Layer :=
  (if inbound.streamSettings.sockopt.acceptProxyProtocol then [.proxyProtocol] else []) ++
    (if inbound.streamSettings.security = .reality ∧ inbound.streamSettings.realitySettings.isSome then
      [.realityHandshake] else []) ++
    (if inbound.streamSettings.xhttpSettings.isSome then [.xhttp] else [])

section Connections

variable {ε δ : Type} (primitives : Primitives ε) (base64 : Base64 δ) (parseUuid : String → Option Vless.Uuid)
  (binds : SocketAddr → Bool)

theorem handleClientLayers_of_runInbound {inbound : Inbound} {listener : Listener}
    (started : runInbound primitives base64 parseUuid binds inbound = .ok listener) :
    handleClientLayers listener = inboundLayers inbound := by
  obtain ⟨-, -, reality, xhttp, proxy, -⟩ := runInbound_eq_ok primitives base64 parseUuid binds started
  have realityLayer := buildRealityServer_eq_ok primitives base64 reality
  have xhttpLayer := buildXhttpServer_eq_ok xhttp
  unfold handleClientLayers inboundLayers
  rw [proxy, xhttpLayer]
  by_cases declared : inbound.streamSettings.security = .reality ∧ inbound.streamSettings.realitySettings.isSome
  case pos => rw [if_pos (realityLayer.mpr declared), if_pos declared]
  case neg => rw [if_neg (mt realityLayer.mp declared), if_neg declared]

/-- A validated inbound starts exactly when its address parses and binds and, with
Reality security and settings, `RealityServer::new` accepts them; and then every
connection goes through the Reality handshake exactly when the inbound has Reality
security and settings. -/
theorem validated_inbound_layers (config : Config)
    (validated : Validator.validate parseUuid config = .ok ()) :
    ∀ inbound ∈ config.inbounds,
      ((∃ listener, runInbound primitives base64 parseUuid binds inbound = .ok listener) ↔
        (∃ addr, SocketAddr.fromStr (listenAddr inbound) = .ok addr ∧ binds addr) ∧
        (inbound.streamSettings.security = .reality → ∀ settings,
          inbound.streamSettings.realitySettings = some settings →
            ∃ server, RealityServer.new primitives base64 settings = .ok server)) ∧
      ∀ listener, runInbound primitives base64 parseUuid binds inbound = .ok listener →
        handleClientLayers listener = inboundLayers inbound := by
  intro inbound member
  obtain ⟨-, valid, -⟩ := (Validator.validate_eq_ok_iff parseUuid config).mp validated
  constructor
  case left => exact runInbound_ok_iff primitives base64 parseUuid binds (valid inbound member)
  case right =>
    intro listener started
    exact handleClientLayers_of_runInbound primitives base64 parseUuid binds started

end Connections

/-- Three validated configurations: a TLS inbound that serves VLESS on the bare TCP
stream, the validator's own test configuration whose key `RealityServer::new`
refuses, and a host name as the listen address, which does not parse. -/
theorem validated_config_insecure_or_failing :
    let primitives : Primitives Hex.FromHexError :=
      ⟨Hex.decode, Hex.encode, fun _ _ => [], fun _ _ => none, fun _ _ _ _ => none⟩
    -- `URL_SAFE_NO_PAD` reads the 8 characters of "test_key" as 6 bytes
    let base64 : Base64 Unit :=
      ⟨fun key => if key = "test_key" then .ok [0xb5, 0xeb, 0x2d, 0xfe, 0x47, 0xb2] else .error (),
        fun _ => .error ()⟩
    let uuid : Vless.Uuid := Octets.ofList 16
      [0xb8, 0x31, 0x38, 0x1d, 0x63, 0x24, 0x4d, 0x53, 0xad, 0x4f, 0x8c, 0xda, 0x48, 0xb3, 0x08, 0x11]
    let parseUuid : String → Option Vless.Uuid :=
      fun id => if id = "b831381d-6324-4d53-ad4f-8cda48b30811" then some uuid else none
    let binds : SocketAddr → Bool := fun _ => true
    let inbound (listen : String) (security : Security) (reality : Option RealitySettings) : Inbound :=
      ⟨.vless, listen, 443, ⟨[⟨"b831381d-6324-4d53-ad4f-8cda48b30811"⟩], ⟨false⟩⟩,
        ⟨security, reality, none, ⟨true, true, false⟩⟩⟩
    let outbounds : List Outbound := [⟨"freedom", "direct"⟩]
    let testReality : RealitySettings :=
      ⟨"www.apple.com:443", ["www.apple.com"], "test_key", none, ["0123456789abcdef"], "chrome"⟩
    (Validator.validate parseUuid ⟨[inbound "0.0.0.0" .tls none], outbounds⟩ = .ok () ∧
      (runInbound primitives base64 parseUuid binds (inbound "0.0.0.0" .tls none)).map handleClientLayers =
        .ok []) ∧
    (Validator.validate parseUuid ⟨[inbound "0.0.0.0" .reality (some testReality)], outbounds⟩ = .ok () ∧
      RealityServer.new primitives base64 testReality = .error (.privateKeyLength 6)) ∧
    (Validator.validate parseUuid ⟨[inbound "localhost" .none none], outbounds⟩ = .ok () ∧
      SocketAddr.fromStr (listenAddr (inbound "localhost" .none none)) = .error ⟨.socket⟩) := by
  dsimp only
  refine ⟨⟨?_, ?_⟩, ⟨?_, ?_⟩, ⟨?_, ?_⟩⟩
  all_goals decide +kernel

theorem validated_inbound_layers_reality :
    let primitives : Primitives Hex.FromHexError :=
      ⟨Hex.decode, Hex.encode, fun _ _ => [], fun _ _ => none, fun _ _ _ _ => none⟩
    -- 43 characters `A` are 32 zero bytes in `URL_SAFE_NO_PAD`
    let key : String := "AAAAAAAAAAAAAAAAAAAAAAAAAAAAAAAAAAAAAAAAAAA"
    let base64 : Base64 Unit :=
      ⟨fun text => if text = key then .ok (List.replicate 32 0) else .error (), fun _ => .error ()⟩
    let parseUuid : String → Option Vless.Uuid := fun _ => none
    let binds : SocketAddr → Bool := fun _ => true
    let inbound : Inbound := ⟨.vless, "0.0.0.0", 443, ⟨[], ⟨false⟩⟩,
      ⟨.reality, some ⟨"www.apple.com:443", ["www.apple.com"], key, none, [""], "chrome"⟩, none,
        ⟨true, true, false⟩⟩⟩
    ((∃ listener, runInbound primitives base64 parseUuid binds inbound = .ok listener) ↔
        (∃ addr, SocketAddr.fromStr (listenAddr inbound) = .ok addr ∧ binds addr) ∧
        (inbound.streamSettings.security = .reality → ∀ settings,
          inbound.streamSettings.realitySettings = some settings →
            ∃ server, RealityServer.new primitives base64 settings = .ok server)) ∧
      ∀ listener, runInbound primitives base64 parseUuid binds inbound = .ok listener →
        handleClientLayers listener = inboundLayers inbound := by
  intro primitives key base64 parseUuid binds inbound
  exact validated_inbound_layers primitives base64 parseUuid binds ⟨[inbound], [⟨"freedom", "direct"⟩]⟩
    (by decide +kernel) inbound List.mem_cons_self

end XrayLite.Server
