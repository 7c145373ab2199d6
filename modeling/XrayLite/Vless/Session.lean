import XrayLite.Vless.Header
import XrayLite.Lib.Inflow
import XrayLite.Protocol.Sniffer

/-! One VLESS session, `src/handler.rs` `serve_vless`.

The client's bytes are an `Inflow`: every way the transport can divide them
into reads. The session reads once, decodes the request from that one read,
answers, and then serves the command. Timeouts are left out except the 500 ms
of the sniffing read, whose outcome changes what is read; whatever else the
network decides (whether a dial or a DNS lookup succeeds, what the target
sends back) is a field of `Peers`.
-/

set_option autoImplicit false

namespace XrayLite.Vless

open BigEndian

def bufferSize : Nat := 16384

/-- How `tokio::select!` ends the UDP relay: with the first of its two loops to
end, the other cancelled where it had got to. -/
inductive UdpRace where
  /-- `send_task` ends first; `recv_task` had written this many frames. -/
  | sendFirst (framed : Nat)
  /-- `recv_task` ends first; `send_task` had sent this many datagrams. -/
  | recvFirst (sent : Nat)
  deriving DecidableEq, Repr

/-- What the network does in a session, apart from the client's own bytes. -/
structure Peers where
  /-- Whether the client's next bytes arrive within the sniffing read's 500 ms. -/
  sniffReadInTime : Bool
  /-- Whether `TcpStream::connect` of a target succeeds. -/
  connects : String → Bool
  /-- What the dialed server sends, until it closes. -/
  remote : Inflow UInt8
  /-- Whether `lookup_host` of a UDP target yields an address. -/
  resolves : String → Bool
  /-- The datagrams the UDP target sends back while the session lasts. -/
  udpReplies : List (List UInt8)
  udpRace : UdpRace

/-- How a session ends, with what it sent where. `toClient` is every byte written
back to the client. -/
inductive Served where
  /-- The first read returned 0. -/
  | closedEarly
  /-- Decoding failed on an HTTP probe; the session answered `204` and ended. -/
  | probeAnswered (toClient : List UInt8)
  /-- Decoding failed otherwise; `serve_vless` returns the error. -/
  | rejected (error : RequestError)
  | tcpDialFailed (request : VlessRequest) (target : String) (toClient : List UInt8)
  | tcp (request : VlessRequest) (target : String) (toRemote toClient : List UInt8)
  | udpResolveFailed (request : VlessRequest) (toClient : List UInt8)
  | udp (request : VlessRequest) (datagrams : List (List UInt8)) (toClient : List UInt8)
  | mux (request : VlessRequest) (toClient : List UInt8)
  /-- `sniff_tls_sni` panicked, which ends the task. -/
  | panicked
  deriving DecidableEq, Repr

/-- The probe test on what a failed decode left in the buffer: a 4-byte window
reading `GET `, `POST` or `HEAD`. -/
def isHttpProbe (buf : List UInt8) : Bool :=
  decide (Utf8.encode "GET " <:+: buf ∨ Utf8.encode "POST" <:+: buf) || decide (Utf8.encode "HEAD" <:+: buf)

def probeReply : List UInt8 := Utf8.encode "HTTP/1.1 204 No Content\r\n\r\n"

def initialDatagram (buf : List UInt8) : List (List UInt8) :=
  match buf with
  | hi :: lo :: payload =>
    let len := value [hi, lo]
    if buf.length ≥ 2 + len then [payload.take len] else []
  | _ => []

/-- The `send_task` loop: `read_exact` a 2-byte length, stop on 0 or on more than
the 16 KiB buffer, `read_exact` the payload and send it; any read error ends the loop. -/
def sendTask (client : Inflow UInt8) : List (List UInt8) :=
  match lengthRead : client.readExact 2 with
  | none => []
  | some (lenBuf, afterLength) =>
    let len := value lenBuf
    if len = 0 ∨ len > bufferSize then []
    else
      match payloadRead : afterLength.readExact len with
      | none => []
      | some (payload, rest) =>
        have shorter : rest.bytes.length < client.bytes.length := by
          rw [Inflow.readExact_eq_some_iff] at lengthRead payloadRead
          obtain ⟨_, -, rfl⟩ := lengthRead
          obtain ⟨_, -, rfl⟩ := payloadRead
          simp only [Inflow.bytes_skip, List.length_drop] at *
          omega
        payload :: sendTask rest
termination_by client.bytes.length

def frameReply (datagram : List UInt8) : List UInt8 :=
  [UInt8.ofNat (datagram.length / 256), UInt8.ofNat (datagram.length % 256)] ++ datagram

def recvTask : List (List UInt8) → List (List UInt8)
  | [] => []
  | datagram :: rest => if datagram.length = 0 then [] else frameReply datagram :: recvTask rest

/-- The `select!` over the two loops: the datagrams sent and the bytes written
back, given what each loop does when left to run. -/
def udpRelay (datagrams frames : List (List UInt8)) : UdpRace → List (List UInt8) × List UInt8
  | .sendFirst framed => (datagrams, (frames.take framed).flatten)
  | .recvFirst sent => (datagrams.take sent, frames.flatten)

def tcpTarget (request : VlessRequest) (sniffed : Option String) : String :=
  match sniffed with
  | some sni => sni ++ ":443"
  | none => request.address.toString

def initialData (sniffingEnabled : Bool) (buf : List UInt8) (client : Inflow UInt8) (peers : Peers) :
    List UInt8 × Inflow UInt8 :=
  if sniffingEnabled ∧ buf = [] ∧ peers.sniffReadInTime then client.read bufferSize else (buf, client)

def sniffInitial (sniffingEnabled : Bool) (initial : List UInt8) : Except Panic (Option String) :=
  if sniffingEnabled ∧ initial ≠ [] then Protocol.sniffTlsSni initial else pure none

def relayLoop (source : Inflow UInt8) : List UInt8 := (source.drain bufferSize).flatten

def serveTcp (request : VlessRequest) (sniffingEnabled : Bool) (buf : List UInt8)
    (client : Inflow UInt8) (peers : Peers) (toClient : List UInt8) : Served :=
  let (initial, client) := initialData sniffingEnabled buf client peers
  match sniffInitial sniffingEnabled initial with
  | .error _ => .panicked
  | .ok sni =>
    let target := tcpTarget request sni
    if ¬ peers.connects target then .tcpDialFailed request target toClient
    else
      .tcp request target (initial ++ relayLoop client) (toClient ++ relayLoop peers.remote)

def serveCommand (request : VlessRequest) (sniffingEnabled : Bool) (buf : List UInt8)
    (client : Inflow UInt8) (peers : Peers) : Served :=
  let toClient := VlessResponse.new.encode
  match request.command with
  | .tcp => serveTcp request sniffingEnabled buf client peers toClient
  | .udp =>
    if ¬ peers.resolves request.address.toString then .udpResolveFailed request toClient
    else
      let relayed := udpRelay (sendTask client) (recvTask peers.udpReplies) peers.udpRace
      .udp request (initialDatagram buf ++ relayed.1) (toClient ++ relayed.2)
  | .mux => .mux request toClient

/-- `serve_vless`: one read, one decode of what it returned. -/
def serveVless (allowedUuids : List Uuid) (sniffingEnabled : Bool) (client : Inflow UInt8)
    (peers : Peers) : Served :=
  let (firstRead, client) := client.read bufferSize
  if firstRead = [] then .closedEarly
  else
    match VlessRequest.decode firstRead allowedUuids with
    | (.error error, buf) => if isHttpProbe buf then .probeAnswered probeReply else .rejected error
    | (.ok request, buf) => serveCommand request sniffingEnabled buf client peers

/-! ### The steps of a session -/

@[simp] theorem relayLoop_eq (source : Inflow UInt8) : relayLoop source = source.bytes :=
  source.flatten_drain (by decide)

theorem initialData_append (sniffingEnabled : Bool) (buf : List UInt8) (client : Inflow UInt8)
    (peers : Peers) :
    (initialData sniffingEnabled buf client peers).1 ++ (initialData sniffingEnabled buf client peers).2.bytes =
      buf ++ client.bytes := by
  unfold initialData
  split
  case isTrue extra =>
    obtain ⟨-, rfl, -⟩ := extra
    simpa using client.read_append bufferSize
  case isFalse => rfl

theorem frameReply_eq (datagram : List UInt8) : frameReply datagram = bytes 2 datagram.length ++ datagram := by
  have low : UInt8.ofNat (datagram.length % 256) = UInt8.ofNat datagram.length := by
    apply UInt8.toNat_inj.mp
    simp [UInt8.toNat_ofNat']
  simp [frameReply, bytes, low]

theorem udpRelay_prefix (datagrams frames : List (List UInt8)) (race : UdpRace) :
    (udpRelay datagrams frames race).1 <+: datagrams ∧ (udpRelay datagrams frames race).2 <+: frames.flatten ∧
      ((udpRelay datagrams frames race).1 = datagrams ∨ (udpRelay datagrams frames race).2 = frames.flatten) := by
  cases race with
  | sendFirst framed =>
    refine ⟨List.prefix_refl _, ?_, .inl rfl⟩
    rw [udpRelay, ← List.take_append_drop framed frames, List.flatten_append, List.take_append_drop]
    exact List.prefix_append _ _
  | recvFirst sent => exact ⟨List.take_prefix sent datagrams, List.prefix_refl _, .inr rfl⟩

theorem sendTask_frames (datagrams : List (List UInt8))
    (sized : ∀ datagram ∈ datagrams, 0 < datagram.length ∧ datagram.length ≤ bufferSize) :
    ∀ client : Inflow UInt8, client.bytes = (datagrams.map frameReply).flatten →
      sendTask client = datagrams := by
  induction datagrams with
  | nil =>
    intro client framed
    rw [sendTask]
    split
    case h_1 => rfl
    case h_2 lenBuf afterLength lengthRead =>
      rw [Inflow.readExact_eq_some_iff, framed] at lengthRead
      simp at lengthRead
  | cons datagram datagrams ih =>
    intro client framed
    obtain ⟨nonempty, small⟩ := sized datagram List.mem_cons_self
    have framed' : client.bytes = bytes 2 datagram.length ++ (datagram ++ (datagrams.map frameReply).flatten) := by
      simp [framed, frameReply_eq]
    rw [sendTask]
    split
    case h_1 lengthRead =>
      simp [Inflow.readExact, framed'] at lengthRead
    case h_2 lenBuf afterLength lengthRead =>
      rw [Inflow.readExact_eq_some_iff] at lengthRead
      obtain ⟨-, rfl, rfl⟩ := lengthRead
      have announced : value (client.bytes.take 2) = datagram.length := by
        rw [framed', List.take_left' (length_bytes 2 _), value_bytes]
        unfold bufferSize at small
        omega
      dsimp only
      rw [announced, if_neg (by omega)]
      split
      case h_1 payloadRead =>
        simp [Inflow.readExact, framed'] at payloadRead
      case h_2 payload rest payloadRead =>
        rw [Inflow.readExact_eq_some_iff] at payloadRead
        obtain ⟨-, rfl, rfl⟩ := payloadRead
        simp only [List.cons.injEq]
        constructor
        case left => simp [framed']
        case right =>
          apply ih (fun d member => sized d (List.mem_cons_of_mem _ member))
          simp [framed']

section Steps

variable {request request' : VlessRequest} {sniffingEnabled : Bool} {buf : List UInt8}
  {client : Inflow UInt8} {peers : Peers} {target : String} {toRemote toClient : List UInt8}

theorem serveTcp_eq_tcp {response : List UInt8}
    (served : serveTcp request sniffingEnabled buf client peers response = .tcp request' target toRemote toClient) :
    request' = request ∧ toRemote = buf ++ client.bytes ∧ toClient = response ++ peers.remote.bytes ∧
      ∃ sni, sniffInitial sniffingEnabled (initialData sniffingEnabled buf client peers).1 = .ok sni ∧
        target = tcpTarget request sni := by
  unfold serveTcp at served
  split at served
  rename_i initial rest taken
  split at served
  case h_1 => cases served
  case h_2 sni sniffed =>
    dsimp only at served
    split at served
    case isTrue => cases served
    case isFalse =>
      simp only [Served.tcp.injEq, relayLoop_eq] at served
      obtain ⟨rfl, rfl, rfl, rfl⟩ := served
      have whole := initialData_append sniffingEnabled buf client peers
      rw [taken] at whole
      refine ⟨rfl, whole, rfl, sni, ?_, rfl⟩
      rw [taken]
      exact sniffed

theorem serveCommand_eq_tcp
    (served : serveCommand request sniffingEnabled buf client peers = .tcp request' target toRemote toClient) :
    serveTcp request sniffingEnabled buf client peers VlessResponse.new.encode =
      .tcp request' target toRemote toClient := by
  unfold serveCommand at served
  split at served
  case h_1 => exact served
  case h_2 =>
    split at served <;> cases served
  case h_3 => cases served

theorem serveCommand_eq_udp {datagrams : List (List UInt8)}
    (served : serveCommand request sniffingEnabled buf client peers = .udp request' datagrams toClient) :
    request' = request ∧ request.command = .udp ∧
      datagrams = initialDatagram buf ++ (udpRelay (sendTask client) (recvTask peers.udpReplies) peers.udpRace).1 ∧
      toClient = VlessResponse.new.encode ++ (udpRelay (sendTask client) (recvTask peers.udpReplies) peers.udpRace).2 := by
  unfold serveCommand at served
  split at served
  case h_1 command =>
    unfold serveTcp at served
    split at served
    split at served
    case h_1 => cases served
    case h_2 =>
      dsimp only at served
      split at served <;> cases served
  case h_2 command =>
    split at served
    case isTrue => cases served
    case isFalse =>
      simp only [Served.udp.injEq] at served
      obtain ⟨rfl, rfl, rfl⟩ := served
      exact ⟨rfl, command, rfl, rfl⟩
  case h_3 => cases served

end Steps

section Sessions

variable {allowedUuids : List Uuid} {sniffingEnabled : Bool} {client : Inflow UInt8} {peers : Peers}

theorem serveVless_of_first_read {header : Header allowedUuids} {buf : List UInt8} {rest : Inflow UInt8}
    (first : client.read bufferSize = (header.bytes ++ buf, rest)) :
    serveVless allowedUuids sniffingEnabled client peers =
      serveCommand header.request sniffingEnabled buf rest peers := by
  have nonempty : header.bytes ++ buf ≠ [] := by simp [Header.bytes]
  simp only [serveVless, first, nonempty, if_false, VlessRequest.decode_header]

/-- The same header and payload, once in one read and once with the header split
after its tenth byte: the first session is served, the second rejected. -/
theorem serveVless_rejects_split_header :
    let uuid : Uuid := Octets.ofList 16 []
    let header : List UInt8 := [0] ++ uuid.toList ++ [0, 1, 0, 80, 2, 0]
    let peers : Peers := ⟨false, fun _ => true, Inflow.empty, fun _ => true, [], .sendFirst 0⟩
    serveVless [uuid] false (Inflow.single (header ++ [7])) peers =
        .tcp ⟨0, uuid, .tcp, .domain "" 80, 0⟩ ":80" [7] [0, 0] ∧
      serveVless [uuid] false ⟨[header.take 10, header.drop 10 ++ [7]], by simp [header]⟩ peers =
        .rejected .bufferTooSmall := by
  dsimp only
  constructor
  case left => decide +kernel
  case right => decide +kernel

/-- The probe test runs on what a failed decode left, not on what was read: a `GET`
request of 22 bytes or more loses its `G` to the version check, so it is refused
instead of answered with `204`, whatever the UUIDs, the sniffing flag and the peers. -/
theorem serveVless_misses_http_probe (allowedUuids : List Uuid) (sniffingEnabled : Bool) (peers : Peers) :
    let probe := Utf8.encode "GET / HTTP/1.1\r\nHost: a\r\n\r\n"
    isHttpProbe probe = true ∧
      VlessRequest.decode probe allowedUuids = (.error (.unsupportedVersion 0x47), probe.drop 1) ∧
      isHttpProbe (probe.drop 1) = false ∧
      serveVless allowedUuids sniffingEnabled (Inflow.single probe) peers =
        .rejected (.unsupportedVersion 0x47) := by
  intro probe
  refine ⟨by decide +kernel, rfl, by decide +kernel, rfl⟩

theorem serveVless_cases (allowedUuids : List Uuid) (sniffingEnabled : Bool) (client : Inflow UInt8)
    (peers : Peers) :
    serveVless allowedUuids sniffingEnabled client peers = .closedEarly ∨
    serveVless allowedUuids sniffingEnabled client peers = .probeAnswered probeReply ∨
    (∃ error, serveVless allowedUuids sniffingEnabled client peers = .rejected error) ∨
    ∃ header : Header allowedUuids, ∃ buf rest, client.read bufferSize = (header.bytes ++ buf, rest) ∧
      serveVless allowedUuids sniffingEnabled client peers =
        serveCommand header.request sniffingEnabled buf rest peers := by
  rcases first : client.read bufferSize with ⟨firstRead, rest⟩
  by_cases ended : firstRead = []
  case pos =>
    left
    simp [serveVless, first, ended]
  case neg =>
    match decoded : VlessRequest.decode firstRead allowedUuids with
    | (.error error, buf) =>
      by_cases probe : isHttpProbe buf
      case pos =>
        right; left
        simp [serveVless, first, ended, decoded, probe]
      case neg =>
        right; right; left
        exact ⟨error, by simp [serveVless, first, ended, decoded, probe]⟩
    | (.ok request, buf) =>
      obtain ⟨header, rfl, rfl⟩ := VlessRequest.decode_ok_header decoded
      right; right; right
      exact ⟨header, buf, rest, rfl, serveVless_of_first_read first⟩

/-- A TCP session relays everything the client sends after the header, and
everything the target sends after the response. The target is the sniffed name
with port 443 when sniffing finds one, and the requested address otherwise. -/
theorem serveVless_tcp_relays {request : VlessRequest} {target : String} {toRemote toClient : List UInt8}
    (served : serveVless allowedUuids sniffingEnabled client peers = .tcp request target toRemote toClient) :
    ∃ header : Header allowedUuids, ∃ buf rest, client.read bufferSize = (header.bytes ++ buf, rest) ∧
      request = header.request ∧ client.bytes = header.bytes ++ toRemote ∧
      toClient = VlessResponse.new.encode ++ peers.remote.bytes ∧
      ∃ sni, sniffInitial sniffingEnabled (initialData sniffingEnabled buf rest peers).1 = .ok sni ∧
        target = tcpTarget request sni := by
  rcases serveVless_cases allowedUuids sniffingEnabled client peers with
    ended | probe | ⟨error, rejected⟩ | ⟨header, buf, rest, first, decoded⟩
  case inl => rw [ended] at served; cases served
  case inr.inl => rw [probe] at served; cases served
  case inr.inr.inl => rw [rejected] at served; cases served
  case inr.inr.inr =>
    rw [decoded] at served
    obtain ⟨rfl, rfl, rfl, sni, sniffed, rfl⟩ := serveTcp_eq_tcp (serveCommand_eq_tcp served)
    have whole := client.read_append bufferSize
    rw [first] at whole
    refine ⟨header, buf, rest, first, rfl, ?_, rfl, sni, sniffed, rfl⟩
    rw [← whole, List.append_assoc]

/-- With sniffing on, a ClientHello for `a` after a request for port 80 sends the
session to `a:443`. -/
theorem serveVless_sniffed_target_port :
    let uuid : Uuid := Octets.ofList 16 []
    let header : List UInt8 := [0] ++ uuid.toList ++ [0, 1, 0, 80, 2, 0]
    let hello : List UInt8 := [0x16, 3, 1, 0, 54, 1] ++ List.replicate 37 0 ++
      [0, 0, 0, 0, 0, 10, 0, 0, 0, 6, 0, 4, 0, 0, 1, 0x61]
    let peers : Peers := ⟨false, fun _ => true, Inflow.empty, fun _ => true, [], .sendFirst 0⟩
    Protocol.sniffTlsSni hello = .ok (some "a") ∧
      serveVless [uuid] true (Inflow.single (header ++ hello)) peers =
        .tcp ⟨0, uuid, .tcp, .domain "" 80, 0⟩ "a:443" hello [0, 0] := by
  dsimp only
  constructor
  case left => decide +kernel
  case right => decide +kernel

theorem serveVless_tcp_relays_sniffed :
    let uuid : Uuid := Octets.ofList 16 []
    let request : VlessRequest := ⟨0, uuid, .tcp, .domain "" 80, 0⟩
    let hello : List UInt8 := [0x16, 3, 1, 0, 54, 1] ++ List.replicate 37 0 ++
      [0, 0, 0, 0, 0, 10, 0, 0, 0, 6, 0, 4, 0, 0, 1, 0x61]
    let client : Inflow UInt8 := Inflow.single ([0] ++ uuid.toList ++ [0, 1, 0, 80, 2, 0] ++ hello)
    let peers : Peers := ⟨false, fun _ => true, Inflow.single [9, 9], fun _ => true, [], .sendFirst 0⟩
    ∃ header : Header [uuid], ∃ buf rest, client.read bufferSize = (header.bytes ++ buf, rest) ∧
      request = header.request ∧ client.bytes = header.bytes ++ hello ∧
      [0, 0, 9, 9] = VlessResponse.new.encode ++ peers.remote.bytes ∧
      ∃ sni, sniffInitial true (initialData true buf rest peers).1 = .ok sni ∧
        "a:443" = tcpTarget request sni := by
  intro uuid request hello client peers
  apply serveVless_tcp_relays
  show serveVless [uuid] true client peers = .tcp request "a:443" hello [0, 0, 9, 9]
  decide +kernel

theorem serveVless_udp_sends {request : VlessRequest} {datagrams : List (List UInt8)} {toClient : List UInt8}
    (served : serveVless allowedUuids sniffingEnabled client peers = .udp request datagrams toClient) :
    ∃ header : Header allowedUuids, ∃ buf rest, client.read bufferSize = (header.bytes ++ buf, rest) ∧
      request = header.request ∧
      datagrams = initialDatagram buf ++ (udpRelay (sendTask rest) (recvTask peers.udpReplies) peers.udpRace).1 ∧
      toClient = VlessResponse.new.encode ++ (udpRelay (sendTask rest) (recvTask peers.udpReplies) peers.udpRace).2 := by
  rcases serveVless_cases allowedUuids sniffingEnabled client peers with
    ended | probe | ⟨error, rejected⟩ | ⟨header, buf, rest, first, decoded⟩
  case inl => rw [ended] at served; cases served
  case inr.inl => rw [probe] at served; cases served
  case inr.inr.inl => rw [rejected] at served; cases served
  case inr.inr.inr =>
    rw [decoded] at served
    obtain ⟨rfl, -, rfl, rfl⟩ := serveCommand_eq_udp served
    exact ⟨header, buf, rest, first, rfl, rfl, rfl⟩

theorem serveVless_udp_frames {header : Header allowedUuids} {rest : Inflow UInt8}
    {datagrams : List (List UInt8)} (udp : header.command = .udp)
    (resolved : peers.resolves header.request.address.toString)
    (first : client.read bufferSize = (header.bytes, rest))
    (sized : ∀ datagram ∈ datagrams, 0 < datagram.length ∧ datagram.length ≤ bufferSize)
    (framed : rest.bytes = (datagrams.map frameReply).flatten) :
    serveVless allowedUuids sniffingEnabled client peers =
      .udp header.request (udpRelay datagrams (recvTask peers.udpReplies) peers.udpRace).1
        (VlessResponse.new.encode ++ (udpRelay datagrams (recvTask peers.udpReplies) peers.udpRace).2) := by
  rw [← List.append_nil header.bytes] at first
  rw [serveVless_of_first_read first]
  have command : header.request.command = .udp := udp
  simp [serveCommand, command, resolved, initialDatagram, sendTask_frames datagrams sized rest framed]

/-- Two one-byte datagrams that arrive in the first read together with the header:
only the first reaches the target. -/
theorem serveVless_udp_drops_buffered_datagram :
    let uuid : Uuid := Octets.ofList 16 []
    let header : List UInt8 := [0] ++ uuid.toList ++ [0, 2, 0, 53, 1, 1, 1, 1, 1]
    let peers : Peers := ⟨false, fun _ => true, Inflow.empty, fun _ => true, [], .sendFirst 0⟩
    serveVless [uuid] false (Inflow.single (header ++ [0, 1, 0x61, 0, 1, 0x62])) peers =
      .udp ⟨0, uuid, .udp, .ipv4 (Octets.ofList 4 [1, 1, 1, 1]) 53, 0⟩ [[0x61]] [0, 0] := by
  dsimp only
  decide +kernel

end Sessions

end XrayLite.Vless
