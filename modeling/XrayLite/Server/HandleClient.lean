import XrayLite.Server.Dispatch
import XrayLite.Reality.Accept
import XrayLite.Protocol.ProxyProtocol

/-! What `Server::handle_client` in `src/server.rs` does to the client's bytes before
XHTTP or VLESS sees them: the PROXY protocol stage, then the Reality handshake when
the inbound has one (`RealityServer::accept` delegates to `RealityServerRustls`).

The TCP stream is an `Inflow`, so a statement over every `Inflow` holds for every
way the client's bytes arrive. `peek` returns what has arrived and leaves it in the
stream; that is the first segment, up to 512 bytes. A peek that fails or times out
ends the way an empty one does, and is not modelled apart.
-/

set_option autoImplicit false

namespace XrayLite.Server

open Protocol Reality RustNet

/-- `Box<dyn AsyncStream>` after the PROXY stage: the TCP stream, or bytes already read
put back in front of it. -/
abbrev ClientStream : Type := Inflow UInt8 ⊕ PrefixedStream (Inflow UInt8)

def clientReader : Reader ClientStream UInt8 := Reader.sum Inflow.reader (PrefixedStream.reader Inflow.reader)

-- `stream.peek(&mut pp_buf)` with a buffer of 512 bytes
def peek (stream : Inflow UInt8) : List UInt8 := (stream.read 512).1

-- `read_exact` met the end of the stream first: `UnexpectedEof`
inductive HandleError where
  | unexpectedEof
  deriving DecidableEq, Repr

def proxyProtocolStage (acceptProxyProtocol : Bool) (stream : Inflow UInt8) :
    Except HandleError (ClientStream × Option SocketAddr) :=
  if acceptProxyProtocol then
    let peeked := peek stream
    -- `Ok(Ok(n)) if n > 0`
    if peeked ≠ [] then
      if isProxyProtocol peeked then
        match stream.readExact peeked.length with
        | none => .error .unexpectedEof
        | some (readBuf, stream) =>
          match parseProxyProtocol readBuf with
          | .ok (header, consumed) =>
            let remaining := readBuf.drop consumed
            .ok (if remaining ≠ [] then .inr (PrefixedStream.new remaining stream) else .inl stream,
              some header.sourceAddr)
          -- taken for no PROXY header at all: the bytes read go back in front
          | .error _ => .ok (.inr (PrefixedStream.new readBuf stream), none)
      else .ok (.inl stream, none)
    else .ok (.inl stream, none)
  else .ok (.inl stream, none)

/-- What the rest of `handle_client` is given: the outcome of the Reality handshake, or
the stream itself for XHTTP or VLESS. -/
inductive Handoff (κ : Type) where
  | reality (accepted : Accepted ClientStream κ)
  | direct (stream : ClientStream)

section HandleClient

variable {ε κ : Type} (primitives : Primitives ε) (tlsConfig : List UInt8 → String → Except String κ)

def RealityServer.accept {σ : Type} (server : RealityServer) (reader : Reader σ UInt8) (stream : σ) : Accepted σ κ :=
  server.inner.accept primitives tlsConfig reader stream

def handleClient (listener : Listener) (stream : Inflow UInt8) : Except HandleError (Handoff κ) := do
  -- the real client address is only logged
  let (stream, _) ← proxyProtocolStage listener.acceptProxyProtocol stream
  match listener.realityServer with
  | some reality => pure (.reality (reality.accept primitives tlsConfig clientReader stream))
  | none => pure (.direct stream)

end HandleClient

section ProxyStage

variable (stream : Inflow UInt8)

-- the peeked bytes are the front of the stream
theorem peek_append : peek stream ++ (stream.read 512).2.bytes = stream.bytes := stream.read_append 512

theorem length_peek_le : (peek stream).length ≤ stream.bytes.length := by
  rw [← peek_append stream, List.length_append]
  omega

theorem take_peek : stream.bytes.take (peek stream).length = peek stream := by
  rw [← peek_append stream, List.take_left]

theorem readExact_peek :
    stream.readExact (peek stream).length = some (peek stream, stream.skip (peek stream).length) := by
  rw [Inflow.readExact_eq_some_iff]
  exact ⟨length_peek_le stream, (take_peek stream).symm, rfl⟩

theorem drop_append_skip {consumed : Nat} (n : Nat) (within : consumed ≤ n) (long : n ≤ stream.bytes.length) :
    (stream.bytes.take n).drop consumed ++ (stream.skip n).bytes = stream.bytes.drop consumed := by
  have split := List.take_append_drop n stream.bytes
  rw [Inflow.bytes_skip]
  conv => rhs; rw [← split]
  rw [List.drop_append_of_le_length (by simp; omega)]

theorem proxyProtocolStage_rest (acceptProxyProtocol : Bool) :
    ∃ handed source, proxyProtocolStage acceptProxyProtocol stream = .ok (handed, source) ∧
      clientReader.rest handed =
        if acceptProxyProtocol then
          match parseProxyProtocol (peek stream) with
          | .ok (_, consumed) => stream.bytes.drop consumed
          | .error _ => stream.bytes
        else stream.bytes := by
  unfold proxyProtocolStage
  cases acceptProxyProtocol
  case false => exact ⟨_, _, rfl, rfl⟩
  case true =>
    simp only [if_true]
    by_cases peeked : peek stream = []
    case pos =>
      have refused : parseProxyProtocol (peek stream) = .error .invalidHeader :=
        parseProxyProtocol_of_not_isProxyProtocol (by rw [peeked]; decide)
      rw [if_neg (not_not.mpr peeked), refused]
      exact ⟨_, _, rfl, rfl⟩
    case neg =>
      rw [if_pos peeked]
      cases signed : isProxyProtocol (peek stream)
      case false =>
        rw [parseProxyProtocol_of_not_isProxyProtocol signed]
        exact ⟨_, _, rfl, rfl⟩
      case true =>
        have front := take_peek stream
        simp only [if_true, readExact_peek]
        cases parsed : parseProxyProtocol (peek stream) with
        | error error =>
          refine ⟨_, _, rfl, ?_⟩
          simp only [clientReader, Reader.rest_sum_inr, PrefixedStream.rest_reader_new, Inflow.rest_reader,
            Inflow.bytes_skip]
          have whole := List.take_append_drop (peek stream).length stream.bytes
          rw [front] at whole
          exact whole
        | ok result =>
          obtain ⟨header, consumed⟩ := result
          have within := parseProxyProtocol_consumed_le parsed
          have spliced := drop_append_skip stream (peek stream).length within (length_peek_le stream)
          rw [front] at spliced
          refine ⟨_, _, rfl, ?_⟩
          split
          case isTrue left =>
            simp only [clientReader, Reader.rest_sum_inr, PrefixedStream.rest_reader_new, Inflow.rest_reader]
            exact spliced
          case isFalse none =>
            rw [not_not] at none
            rw [none, List.nil_append] at spliced
            simpa [clientReader] using spliced

end ProxyStage

section EndToEnd

variable {ε κ : Type} (primitives : Primitives ε) (tlsConfig : List UInt8 → String → Except String κ)

theorem handleClient_of_stage {listener : Listener} {client : Inflow UInt8} {handed : ClientStream}
    {source : Option SocketAddr}
    (staged : proxyProtocolStage listener.acceptProxyProtocol client = .ok (handed, source)) :
    handleClient primitives tlsConfig listener client =
      match listener.realityServer with
      | some reality => .ok (.reality (reality.accept primitives tlsConfig clientReader handed))
      | none => .ok (.direct handed) := by
  simp only [handleClient, staged]
  rfl

/-- From the TCP stream to the layer after the handshake: whatever reads the client next
(XHTTP or VLESS directly, rustls, or the fallback destination) reads the client's
bytes after the PROXY header, from the first; `accept` closes early only when fewer
than 5 of them came. -/
theorem handleClient_hands (listener : Listener) (client : Inflow UInt8) :
    let after :=
      if listener.acceptProxyProtocol then
        match parseProxyProtocol (peek client) with
        | .ok (_, consumed) => client.bytes.drop consumed
        | .error _ => client.bytes
      else client.bytes
    ∃ handoff, handleClient primitives tlsConfig listener client = .ok handoff ∧
      match handoff with
      | .direct stream => clientReader.rest stream = after
      | .reality (.handshake _ prefixed) => (PrefixedStream.reader clientReader).rest prefixed = after
      | .reality (.fallback _ buffered rest) => fallbackSent clientReader buffered rest = after
      | .reality .closedEarly => after.length < 5
      | .reality (.configFailed error) => ∃ authKey host, tlsConfig authKey host = .error error := by
  intro after
  obtain ⟨handed, source, staged, rest⟩ := proxyProtocolStage_rest client listener.acceptProxyProtocol
  replace rest : clientReader.rest handed = after := rest
  rw [handleClient_of_stage primitives tlsConfig staged]
  cases listener.realityServer with
  | none => exact ⟨_, rfl, rest⟩
  | some reality =>
    refine ⟨_, rfl, ?_⟩
    cases accepted : reality.accept primitives tlsConfig clientReader handed with
    | closedEarly =>
      dsimp only
      rw [← rest]
      exact (accept_closedEarly_iff primitives tlsConfig reality.inner clientReader handed).mp accepted
    | configFailed error => exact accept_configFailed primitives tlsConfig reality.inner clientReader handed accepted
    | handshake config prefixed =>
      dsimp only
      rw [← rest]
      exact accept_handshake_rest primitives tlsConfig reality.inner clientReader handed accepted
    | fallback dest buffered stream =>
      dsimp only
      rw [← rest]
      exact accept_fallback_sent primitives tlsConfig reality.inner clientReader handed accepted

end EndToEnd

/-- The client's bytes at the three places where they are put back. A `PrefixedStream`
delivers the bytes put back and then its inner stream, in order, whatever the read
sizes, and a read with room comes back empty only at the end. `accept` closes with
"Connection closed early" exactly when the stream has fewer than 5 bytes; otherwise
it hands the whole stream to rustls or to the fallback destination, unless the
certificate for a verified client cannot be made. The PROXY stage passes the stream
on without the bytes a parsed header takes up, and unchanged otherwise. -/
theorem client_bytes_spliced {σ ε κ : Type} (primitives : Primitives ε)
    (tlsConfig : List UInt8 → String → Except String κ) (server : RealityServerRustls) (reader : Reader σ UInt8)
    (replay : List UInt8) (stream : σ) (rooms : List Nat) (room : ∀ capacity ∈ rooms, 0 < capacity)
    (acceptProxyProtocol : Bool) (client : Inflow UInt8) :
    let reads := (PrefixedStream.reader reader).readMany (PrefixedStream.new replay stream) rooms
    (reads.1.flatten ++ (PrefixedStream.reader reader).rest reads.2 = replay ++ reader.rest stream ∧
      ∀ (i : Nat) (inside : i < reads.1.length), reads.1[i] = [] →
        (reads.1.take i).flatten = replay ++ reader.rest stream) ∧
    (server.accept primitives tlsConfig reader stream = .closedEarly ↔ (reader.rest stream).length < 5) ∧
    (∀ config prefixed, server.accept primitives tlsConfig reader stream = .handshake config prefixed →
      (PrefixedStream.reader reader).rest prefixed = reader.rest stream) ∧
    (∀ dest buffered rest, server.accept primitives tlsConfig reader stream = .fallback dest buffered rest →
      fallbackSent reader buffered rest = reader.rest stream) ∧
    (∀ error, server.accept primitives tlsConfig reader stream = .configFailed error →
      ∃ authKey host, tlsConfig authKey host = .error error) ∧
    ∃ handed source, proxyProtocolStage acceptProxyProtocol client = .ok (handed, source) ∧
      clientReader.rest handed =
        if acceptProxyProtocol then
          match parseProxyProtocol (peek client) with
          | .ok (_, consumed) => client.bytes.drop consumed
          | .error _ => client.bytes
        else client.bytes := by
  intro reads
  refine ⟨?prefixed, ?closed, ?handshake, ?fallback, ?failed, ?proxy⟩
  case prefixed => exact PrefixedStream.readMany_new reader replay stream rooms room
  case closed => exact accept_closedEarly_iff primitives tlsConfig server reader stream
  case handshake =>
    intro config prefixed accepted
    exact accept_handshake_rest primitives tlsConfig server reader stream accepted
  case fallback =>
    intro dest buffered rest accepted
    exact accept_fallback_sent primitives tlsConfig server reader stream accepted
  case failed =>
    intro error accepted
    exact accept_configFailed primitives tlsConfig server reader stream accepted
  case proxy => exact proxyProtocolStage_rest client acceptProxyProtocol

theorem client_bytes_spliced_replay :
    let reads := (PrefixedStream.reader Inflow.reader).readMany (PrefixedStream.new [1] (Inflow.single [2])) [1, 1]
    reads.1.flatten ++ (PrefixedStream.reader Inflow.reader).rest reads.2 = [1] ++ Inflow.reader.rest (Inflow.single [2]) :=
  (client_bytes_spliced (⟨Hex.decode, Hex.encode, fun _ _ => [], fun _ _ => none, fun _ _ _ _ => none⟩ : Primitives _)
    (fun _ _ => (.ok () : Except String Unit)) ⟨⟨List.replicate 32 0, true, none, []⟩, []⟩ Inflow.reader [1]
    (Inflow.single [2]) [1, 1] (by decide) false Inflow.empty).1.1

/-- A client that sends four bytes and closes: `accept` bails with "Connection closed
early" and hands the bytes to neither rustls nor the fallback destination. -/
theorem reality_accept_short_client :
    let client : Inflow UInt8 := Inflow.single [0x16, 3, 1, 0]
    let server : RealityServerRustls := ⟨⟨List.replicate 32 0, true, none, []⟩, []⟩
    client.bytes ≠ [] ∧
      server.accept (⟨Hex.decode, Hex.encode, fun _ _ => [], fun _ _ => none, fun _ _ _ _ => none⟩ : Primitives _)
        (fun _ _ => (.ok () : Except String Unit)) Inflow.reader client = .closedEarly := by
  intro client server
  constructor
  case left => simp [client]
  case right =>
    rw [accept_closedEarly_iff]
    simp [client]

end XrayLite.Server
