import XrayLite.Reality.HelloParser
import XrayLite.Server.PrefixedStream

/-! `RealityServerRustls::accept` in `src/transport/reality/server_rustls.rs`: read the
client's first TLS record into a buffer, decide from it, and hand the client on. A
verified Reality client goes to rustls, through a `PrefixedStream` that first
replays the buffer. Every other client goes to the fallback destination, which is
sent the buffer and then the rest of the stream.

The stream is any reader. The certificate signed with the auth key and the rustls
`ServerConfig` around it come from other crates; `tlsConfig` stands for both. The
five-second timeouts and I/O errors are not modelled.
-/

set_option autoImplicit false

namespace XrayLite.Reality

variable {σ : Type}

def readUntil (reader : Reader σ UInt8) (target : Nat) (buffer : List UInt8) (stream : σ) :
    List UInt8 × σ × Bool :=
  if buffer.length < target then
    let taken := reader.read stream 1024
    if taken.1 = [] then (buffer, taken.2, true)
    else readUntil reader target (buffer ++ taken.1) taken.2
  else (buffer, stream, false)
termination_by (reader.rest stream).length
decreasing_by exact reader.length_rest_read_lt stream 1024 ‹_›

/-- The `read_task`: the buffered bytes and the stream after them, or `none` where it
bails with "Connection closed early". -/
def readHello (reader : Reader σ UInt8) (stream : σ) : Option (List UInt8 × σ) :=
  let first := readUntil reader 5 [] stream
  if first.2.2 then none
  else
    -- the first loop leaves at least 5 bytes: a TLS record says how long it is
    let needed := if first.1.getD 0 0 = 0x16 then 5 + be16 (first.1.drop 3) else first.1.length
    let second := readUntil reader (min needed 16384) first.1 first.2.1
    some (second.1, second.2.1)

/-- How `accept` ends. -/
inductive Accepted (σ κ : Type) where
  -- `bail!("Connection closed early")`
  | closedEarly
  -- the certificate or the rustls configuration for a verified client failed
  | configFailed (error : String)
  -- `acceptor.accept(prefixed)`: the TLS handshake reads the buffer again, then the stream
  | handshake (config : κ) (prefixed : PrefixedStream σ)
  -- `self.fallback(stream, &buffer, dest)`
  | fallback (dest : String) (buffered : List UInt8) (stream : σ)

-- the SNI check: any name if none is configured, otherwise one of them
def sniValid (server : RealityServerRustls) (info : ClientHelloInfo) : Bool :=
  if server.serverNames.isEmpty then true
  else
    match info.serverName with
    | some sni => server.serverNames.any (· == sni)
    | none => false

section Accept

variable {ε κ : Type} (primitives : Primitives ε) (tlsConfig : List UInt8 → String → Except String κ)

def RealityServerRustls.accept (server : RealityServerRustls) (reader : Reader σ UInt8) (stream : σ) :
    Accepted σ κ :=
  match readHello reader stream with
  | none => .closedEarly
  | some (buffer, stream) =>
    let dest := server.realityConfig.dest.getD "www.microsoft.com:443"
    match parseClientHello buffer with
    | .ok (some info) =>
      if sniValid server info then
        match server.verifyClientReality primitives info buffer with
        | some (_, authKey) =>
          let destStr := server.realityConfig.dest.getD "www.microsoft.com"
          -- `dest_str.split(':').next()`: the text before the first `:`, a one-byte character
          let destHost := (Utf8.decode ((Utf8.encode destStr).takeWhile (· != 0x3A))).getD destStr
          match tlsConfig authKey destHost with
          | .ok config => .handshake config (PrefixedStream.new buffer stream)
          | .error error => .configFailed error
        | none => .fallback dest buffer stream
      else .fallback dest buffer stream
    | _ => .fallback dest buffer stream

end Accept

/-- What the fallback destination is sent: `write_all(prefix)`, then what
`copy_bidirectional` reads from the client with its 8 KiB buffer until the end. -/
def fallbackSent (reader : Reader σ UInt8) (buffered : List UInt8) (stream : σ) : List UInt8 :=
  buffered ++ (reader.drain 8192 stream).flatten

section ReadLoops

variable (reader : Reader σ UInt8)

theorem readUntil_append (target : Nat) (buffer : List UInt8) (stream : σ) :
    (readUntil reader target buffer stream).1 ++ reader.rest (readUntil reader target buffer stream).2.1 =
      buffer ++ reader.rest stream := by
  induction buffer, stream using readUntil.induct reader target with
  | case1 buffer stream short taken ended =>
    rw [readUntil, if_pos short, if_pos ended]
    rw [← reader.read_append stream 1024, ended, List.nil_append]
  | case2 buffer stream short taken more ih =>
    rw [readUntil, if_pos short, if_neg more, ih, List.append_assoc]
    rw [reader.read_append stream 1024]
  | case3 buffer stream long =>
    rw [readUntil, if_neg long]

theorem readUntil_ended_iff (target : Nat) (buffer : List UInt8) (stream : σ) :
    (readUntil reader target buffer stream).2.2 = true ↔ (buffer ++ reader.rest stream).length < target := by
  induction buffer, stream using readUntil.induct reader target with
  | case1 buffer stream short taken ended =>
    have finished : reader.rest stream = [] := (reader.read_eq_nil_iff stream 1024 (by decide)).mp ended
    rw [readUntil, if_pos short, if_pos ended, finished, List.append_nil]
    simp [short]
  | case2 buffer stream short taken more ih =>
    rw [readUntil, if_pos short, if_neg more, ih, List.append_assoc, reader.read_append stream 1024]
  | case3 buffer stream long =>
    rw [readUntil, if_neg long]
    simp only [Bool.false_eq_true, false_iff, not_lt, List.length_append]
    omega

theorem readHello_eq_none_iff (stream : σ) : readHello reader stream = none ↔ (reader.rest stream).length < 5 := by
  have first := readUntil_ended_iff reader 5 [] stream
  rw [List.nil_append] at first
  unfold readHello
  dsimp only
  split
  case isTrue ended => simp [← first, ended]
  case isFalse going => simp [← first, going]

theorem readHello_append {stream stream' : σ} {buffer : List UInt8}
    (read : readHello reader stream = some (buffer, stream')) : buffer ++ reader.rest stream' = reader.rest stream := by
  unfold readHello at read
  dsimp only at read
  split at read
  case isTrue => cases read
  case isFalse =>
    cases read
    rw [readUntil_append, readUntil_append, List.nil_append]

end ReadLoops

section Hands

variable {ε κ : Type} (primitives : Primitives ε) (tlsConfig : List UInt8 → String → Except String κ)
  (server : RealityServerRustls) (reader : Reader σ UInt8) (stream : σ)

theorem accept_cases :
    (readHello reader stream = none ∧ server.accept primitives tlsConfig reader stream = .closedEarly) ∨
    ∃ buffer rest, readHello reader stream = some (buffer, rest) ∧
      ((∃ config, server.accept primitives tlsConfig reader stream = .handshake config (PrefixedStream.new buffer rest)) ∨
        (server.accept primitives tlsConfig reader stream =
          .fallback (server.realityConfig.dest.getD "www.microsoft.com:443") buffer rest) ∨
        (∃ error authKey host, tlsConfig authKey host = .error error ∧
          server.accept primitives tlsConfig reader stream = .configFailed error)) := by
  unfold RealityServerRustls.accept
  split
  case h_1 closed => exact .inl ⟨closed, rfl⟩
  case h_2 buffer rest read =>
    refine .inr ⟨buffer, rest, read, ?_⟩
    dsimp only
    split
    case h_1 info parsed =>
      split
      case isTrue =>
        split
        case h_1 authKey verified =>
          split
          case h_1 config configured => exact .inl ⟨config, rfl⟩
          case h_2 error failed => exact .inr (.inr ⟨error, authKey, _, failed, rfl⟩)
        case h_2 => exact .inr (.inl rfl)
      case isFalse => exact .inr (.inl rfl)
    case h_2 => exact .inr (.inl rfl)

theorem accept_closedEarly_iff :
    server.accept primitives tlsConfig reader stream = .closedEarly ↔ (reader.rest stream).length < 5 := by
  rw [← readHello_eq_none_iff]
  rcases accept_cases primitives tlsConfig server reader stream with
    ⟨closed, accepted⟩ | ⟨buffer, rest, read, handed⟩
  case inl => simp [closed, accepted]
  case inr =>
    rw [read]
    rcases handed with ⟨config, handed⟩ | handed | ⟨error, -, -, -, handed⟩ <;> simp [handed]

theorem accept_handshake_rest {config : κ} {prefixed : PrefixedStream σ}
    (accepted : server.accept primitives tlsConfig reader stream = .handshake config prefixed) :
    (PrefixedStream.reader reader).rest prefixed = reader.rest stream := by
  rcases accept_cases primitives tlsConfig server reader stream with
    ⟨-, closed⟩ | ⟨buffer, rest, read, handed⟩
  case inl => rw [closed] at accepted; cases accepted
  case inr =>
    rcases handed with ⟨config', handed⟩ | handed | ⟨error, -, -, -, handed⟩
    all_goals rw [handed] at accepted; cases accepted
    rw [PrefixedStream.rest_reader_new]
    exact readHello_append reader read

theorem accept_fallback_sent {dest : String} {buffered : List UInt8} {rest : σ}
    (accepted : server.accept primitives tlsConfig reader stream = .fallback dest buffered rest) :
    fallbackSent reader buffered rest = reader.rest stream := by
  rcases accept_cases primitives tlsConfig server reader stream with
    ⟨-, closed⟩ | ⟨buffer, rest', read, handed⟩
  case inl => rw [closed] at accepted; cases accepted
  case inr =>
    rcases handed with ⟨config, handed⟩ | handed | ⟨error, -, -, -, handed⟩
    all_goals rw [handed] at accepted; cases accepted
    rw [fallbackSent, reader.flatten_drain (by decide)]
    exact readHello_append reader read

/-- A client is handed to neither side only when it closes early, or when the
certificate for a verified client cannot be made. -/
theorem accept_configFailed {error : String}
    (accepted : server.accept primitives tlsConfig reader stream = .configFailed error) :
    ∃ authKey host, tlsConfig authKey host = .error error := by
  rcases accept_cases primitives tlsConfig server reader stream with
    ⟨-, closed⟩ | ⟨buffer, rest, read, handed⟩
  case inl => rw [closed] at accepted; cases accepted
  case inr =>
    rcases handed with ⟨config, handed⟩ | handed | ⟨error', authKey, host, failed, handed⟩
    all_goals rw [handed] at accepted; cases accepted
    exact ⟨authKey, host, failed⟩

end Hands

end XrayLite.Reality
