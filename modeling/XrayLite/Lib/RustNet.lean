import XrayLite.Lib.Octets

/-! `std::net` addresses and how Rust prints them.

`Display` for `Ipv4Addr` is dotted decimal. `Display` for `Ipv6Addr` prints an
IPv4-mapped address as `::ffff:a.b.c.d`; otherwise it prints the eight
segments in lowercase hex without leading zeros, replacing the first longest
run of at least two zero segments by `::`.
-/

set_option autoImplicit false

namespace RustNet

abbrev Ipv4Addr := Octets 4

abbrev Ipv6Addr := Octets 16

def Ipv4Addr.display (ip : Ipv4Addr) : String :=
  ".".intercalate (ip.toList.map fun octet => toString octet.toNat)

def segments : List UInt8 → List Nat
  | hi :: lo :: rest => BigEndian.value [hi, lo] :: segments rest
  | _ => []

/-- `Ipv6Addr::to_ipv4_mapped`: `::ffff:a.b.c.d` only. -/
def toIpv4Mapped (ip : Ipv6Addr) : Option Ipv4Addr :=
  match ip.toList with
  | [0, 0, 0, 0, 0, 0, 0, 0, 0, 0, 0xff, 0xff, a, b, c, d] => some ⟨[a, b, c, d], rfl⟩
  | _ => none

/-- The span `(start, len)` of the first longest run of zeros, scanning left to
right with a current and a longest span as `Display` does. -/
def zeroSpan (segments : List Nat) : Nat × Nat :=
  let step := fun (state : (Nat × Nat) × (Nat × Nat) × Nat) (segment : Nat) =>
    let (longest, current, i) := state
    if segment = 0 then
      let current := (if current.2 = 0 then i else current.1, current.2 + 1)
      (if current.2 > longest.2 then current else longest, current, i + 1)
    else (longest, (0, 0), i + 1)
  (segments.foldl step ((0, 0), (0, 0), 0)).1

def hexSegments (segments : List Nat) : String :=
  ":".intercalate (segments.map fun segment => String.ofList (Nat.toDigits 16 segment))

def Ipv6Addr.display (ip : Ipv6Addr) : String :=
  match toIpv4Mapped ip with
  | some ipv4 => "::ffff:" ++ ipv4.display
  | none =>
    let all := segments ip.toList
    let (start, len) := zeroSpan all
    if len > 1 then hexSegments (all.take start) ++ "::" ++ hexSegments (all.drop (start + len))
    else hexSegments all

/-! ### Parsing, as `core::net::parser` reads an address

A reader takes the bytes left and returns what it read with the bytes after it.
A reader that fails returns `none`, and its caller goes on from where it was:
that is `read_atomically`, which every reader of the parser is wrapped in.
-/

def readGivenChar (target : Char) : List UInt8 → Option (List UInt8)
  | byte :: rest => if byte.toNat = target.toNat then some rest else none
  | [] => none

-- `char::to_digit`, for the radixes 10 and 16
def toDigit (radix : Nat) (byte : UInt8) : Option Nat :=
  let c := byte.toNat
  if 0x30 ≤ c ∧ c ≤ 0x39 ∧ c - 0x30 < radix then some (c - 0x30)
  else if radix = 16 ∧ 0x61 ≤ c ∧ c ≤ 0x66 then some (c - 0x61 + 10)
  else if radix = 16 ∧ 0x41 ≤ c ∧ c ≤ 0x46 then some (c - 0x41 + 10)
  else none

-- the digits at the front, as far as they go
def readDigits (radix : Nat) : List UInt8 → List Nat × List UInt8
  | byte :: rest =>
    match toDigit radix byte with
    | some digit => let (digits, rest) := readDigits radix rest; (digit :: digits, rest)
    | none => ([], byte :: rest)
  | [] => ([], [])

/-- `read_number` into an integer type whose largest value is `bound`. The loop's
`checked_mul` and `checked_add` fail exactly when the whole number exceeds `bound`,
and its digit limit when there are more digits than `maxDigits`. -/
def readNumber (radix : Nat) (maxDigits : Option Nat) (allowZeroPrefix : Bool) (bound : Nat)
    (input : List UInt8) : Option (Nat × List UInt8) :=
  let (digits, rest) := readDigits radix input
  let value := digits.foldl (fun acc digit => acc * radix + digit) 0
  if digits = [] then none
  else if maxDigits.any (digits.length > ·) then none
  else if value > bound then none
  else if !allowZeroPrefix ∧ digits.head? = some 0 ∧ digits.length > 1 then none
  else some (value, rest)

-- `read_separator`: the separator before every item but the first
def readSeparator {α : Type} (separator : Char) (first : Bool) (inner : List UInt8 → Option (α × List UInt8))
    (input : List UInt8) : Option (α × List UInt8) :=
  if first then inner input else (readGivenChar separator input).bind inner

-- an octet of a dotted address: decimal, at most 3 digits, no leading zero
def readOctet (input : List UInt8) : Option (UInt8 × List UInt8) :=
  (readNumber 10 (some 3) false 255 input).map fun (value, rest) => (UInt8.ofNat value, rest)

def readIpv4Addr (input : List UInt8) : Option (Ipv4Addr × List UInt8) := do
  let (a, input) ← readOctet input
  let (b, input) ← readSeparator '.' false readOctet input
  let (c, input) ← readSeparator '.' false readOctet input
  let (d, input) ← readSeparator '.' false readOctet input
  pure (⟨[a, b, c, d], rfl⟩, input)

-- `read_groups` with `slots` groups left to fill: the groups read, whether the
-- last two came from an embedded IPv4 address, and the input after them
def readGroups : (slots : Nat) → (first : Bool) → List UInt8 → List Nat × Bool × List UInt8
  | 0, _, input => ([], false, input)
  | slots + 1, first, input =>
    -- an embedded IPv4 address fills two groups, so it is tried only with two left
    match (if slots ≥ 1 then readSeparator ':' first readIpv4Addr input else none) with
    | some (ipv4, rest) =>
      ([BigEndian.value (ipv4.toList.take 2), BigEndian.value (ipv4.toList.drop 2)], true, rest)
    | none =>
      match readSeparator ':' first (readNumber 16 (some 4) true 0xffff) input with
      | none => ([], false, input)
      | some (group, rest) =>
        let (groups, ipv4, rest) := readGroups slots false rest
        (group :: groups, ipv4, rest)

def Ipv6Addr.ofSegments (segments : List Nat) : Ipv6Addr :=
  Octets.ofList 16 (segments.flatMap (BigEndian.bytes 2))

def readIpv6Addr (input : List UInt8) : Option (Ipv6Addr × List UInt8) :=
  let (head, headIpv4, input) := readGroups 8 true input
  if head.length = 8 then some (Ipv6Addr.ofSegments head, input)
  -- an IPv4 part is not allowed before `::`
  else if headIpv4 then none
  else do
    let input ← readGivenChar ':' input
    let input ← readGivenChar ':' input
    -- `::` stands for at least one group of zeros
    let (tail, _, input) := readGroups (8 - (head.length + 1)) true input
    pure (Ipv6Addr.ofSegments (head ++ List.replicate (8 - head.length - tail.length) 0 ++ tail), input)

def readPort (input : List UInt8) : Option (UInt16 × List UInt8) := do
  let input ← readGivenChar ':' input
  let (port, input) ← readNumber 10 none true 65535 input
  pure (UInt16.ofNat port, input)

def readScopeId (input : List UInt8) : Option (UInt32 × List UInt8) := do
  let input ← readGivenChar '%' input
  let (scopeId, input) ← readNumber 10 none true 4294967295 input
  pure (UInt32.ofNat scopeId, input)

/-- `std::net::SocketAddr`; a V6 address keeps its flow info and scope id. -/
inductive SocketAddr where
  | v4 (ip : Ipv4Addr) (port : UInt16)
  | v6 (ip : Ipv6Addr) (port : UInt16) (flowinfo scopeId : UInt32)
  deriving DecidableEq, Repr

def SocketAddr.isIpv4 : SocketAddr → Bool
  | .v4 _ _ => true
  | .v6 _ _ _ _ => false

def readSocketAddrV4 (input : List UInt8) : Option (SocketAddr × List UInt8) := do
  let (ip, input) ← readIpv4Addr input
  let (port, input) ← readPort input
  pure (.v4 ip port, input)

def readSocketAddrV6 (input : List UInt8) : Option (SocketAddr × List UInt8) := do
  let input ← readGivenChar '[' input
  let (ip, input) ← readIpv6Addr input
  let (scopeId, input) := (readScopeId input).getD (0, input)
  let input ← readGivenChar ']' input
  let (port, input) ← readPort input
  pure (.v6 ip port 0 scopeId, input)

def readSocketAddr (input : List UInt8) : Option (SocketAddr × List UInt8) :=
  (readSocketAddrV4 input).orElse fun _ => readSocketAddrV6 input

inductive AddrKind where
  | ip | ipv4 | ipv6 | socket | socketV4 | socketV6
  deriving DecidableEq, Repr

structure AddrParseError where
  kind : AddrKind
  deriving DecidableEq, Repr

-- `parse_with`: the reader must take the whole string
def parseWith {α : Type} (reader : List UInt8 → Option (α × List UInt8)) (kind : AddrKind) (text : String) :
    Except AddrParseError α :=
  match reader (Utf8.encode text) with
  | some (value, []) => .ok value
  | _ => .error ⟨kind⟩

def Ipv4Addr.fromStr (text : String) : Except AddrParseError Ipv4Addr := parseWith readIpv4Addr .ipv4 text

def Ipv6Addr.fromStr (text : String) : Except AddrParseError Ipv6Addr := parseWith readIpv6Addr .ipv6 text

def SocketAddr.fromStr (text : String) : Except AddrParseError SocketAddr :=
  parseWith readSocketAddr .socket text

/-! `str::parse::<u16>`, that is `u16::from_str_radix(text, 10)`. -/

inductive IntErrorKind where
  | empty | invalidDigit | posOverflow
  deriving DecidableEq, Repr

structure ParseIntError where
  kind : IntErrorKind
  deriving DecidableEq, Repr

-- The digit loop. Each byte is checked to be a digit before the `checked_mul` and
-- `checked_add` that fail exactly when the number so far passes `bound`.
def accumulateDigits (bound : Nat) (acc : Nat) : List UInt8 → Except ParseIntError Nat
  | [] => .ok acc
  | byte :: rest =>
    match toDigit 10 byte with
    | none => .error ⟨.invalidDigit⟩
    | some digit =>
      if acc * 10 + digit > bound then .error ⟨.posOverflow⟩
      else accumulateDigits bound (acc * 10 + digit) rest

def u16FromStr (text : String) : Except ParseIntError UInt16 :=
  let src := Utf8.encode text
  if src = [] then .error ⟨.empty⟩
  else if src = [0x2B] ∨ src = [0x2D] then .error ⟨.invalidDigit⟩
  else
    -- a leading `+` is dropped; a `-` is no digit of an unsigned type
    let digits := if src.head? = some 0x2B then src.tail else src
    (accumulateDigits 65535 0 digits).map UInt16.ofNat

end RustNet
