import XrayLite.Reality.HelloParser

/-! `parse_client_hello` with each `bytes::Buf` call and each slice as the source
makes it, every one of them able to panic.

`HelloParser` reads the cursor with total list operations, on the ground that a
length check comes before every read. Here that ground is the theorem: on every
buffer, each function below returns `.ok` of its counterpart there.
-/

set_option autoImplicit false

namespace XrayLite.Reality

def scanServerNamesBuf (list : List UInt8) (serverName : Option String) : Except Panic (Option String) :=
  -- `while list.has_remaining()`, left by `break` once fewer than 3 bytes are left
  if list.length < 3 then pure serverName
  else do
    let (nameType, afterType) ← Buf.getU8 list
    let (nameLen, afterLen) ← Buf.getU16 afterType.1
    if afterLen.1.length < nameLen then pure serverName
    else if nameType = 0x00 then do
      let (nameBytes, _) ← Buf.copyToSlice afterLen.1 nameLen
      match Utf8.decode nameBytes with
      | some name => pure (some name)
      | none => pure serverName
    else do
      let next ← Buf.advance afterLen.1 nameLen
      scanServerNamesBuf next.1 serverName
termination_by list.length
decreasing_by
  have := next.2
  have := afterLen.2
  have := afterType.2
  omega

def sniExtensionBuf (extData : List UInt8) (serverName : Option String) : Except Panic (Option String) :=
  if extData.length ≥ 2 then do
    let (listLen, afterLen) ← Buf.getU16 extData
    if afterLen.1.length ≥ listLen then do
      let list ← Slice.range afterLen.1 0 listLen
      scanServerNamesBuf list serverName
    else pure serverName
  else pure serverName

def scanKeySharesBuf (shares : List UInt8) (publicKey : Option (List UInt8)) :
    Except Panic (Option (List UInt8)) :=
  if shares.length < 4 then pure publicKey
  else do
    let (group, afterGroup) ← Buf.getU16 shares
    let (keyLen, afterLen) ← Buf.getU16 afterGroup.1
    if afterLen.1.length < keyLen then pure publicKey
    else if group = 0x001d ∧ keyLen = 32 then do
      let (key, _) ← Buf.copyToSlice afterLen.1 32
      pure (some key)
    else do
      let next ← Buf.advance afterLen.1 keyLen
      scanKeySharesBuf next.1 publicKey
termination_by shares.length
decreasing_by
  have := next.2
  have := afterLen.2
  have := afterGroup.2
  omega

def keyShareExtensionBuf (extData : List UInt8) (publicKey : Option (List UInt8)) :
    Except Panic (Option (Option (List UInt8))) :=
  if extData.length < 2 then pure none
  else do
    let (sharesLen, afterLen) ← Buf.getU16 extData
    if afterLen.1.length < sharesLen then pure none
    else do
      let shares ← Slice.range afterLen.1 0 sharesLen
      some <$> scanKeySharesBuf shares publicKey

def scanExtensionsBuf (extensions : List UInt8) (publicKey : Option (List UInt8)) (serverName : Option String) :
    Except Panic (Option (List UInt8) × Option String) :=
  if extensions.length < 4 then pure (publicKey, serverName)
  else do
    let (extType, afterType) ← Buf.getU16 extensions
    let (extLen, afterLen) ← Buf.getU16 afterType.1
    if afterLen.1.length < extLen then pure (publicKey, serverName)
    else do
      let extData ← Slice.range afterLen.1 0 extLen
      let next ← Buf.advance afterLen.1 extLen
      let serverName ← if extType = 0x0000 then sniExtensionBuf extData serverName else pure serverName
      match ← (if extType = 0x0033 then keyShareExtensionBuf extData publicKey else pure (some publicKey)) with
      -- `continue` skips the check at the end of the loop body
      | none => scanExtensionsBuf next.1 publicKey serverName
      | some publicKey =>
        if publicKey.isSome ∧ serverName.isSome then pure (publicKey, serverName)
        else scanExtensionsBuf next.1 publicKey serverName
termination_by extensions.length
decreasing_by
  all_goals
    have := next.2
    have := afterLen.2
    have := afterType.2
    omega

/-- `parse_client_hello`. The outer `Except` is a panic; the inner one is the
`Result` the function returns. -/
def parseClientHelloBuf (buf : List UInt8) : Except Panic (Except String (Option ClientHelloInfo)) := do
  -- `||` reads `buf[0]` only once the length check has passed
  if buf.length < 5 then return .ok none
  if (← Slice.index buf 0) ≠ 0x16 then return .ok none
  let recordLen := BigEndian.value [← Slice.index buf 3, ← Slice.index buf 4]
  if buf.length < 5 + recordLen then return .ok none
  let cursor ← Slice.range buf 5 buf.length
  if cursor.length < 4 then return .error "Short buffer"
  let (msgType, cursor) ← Buf.getU8 cursor
  if msgType ≠ 0x01 then return .ok none
  let cursor ← Buf.advance cursor.1 3
  if cursor.1.length < 2 then return .error "Short buffer for Version"
  let cursor ← Buf.advance cursor.1 2
  if cursor.1.length < 32 then return .error "Short buffer for Random"
  let (clientRandom, cursor) ← Buf.copyToSlice cursor.1 32
  if cursor.1.length < 1 then return .error "Short buffer for Session ID Len"
  let (sessionIdLen, cursor) ← Buf.getU8 cursor.1
  if cursor.1.length < sessionIdLen.toNat then return .error "Short buffer for Session ID"
  let (sessionId, cursor) ← Buf.copyToSlice cursor.1 sessionIdLen.toNat
  if cursor.1.length < 2 then return .error "Short buffer for Cipher Suites Len"
  let (cipherSuitesLen, cursor) ← Buf.getU16 cursor.1
  if cursor.1.length < cipherSuitesLen then return .error "Short buffer for Cipher Suites"
  let cursor ← Buf.advance cursor.1 cipherSuitesLen
  if cursor.1.length < 1 then return .error "Short buffer for Compression Methods Len"
  let (compressionMethodsLen, cursor) ← Buf.getU8 cursor.1
  if cursor.1.length < compressionMethodsLen.toNat then return .error "Short buffer for Compression Methods"
  let cursor ← Buf.advance cursor.1 compressionMethodsLen.toNat
  if cursor.1.length < 2 then return .ok (some ⟨sessionId, Octets.ofList 32 clientRandom, none, none⟩)
  let (extensionsLen, cursor) ← Buf.getU16 cursor.1
  if cursor.1.length < extensionsLen then return .error "Short buffer for Extensions"
  let extensions ← Slice.range cursor.1 0 extensionsLen
  let (publicKey, serverName) ← scanExtensionsBuf extensions none none
  return .ok (some ⟨sessionId, Octets.ofList 32 clientRandom, publicKey, serverName⟩)

/-! ### Every read is in bounds

One lemma per loop says what a turn reads off a cursor that holds enough bytes;
each loop is then its counterpart in `HelloParser`, by recursion on the cursor.
-/

theorem scanServerNamesBuf_cons (nameType hi lo : UInt8) (rest : List UInt8) (serverName : Option String) :
    scanServerNamesBuf (nameType :: hi :: lo :: rest) serverName =
      if rest.length < BigEndian.value [hi, lo] then .ok serverName
      else if nameType = 0x00 then
        .ok (match Utf8.decode (rest.take (BigEndian.value [hi, lo])) with
          | some name => some name
          | none => serverName)
      else scanServerNamesBuf (rest.drop (BigEndian.value [hi, lo])) serverName := by
  rw [scanServerNamesBuf, if_neg (by simp)]
  dsimp only [Buf.getU8, Buf.getU16, bind, Except.bind]
  split
  case isTrue => rfl
  case isFalse fits =>
    split
    case isTrue =>
      rw [Buf.copyToSlice_of_le (by omega)]
      dsimp only [bind, Except.bind]
      cases Utf8.decode (rest.take (BigEndian.value [hi, lo])) <;> rfl
    case isFalse => rw [Buf.advance_of_le (by omega)]

theorem scanServerNames_cons (nameType hi lo : UInt8) (rest : List UInt8) (serverName : Option String) :
    scanServerNames (nameType :: hi :: lo :: rest) serverName =
      if rest.length < BigEndian.value [hi, lo] then serverName
      else if nameType = 0x00 then
        match Utf8.decode (rest.take (BigEndian.value [hi, lo])) with
        | some name => some name
        | none => serverName
      else scanServerNames (rest.drop (BigEndian.value [hi, lo])) serverName := by
  rw [scanServerNames, if_neg (by simp)]
  rfl

theorem scanServerNamesBuf_eq : ∀ (list : List UInt8) (serverName : Option String),
    scanServerNamesBuf list serverName = .ok (scanServerNames list serverName)
  | [], _ | [_], _ | [_, _], _ => by simp [scanServerNamesBuf, scanServerNames, pure, Except.pure]
  | nameType :: hi :: lo :: rest, serverName => by
    rw [scanServerNamesBuf_cons, scanServerNames_cons]
    by_cases short : rest.length < BigEndian.value [hi, lo]
    case pos => rw [if_pos short, if_pos short]
    case neg =>
      rw [if_neg short, if_neg short]
      by_cases host : nameType = 0x00
      case pos => rw [if_pos host, if_pos host]
      case neg =>
        rw [if_neg host, if_neg host]
        exact scanServerNamesBuf_eq _ serverName
termination_by list => list.length
decreasing_by simp only [List.length_drop, List.length_cons]; omega

theorem sniExtensionBuf_eq (extData : List UInt8) (serverName : Option String) :
    sniExtensionBuf extData serverName = .ok (sniExtension extData serverName) := by
  unfold sniExtensionBuf sniExtension be16
  split
  case isTrue long =>
    rw [Buf.getU16_of_le long]
    dsimp only [bind, Except.bind]
    split
    case isTrue fits =>
      rw [Slice.range_zero_of_le fits]
      exact scanServerNamesBuf_eq _ serverName
    case isFalse => rfl
  case isFalse => rfl

theorem scanKeySharesBuf_cons (groupHi groupLo hi lo : UInt8) (rest : List UInt8) (publicKey : Option (List UInt8)) :
    scanKeySharesBuf (groupHi :: groupLo :: hi :: lo :: rest) publicKey =
      if rest.length < BigEndian.value [hi, lo] then .ok publicKey
      else if BigEndian.value [groupHi, groupLo] = 0x001d ∧ BigEndian.value [hi, lo] = 32 then
        .ok (some (rest.take 32))
      else scanKeySharesBuf (rest.drop (BigEndian.value [hi, lo])) publicKey := by
  rw [scanKeySharesBuf, if_neg (by simp)]
  dsimp only [Buf.getU16, bind, Except.bind]
  split
  case isTrue => rfl
  case isFalse fits =>
    split
    case isTrue x25519 =>
      rw [Buf.copyToSlice_of_le (by omega)]
      rfl
    case isFalse => rw [Buf.advance_of_le (by omega)]

theorem scanKeyShares_cons (groupHi groupLo hi lo : UInt8) (rest : List UInt8) (publicKey : Option (List UInt8)) :
    scanKeyShares (groupHi :: groupLo :: hi :: lo :: rest) publicKey =
      if rest.length < BigEndian.value [hi, lo] then publicKey
      else if BigEndian.value [groupHi, groupLo] = 0x001d ∧ BigEndian.value [hi, lo] = 32 then
        some (rest.take 32)
      else scanKeyShares (rest.drop (BigEndian.value [hi, lo])) publicKey := by
  rw [scanKeyShares, if_neg (by simp)]
  rfl

theorem scanKeySharesBuf_eq : ∀ (shares : List UInt8) (publicKey : Option (List UInt8)),
    scanKeySharesBuf shares publicKey = .ok (scanKeyShares shares publicKey)
  | [], _ | [_], _ | [_, _], _ | [_, _, _], _ => by simp [scanKeySharesBuf, scanKeyShares, pure, Except.pure]
  | groupHi :: groupLo :: hi :: lo :: rest, publicKey => by
    rw [scanKeySharesBuf_cons, scanKeyShares_cons]
    by_cases short : rest.length < BigEndian.value [hi, lo]
    case pos => rw [if_pos short, if_pos short]
    case neg =>
      rw [if_neg short, if_neg short]
      by_cases x25519 : BigEndian.value [groupHi, groupLo] = 0x001d ∧ BigEndian.value [hi, lo] = 32
      case pos => rw [if_pos x25519, if_pos x25519]
      case neg =>
        rw [if_neg x25519, if_neg x25519]
        exact scanKeySharesBuf_eq _ publicKey
termination_by shares => shares.length
decreasing_by simp only [List.length_drop, List.length_cons]; omega

theorem keyShareExtensionBuf_eq (extData : List UInt8) (publicKey : Option (List UInt8)) :
    keyShareExtensionBuf extData publicKey = .ok (keyShareExtension extData publicKey) := by
  unfold keyShareExtensionBuf keyShareExtension be16
  split
  case isTrue => rfl
  case isFalse long =>
    rw [Buf.getU16_of_le (by omega)]
    dsimp only [bind, Except.bind]
    split
    case isTrue => rfl
    case isFalse fits =>
      rw [Slice.range_zero_of_le (by omega)]
      dsimp only
      rw [scanKeySharesBuf_eq]
      rfl

theorem scanExtensions_cons (typeHi typeLo hi lo : UInt8) (rest : List UInt8) (publicKey : Option (List UInt8))
    (serverName : Option String) :
    scanExtensions (typeHi :: typeLo :: hi :: lo :: rest) publicKey serverName =
      if rest.length < BigEndian.value [hi, lo] then (publicKey, serverName)
      else
        let extData := rest.take (BigEndian.value [hi, lo])
        let next := rest.drop (BigEndian.value [hi, lo])
        let serverName :=
          if BigEndian.value [typeHi, typeLo] = 0x0000 then sniExtension extData serverName else serverName
        match (if BigEndian.value [typeHi, typeLo] = 0x0033 then keyShareExtension extData publicKey
            else some publicKey) with
        | none => scanExtensions next publicKey serverName
        | some publicKey =>
          if publicKey.isSome ∧ serverName.isSome then (publicKey, serverName)
          else scanExtensions next publicKey serverName := by
  rw [scanExtensions, if_neg (by simp)]
  rfl

theorem scanExtensionsBuf_eq : ∀ (extensions : List UInt8) (publicKey : Option (List UInt8)) (serverName : Option String),
    scanExtensionsBuf extensions publicKey serverName = .ok (scanExtensions extensions publicKey serverName)
  | [], _, _ | [_], _, _ | [_, _], _, _ | [_, _, _], _, _ => by
    simp [scanExtensionsBuf, scanExtensions, pure, Except.pure]
  | typeHi :: typeLo :: hi :: lo :: rest, publicKey, serverName => by
    rw [scanExtensionsBuf, if_neg (by simp), scanExtensions_cons]
    dsimp only [Buf.getU16, bind, Except.bind]
    by_cases short : rest.length < BigEndian.value [hi, lo]
    case pos => rw [if_pos short, if_pos short]; rfl
    case neg =>
      rw [if_neg short, if_neg short, Slice.range_zero_of_le (by omega), Buf.advance_of_le (by omega)]
      have later : ∀ publicKey serverName, scanExtensionsBuf (rest.drop (BigEndian.value [hi, lo])) publicKey serverName =
          .ok (scanExtensions (rest.drop (BigEndian.value [hi, lo])) publicKey serverName) :=
        fun publicKey serverName => scanExtensionsBuf_eq _ publicKey serverName
      simp only [sniExtensionBuf_eq, keyShareExtensionBuf_eq, later]
      by_cases sni : BigEndian.value [typeHi, typeLo] = 0x0000
      case pos =>
        have notKey : ¬ BigEndian.value [typeHi, typeLo] = 0x0033 := by omega
        simp only [if_pos sni, if_neg notKey]
        dsimp only [pure, Except.pure]
        split <;> rfl
      case neg =>
        simp only [if_neg sni]
        by_cases key : BigEndian.value [typeHi, typeLo] = 0x0033
        case pos =>
          simp only [if_pos key]
          cases keyShareExtension (rest.take (BigEndian.value [hi, lo])) publicKey with
          | none => rfl
          | some found =>
            dsimp only [pure, Except.pure]
            split <;> rfl
        case neg =>
          simp only [if_neg key]
          dsimp only [pure, Except.pure]
          split <;> rfl
termination_by extensions => extensions.length
decreasing_by all_goals simp only [List.length_drop, List.length_cons]; omega

/-- The whole parse: each check passes or fails on both sides alike, and where it
passes, the read after it is in bounds. The proof peels each field off the cursor
(`obtain ... rfl`), so that the cursor stays a variable on both sides. -/
theorem parseClientHelloBuf_eq : ∀ buf : List UInt8, parseClientHelloBuf buf = .ok (parseClientHello buf)
  | [] | [_] | [_, _] | [_, _, _] | [_, _, _, _] => rfl
  | recordType :: major :: minor :: hi :: lo :: rest => by
    unfold parseClientHelloBuf parseClientHello
    simp -zeta only [Except.throw_bind]
    rw [Slice.range_length_of_le (by simp)]
    simp only [Slice.index, List.getElem?_cons_zero, List.getElem?_cons_succ, bind, Except.bind,
      List.length_cons, List.drop_succ_cons, List.getD_cons_zero, List.drop_zero, be16, List.take_succ_cons,
      List.take_zero, show ¬ (rest.length + 1 + 1 + 1 + 1 + 1 < 5) by omega, if_false, false_or]
    refine Except.ite_ok fun record => ?_
    refine Except.ite_ok fun complete => ?_
    rw [show List.drop 5 (recordType :: major :: minor :: hi :: lo :: rest) = rest from rfl]
    refine Except.ite_ok fun headerFits => ?_
    obtain ⟨msgType, rest, rfl⟩ := List.exists_cons_of_length_pos (by omega : 0 < rest.length)
    obtain ⟨length, rest, rfl, lengthSized⟩ := Buf.exists_append_of_le (by simp at headerFits; omega : 3 ≤ rest.length)
    simp only [Buf.getU8_cons, Buf.advance_append lengthSized, List.getD_cons_zero, List.drop_succ_cons,
      List.drop_left' lengthSized]
    refine Except.ite_ok fun isHello => ?_
    refine Except.ite_ok fun versionFits => ?_
    obtain ⟨version, rest, rfl, versionSized⟩ := Buf.exists_append_of_le (Nat.le_of_not_lt versionFits)
    simp only [Buf.advance_append versionSized, List.drop_left' versionSized]
    refine Except.ite_ok fun randomFits => ?_
    obtain ⟨random, rest, rfl, randomSized⟩ := Buf.exists_append_of_le (Nat.le_of_not_lt randomFits)
    simp only [Buf.copyToSlice_append randomSized, List.drop_left' randomSized,
      Octets.ofList_append_of_length randomSized]
    refine Except.ite_ok fun lengthFits => ?_
    obtain ⟨sessionIdLen, rest, rfl⟩ := List.exists_cons_of_length_pos (by omega : 0 < rest.length)
    simp only [Buf.getU8_cons, List.getD_cons_zero, List.drop_succ_cons, List.drop_zero]
    refine Except.ite_ok fun sessionIdFits => ?_
    obtain ⟨sessionId, rest, rfl, sessionIdSized⟩ := Buf.exists_append_of_le (Nat.le_of_not_lt sessionIdFits)
    simp only [Buf.copyToSlice_append sessionIdSized, List.drop_left' sessionIdSized,
      List.take_left' sessionIdSized]
    refine Except.ite_ok fun suitesLengthFits => ?_
    obtain ⟨suitesHi, suitesLo, rest, rfl⟩ := Buf.exists_cons_cons_of_le (Nat.le_of_not_lt suitesLengthFits)
    simp only [Buf.getU16_cons, List.take_succ_cons, List.take_zero, List.drop_succ_cons, List.drop_zero]
    refine Except.ite_ok fun suitesFit => ?_
    obtain ⟨suites, rest, rfl, suitesSized⟩ := Buf.exists_append_of_le (Nat.le_of_not_lt suitesFit)
    simp only [Buf.advance_append suitesSized, List.drop_left' suitesSized]
    refine Except.ite_ok fun methodsLengthFits => ?_
    obtain ⟨methodsLen, rest, rfl⟩ := List.exists_cons_of_length_pos (by omega : 0 < rest.length)
    simp only [Buf.getU8_cons, List.getD_cons_zero, List.drop_succ_cons, List.drop_zero]
    refine Except.ite_ok fun methodsFit => ?_
    obtain ⟨methods, rest, rfl, methodsSized⟩ := Buf.exists_append_of_le (Nat.le_of_not_lt methodsFit)
    simp only [Buf.advance_append methodsSized, List.drop_left' methodsSized]
    split
    case isTrue => rfl
    case isFalse extensionsLengthFits =>
      obtain ⟨extensionsHi, extensionsLo, rest, rfl⟩ :=
        Buf.exists_cons_cons_of_le (Nat.le_of_not_lt extensionsLengthFits)
      simp only [Buf.getU16_cons, List.take_succ_cons, List.take_zero, List.drop_succ_cons, List.drop_zero]
      refine Except.ite_ok fun extensionsFit => ?_
      rw [Slice.range_zero_of_le (Nat.le_of_not_lt extensionsFit)]
      dsimp only
      rw [scanExtensionsBuf_eq]
      rfl

/-- Neither ClientHello parser panics: `sniff_tls_sni` returns a value on every
input, and `parse_client_hello` returns on every buffer what `parseClientHello`
computes, every read it makes being in bounds. -/
theorem clientHello_parsers_never_panic :
    (∀ data : List UInt8, ∃ found, Protocol.sniffTlsSni data = .ok found) ∧
      ∀ buf : List UInt8, parseClientHelloBuf buf = .ok (parseClientHello buf) :=
  ⟨Protocol.sniffTlsSni_ok, parseClientHelloBuf_eq⟩

end XrayLite.Reality
