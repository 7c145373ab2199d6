import XrayLite.Lib.Slice
import XrayLite.Lib.ClientHello

/-! TLS SNI sniffing, `src/protocol/sniffer.rs`.

`sniff_tls_sni` walks a ClientHello by hand. It uses `data.get(pos)?` in some
places and direct indexing `data[pos]` in others, so it is modelled in
`Except Panic`; its two `while` loops are the recursive functions below.
-/

set_option autoImplicit false

namespace XrayLite.Protocol

open Slice

/-- The inner `while p2 + 3 <= end_list` loop over server names. `some r` means the
function returned `r` from inside the loop; `none` means the loop ended. -/
def sniffServerNames (data : List UInt8) (endList p2 : Nat) : Except Panic (Option (Option String)) :=
  if p2 + 3 ≤ endList then do
    let nameType ← index data p2
    let nameLen ← be16At data (p2 + 1)
    let p2 := p2 + 3
    if p2 + nameLen > endList then pure none
    else if nameType = 0x00 then do
      let name ← range data p2 (p2 + nameLen)
      pure (some (Utf8.decode name))
    else sniffServerNames data endList (p2 + nameLen)
  else pure none
termination_by endList - p2

def sniffExtensions (data : List UInt8) (endExt pos : Nat) : Except Panic (Option String) :=
  if pos + 4 ≤ endExt then do
    let extType ← be16At data pos
    let len ← be16At data (pos + 2)
    let pos := pos + 4
    -- `break`: the function then returns `None`
    if pos + len > endExt then pure none
    else if extType = 0x0000 then
      if len < 2 then pure none
      else do
        let listLen ← be16At data pos
        let p2 := pos + 2
        let endList := p2 + listLen
        if endList > pos + len then pure none
        else
          match ← sniffServerNames data endList p2 with
          | some result => pure result
          | none => sniffExtensions data endExt (pos + len)
    else sniffExtensions data endExt (pos + len)
  else pure none
termination_by endExt - pos

def sniffTlsSni (data : List UInt8) : Except Panic (Option String) :=
  if data.length < 43 then pure none
  else if data[0]? ≠ some 0x16 then pure none
  else if data[5]? ≠ some 0x01 then pure none
  else
    -- skip the handshake type, length, version and random: `pos` is 43
    match data[43]? with
    | none => pure none
    | some sessIdLen => do
      let pos := 43 + 1 + sessIdLen.toNat
      if pos + 2 > data.length then pure none
      else do
        let cipherLen ← be16At data pos
        let pos := pos + 2 + cipherLen
        if pos + 1 > data.length then pure none
        else
          match data[pos]? with
          | none => pure none
          | some compLen => do
            let pos := pos + 1 + compLen.toNat
            if pos + 2 > data.length then pure none
            else do
              let extLen ← be16At data pos
              let pos := pos + 2
              let endExt := pos + extLen
              if endExt > data.length then pure none
              else sniffExtensions data endExt pos

/-! ### Well-formed ClientHellos

On a record built from `Tls.HelloRecord`, followed by any bytes, every offset the
sniffer computes lands on the field it means to read. Each read is stated at a
position `pos` where `data.drop pos` is known.
-/

section WellFormed

open Slice BigEndian

theorem sniffServerNames_encode (data : List UInt8) (list : List Tls.ServerName) (p2 : Nat) (back : List UInt8)
    (layout : data.drop p2 = list.flatMap Tls.ServerName.encode ++ back) (within : p2 ≤ data.length) :
    sniffServerNames data (p2 + (list.flatMap Tls.ServerName.encode).length) p2 =
      .ok ((list.find? (·.nameType == 0)).map fun entry => Utf8.decode entry.name) := by
  induction list generalizing p2 with
  | nil => simp [sniffServerNames, pure, Except.pure]
  | cons entry entries ih =>
    simp only [List.flatMap_cons, Tls.ServerName.encode, List.cons_append, List.append_assoc] at layout
    have lengthAt : data.drop (p2 + 1) =
        bytes 2 entry.name.length ++ (entry.name ++ (entries.flatMap Tls.ServerName.encode ++ back)) :=
      drop_of_drop_eq (show data.drop p2 = [entry.nameType] ++ _ from layout) rfl
    have nameAt := drop_of_drop_eq lengthAt (show p2 + 3 = p2 + 1 + (bytes 2 entry.name.length).length by simp)
    have nextAt := drop_of_drop_eq nameAt rfl
    have room := length_sub_of_drop_eq layout
    simp only [List.length_cons, List.length_append, length_bytes] at room
    have endList : p2 + (entry.encode ++ entries.flatMap Tls.ServerName.encode).length =
        p2 + 3 + entry.name.length + (entries.flatMap Tls.ServerName.encode).length := by
      simp only [Tls.ServerName.encode, List.length_append, List.length_cons, length_bytes]
      omega
    rw [List.flatMap_cons, endList, sniffServerNames, if_pos (by omega)]
    simp only [index_of_drop_eq layout, be16At_of_drop_eq lengthAt entry.fits, bind, Except.bind]
    rw [if_neg (by omega)]
    by_cases host : entry.nameType = 0
    case pos =>
      rw [if_pos host, range_of_drop_eq nameAt (by omega)]
      simp [host, pure, Except.pure]
    case neg =>
      have skipped : (entry.nameType == 0) = false := by simpa using host
      rw [if_neg host, ih _ nextAt (by omega), List.find?_cons, skipped]

theorem sniffExtensions_encode (data : List UInt8) (extensions : List Tls.Extension) (pos : Nat) (back : List UInt8)
    (layout : data.drop pos = extensions.flatMap Tls.Extension.encode ++ back) (within : pos ≤ data.length) :
    sniffExtensions data (pos + (extensions.flatMap Tls.Extension.encode).length) pos =
      .ok (extensions.findSome? fun extension => extension.serverNames?.bind fun list =>
        (list.find? (·.nameType == 0)).map fun entry => Utf8.decode entry.name).join := by
  induction extensions generalizing pos with
  | nil => simp [sniffExtensions, pure, Except.pure]
  | cons extension extensions ih =>
    simp only [List.flatMap_cons, Tls.Extension.encode, List.append_assoc] at layout
    have lengthAt := drop_of_drop_eq layout (show pos + 2 = pos + (bytes 2 extension.extType.toNat).length by simp)
    have dataAt := drop_of_drop_eq lengthAt (show pos + 4 = pos + 2 + (bytes 2 extension.data.length).length by simp)
    have nextAt := drop_of_drop_eq dataAt rfl
    have room := length_sub_of_drop_eq layout
    simp only [List.length_append, length_bytes] at room
    have endExt : pos + (extension.encode ++ extensions.flatMap Tls.Extension.encode).length =
        pos + 4 + extension.data.length + (extensions.flatMap Tls.Extension.encode).length := by
      simp only [Tls.Extension.encode, List.length_append, length_bytes]
      omega
    rw [List.flatMap_cons, endExt, sniffExtensions, if_pos (by omega)]
    simp only [be16At_of_drop_eq layout extension.extType.toNat_lt, be16At_of_drop_eq lengthAt extension.length_data_lt,
      bind, Except.bind]
    rw [if_neg (by omega), List.findSome?_cons]
    cases extension with
    | serverName list fits =>
      have small : (list.flatMap Tls.ServerName.encode).length < 65536 := by omega
      simp only [Tls.Extension.data, List.append_assoc, List.length_append, length_bytes] at dataAt nextAt room ⊢
      have listAt := drop_of_drop_eq dataAt (show pos + 4 + 2 = pos + 4 + (bytes 2 _).length by simp)
      have typed : (Tls.Extension.serverName list fits).extType.toNat = 0 := rfl
      have named : (Tls.Extension.serverName list fits).serverNames? = some list := rfl
      rw [typed, if_pos rfl, if_neg (by omega), be16At_of_drop_eq dataAt small, named, Option.bind_some]
      dsimp only
      rw [if_neg (by omega), sniffServerNames_encode data list _ _ listAt (by omega)]
      dsimp only
      generalize (list.find? (·.nameType == 0)).map (fun entry => Utf8.decode entry.name) = found
      cases found with
      | some result => rfl
      | none => exact ih _ nextAt (by omega)
    | keyShare shares fits =>
      have typed : (Tls.Extension.keyShare shares fits).extType.toNat ≠ 0 := by simp [Tls.Extension.extType]
      rw [if_neg typed]
      exact ih _ nextAt (by omega)
    | other extType extData unlisted fits =>
      have typed : (Tls.Extension.other extType extData unlisted fits).extType.toNat ≠ 0 :=
        fun zero => unlisted.1 (UInt16.toNat_inj.mp zero)
      rw [if_neg typed]
      exact ih _ nextAt (by omega)

theorem sniffTlsSni_encode (record : Tls.HelloRecord) (rest : List UInt8) :
    sniffTlsSni (record.encode ++ rest) =
      .ok (record.hello.extensions.findSome? fun extension => extension.serverNames?.bind fun list =>
        (list.find? (·.nameType == 0)).map fun entry => Utf8.decode entry.name).join := by
  have recordType : (record.encode ++ rest)[0]? = some 0x16 := rfl
  have handshakeAt := record.drop_recordHeader rest
  have sessionIdAt := record.drop_toSessionId rest
  rw [Tls.ClientHello.message, List.cons_append] at handshakeAt
  generalize record.encode ++ rest = data at recordType handshakeAt sessionIdAt
  generalize record.hello = hello at sessionIdAt ⊢
  have cipherSuitesAt := drop_of_drop_eq (drop_succ_of_drop_eq sessionIdAt) rfl
  have compressionAt := drop_of_drop_eq (drop_bytes_of_drop_eq cipherSuitesAt) rfl
  have extensionsLengthAt := drop_of_drop_eq (drop_succ_of_drop_eq compressionAt) rfl
  have extensionsAt := drop_bytes_of_drop_eq extensionsLengthAt
  have room := length_sub_of_drop_eq sessionIdAt
  simp only [List.length_cons, List.length_append, length_bytes] at room
  have sessionIdLength : (UInt8.ofNat hello.sessionId.length).toNat = hello.sessionId.length := by
    have := hello.sessionIdFits
    rw [UInt8.toNat_ofNat']
    omega
  have compressionLength : (UInt8.ofNat hello.compressionMethods.length).toNat = hello.compressionMethods.length := by
    have := hello.compressionMethodsFit
    rw [UInt8.toNat_ofNat']
    omega
  unfold sniffTlsSni
  rw [if_neg (by omega), if_neg (by simp [recordType]), if_neg (by simp [getElem?_of_drop_eq handshakeAt]),
    getElem?_of_drop_eq sessionIdAt]
  dsimp only
  rw [sessionIdLength, if_neg (by omega), be16At_of_drop_eq cipherSuitesAt hello.cipherSuitesFit]
  simp only [bind, Except.bind]
  rw [if_neg (by omega), getElem?_of_drop_eq compressionAt]
  dsimp only
  rw [compressionLength, if_neg (by omega), be16At_of_drop_eq extensionsLengthAt hello.extensionsFit]
  dsimp only
  rw [if_neg (by omega)]
  exact sniffExtensions_encode data hello.extensions _ rest extensionsAt (by omega)

/-- With extensions of distinct types, that is the host name, when it is UTF-8. -/
theorem sniffTlsSni_record (record : Tls.HelloRecord) (rest : List UInt8) :
    sniffTlsSni (record.encode ++ rest) = .ok (record.hello.hostName.bind Utf8.decode) := by
  rw [sniffTlsSni_encode, Tls.findSome?_bind_serverNames? _ record.hello.distinct, Tls.ClientHello.hostName,
    Tls.ClientHello.serverNames]
  cases record.hello.extensions.findSome? Tls.Extension.serverNames? with
  | none => rfl
  | some list =>
    simp only [Option.bind_some]
    cases list.find? (·.nameType == 0) <;> rfl

end WellFormed

/-! ### No read is out of bounds

On every input, each loop and `sniffTlsSni` itself return a value: every index,
`be16At` and slice sits behind a length check that covers it. Each loop is taken by
`fun_induction`, with the bound on its end offset carried through. -/

section InBounds

open Slice

theorem sniffServerNames_ok (data : List UInt8) (endList p2 : Nat) (within : endList ≤ data.length) :
    ∃ found, sniffServerNames data endList p2 = .ok found := by
  fun_induction sniffServerNames data endList p2 with
  | case1 p2 entry ih =>
    rw [index_of_lt (by omega), be16At_of_lt (by omega)]
    dsimp only [bind, Except.bind]
    split
    case isTrue => exact ⟨none, rfl⟩
    case isFalse fits =>
      split
      case isTrue =>
        rw [range_of_le (by omega) (by omega)]
        exact ⟨_, rfl⟩
      case isFalse => exact ih _ fits
  | case2 => exact ⟨none, rfl⟩

theorem sniffExtensions_ok (data : List UInt8) (endExt pos : Nat) (within : endExt ≤ data.length) :
    ∃ found, sniffExtensions data endExt pos = .ok found := by
  fun_induction sniffExtensions data endExt pos with
  | case1 pos entry afterName afterOther =>
    rw [be16At_of_lt (by omega), be16At_of_lt (by omega)]
    dsimp only [bind, Except.bind]
    generalize BigEndian.value [data[pos + 2], data[pos + 2 + 1]] = len at afterName afterOther ⊢
    split
    case isTrue => exact ⟨none, rfl⟩
    case isFalse fits =>
      split
      case isTrue =>
        split
        case isTrue => exact ⟨none, rfl⟩
        case isFalse long =>
          rw [be16At_of_lt (by omega)]
          dsimp only
          generalize BigEndian.value [data[pos + 4], data[pos + 4 + 1]] = listLen
          split
          case isTrue => exact ⟨none, rfl⟩
          case isFalse listFits =>
            obtain ⟨found, scanned⟩ := sniffServerNames_ok data (pos + 4 + 2 + listLen) (pos + 4 + 2) (by omega)
            rw [scanned]
            dsimp only
            split
            case h_1 => exact ⟨_, rfl⟩
            case h_2 => exact afterName _ fits long 0
      case isFalse => exact afterOther _ fits
  | case2 => exact ⟨none, rfl⟩

theorem sniffTlsSni_ok (data : List UInt8) : ∃ found, sniffTlsSni data = .ok found := by
  unfold sniffTlsSni
  split
  case isTrue => exact ⟨none, rfl⟩
  split
  case isTrue => exact ⟨none, rfl⟩
  split
  case isTrue => exact ⟨none, rfl⟩
  split
  case h_1 => exact ⟨none, rfl⟩
  case h_2 sessionIdLength _ =>
    dsimp only
    split
    case isTrue => exact ⟨none, rfl⟩
    case isFalse room =>
      rw [be16At_of_lt (by omega)]
      dsimp only [bind, Except.bind]
      generalize BigEndian.value _ = cipherLen
      split
      case isTrue => exact ⟨none, rfl⟩
      split
      case h_1 => exact ⟨none, rfl⟩
      case h_2 compressionLength _ =>
        split
        case isTrue => exact ⟨none, rfl⟩
        case isFalse room =>
          rw [be16At_of_lt (by omega)]
          dsimp only [bind, Except.bind]
          split
          case isTrue => exact ⟨none, rfl⟩
          case isFalse within => exact sniffExtensions_ok data _ _ (by omega)

end InBounds

end XrayLite.Protocol
