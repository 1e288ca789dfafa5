import BuckyP2p.Lib.Bytes
import BuckyP2p.Rendezvous.Message

/-!
# BuckyP2p.Rendezvous.EndpointCodec — the two codecs of `Endpoint`

`endpoint.rs` has a binary form of an endpoint, and a text form.

* The binary form is a flag byte, the port (little endian) and the octets of the address.  The flag
  byte packs the protocol (four bits), the IP version (one bit) and the area (two bits); its top bit
  is not used.  Flow and scope of an IPv6 address are not encoded.
* The text form is the area, the IP version and the protocol, in five characters, and the text of
  the address.

A buffer to encode into is the list of its bytes; `rawEncode` returns the buffer as it is after the
call, and the part of it behind the encoding.  Every index and range is checked, also those of the
copy that the source makes through a raw pointer.

The text of an address, and its parser, are those of `std::net::SocketAddr`: the parameters `toText`
and `fromText`.  A string is the list of its characters: the source takes the first five bytes and
rejects them unless they are ASCII, so that they are the first five characters.
-/

namespace BuckyP2p

open Lib

inductive CodecErrorCode
  | invalidInput | outOfLimit
  deriving DecidableEq, Repr

structure CodecError where
  code : CodecErrorCode
  msg : String
  deriving DecidableEq, Repr

/-! ### IPv6 octets -/

/-- `Ipv6Addr::octets`. -/
def ipv6Octets (segments : Vector U16 8) : Vector U8 16 :=
  Vector.ofFn fun i => if i.val % 2 = 0 then highByte segments[i.val / 2]
    else lowByte segments[i.val / 2]

/-- `Ipv6Addr::from([u8; 16])`. -/
def ipv6FromOctets (octets : Vector U8 16) : Vector U16 8 :=
  Vector.ofFn fun i => ofBytes octets[2 * i.val] octets[2 * i.val + 1]

theorem ipv6FromOctets_octets (segments : Vector U16 8) :
    ipv6FromOctets (ipv6Octets segments) = segments := by
  apply Vector.ext
  intro i hi
  have hhalf : (2 * i + 1) / 2 = i := by omega
  simp [ipv6FromOctets, ipv6Octets, hhalf]

theorem ipv6Octets_fromOctets (octets : Vector U8 16) :
    ipv6Octets (ipv6FromOctets octets) = octets := by
  apply Vector.ext
  intro i hi
  by_cases heven : i % 2 = 0
  · have hi' : 2 * (i / 2) = i := by omega
    simp [ipv6FromOctets, ipv6Octets, heven, hi']
  · have hi' : 2 * (i / 2) + 1 = i := by omega
    simp [ipv6FromOctets, ipv6Octets, heven, hi']

/-! ### The flag byte -/

def endpointProtocolTcp : U8 := 0
def endpointProtocolQuic : U8 := 1
def endpointProtocolMask : U8 := 0x0f
def endpointIpVersion4 : U8 := 0
def endpointIpVersion6 : U8 := 0x10
def endpointIpVersionMask : U8 := 0x10
def endpointAreaLan : U8 := 0
def endpointAreaServerReflexive : U8 := 0x20
def endpointAreaWan : U8 := 0x40
def endpointAreaMapped : U8 := 0x60
def endpointAreaMask : U8 := 0x60

namespace Endpoint

def protocolFlags : Protocol → U8
  | .tcp => endpointProtocolTcp
  | .ext p => p
  | .quic => endpointProtocolQuic

def areaFlags : EndpointArea → U8
  | .lan => endpointAreaLan
  | .serverReflexive => endpointAreaServerReflexive
  | .wan => endpointAreaWan
  | .mapped => endpointAreaMapped

def versionFlags : SocketAddr → U8
  | .v4 .. => endpointIpVersion4
  | .v6 .. => endpointIpVersion6

def flags (e : Endpoint) : U8 :=
  0 ||| protocolFlags e.protocol ||| areaFlags e.area ||| versionFlags e.addr

/-- The protocol of a flag byte; `none` for a number that no protocol has. -/
def protocolOfFlags (flags : U8) : Option Protocol :=
  let n := flags &&& endpointProtocolMask
  if n = endpointProtocolTcp then some .tcp
  else if n = endpointProtocolQuic then some .quic
  else if n < 8 || n ≥ 16 then none
  else some (.ext n)

def areaOfFlags (flags : U8) : EndpointArea :=
  let n := flags &&& endpointAreaMask
  if n = endpointAreaLan then .lan
  else if n = endpointAreaServerReflexive then .serverReflexive
  else if n = endpointAreaWan then .wan
  else if n = endpointAreaMapped then .mapped
  else .lan

def extendProtocolError : CodecError := ⟨.invalidInput, "extend protocol must >= 8 and < 16"⟩

/-! ### The binary form -/

def rawMinBytes : Nat := 1 + 2 + 4

def rawMeasure (e : Endpoint) : Nat :=
  match e.addr with
  | .v4 .. => 1 + 2 + 4
  | .v6 .. => 1 + 2 + 16

def rawEncodeNoFlags (e : Endpoint) (buf : List U8) :
    Checked (Except CodecError (List U8 × List U8)) := do
  let whole ← copyFromSlice buf 0 2 (toLeBytes e.addr.port)
  let port ← slice whole 0 2
  let buf ← sliceFrom whole 2
  match e.addr with
  | .v4 ip _ =>
    if buf.length < 4 then
      return .error ⟨.outOfLimit,
        s!"not enough buffer for encode SocketAddrV4, except=4, got={buf.length}"⟩
    else
      let buf ← copyFromSlice buf 0 4 [ip.a, ip.b, ip.c, ip.d]
      return .ok (port ++ buf, ← sliceFrom buf 4)
  | .v6 segments .. =>
    if buf.length < 16 then
      return .error ⟨.outOfLimit,
        s!"not enough buffer for encode SocketAddrV6, except=16, got={buf.length}"⟩
    else
      let buf ← copyFromSlice buf 0 16 (ipv6Octets segments).toList
      return .ok (port ++ buf, ← sliceFrom buf 16)

/-- `ext` is a number that the encoder takes. -/
def encodable (e : Endpoint) : Bool :=
  match e.protocol with
  | .ext n => !(n < 8 || n ≥ 16)
  | _ => true

def rawEncode (e : Endpoint) (buf : List U8) : Checked (Except CodecError (List U8 × List U8)) := do
  if !e.encodable then return .error extendProtocolError
  if buf.length < rawMinBytes then
    return .error ⟨.outOfLimit,
      s!"not enough buffer for encode Endpoint, min bytes={rawMinBytes}, got={buf.length}"⟩
  let whole ← setAt buf 0 e.flags
  let flags ← slice whole 0 1
  match ← e.rawEncodeNoFlags (← sliceFrom whole 1) with
  | .error err => return .error err
  | .ok (body, rest) => return .ok (flags ++ body, rest)

def rawDecodeNoFlags (flags : U8) (buf : List U8) :
    Checked (Except CodecError (Endpoint × List U8)) := do
  let some protocol := protocolOfFlags flags | return .error extendProtocolError
  let area := areaOfFlags flags
  let b ← slice buf 0 2
  let port := ofBytes (← byteAt b 1) (← byteAt b 0)
  let buf ← sliceFrom buf 2
  if flags &&& endpointIpVersionMask = endpointIpVersion6 then
    if buf.length < 16 then
      return .error ⟨.outOfLimit,
        s!"not enough buffer for decode EndPoint6, except=16, got={buf.length}"⟩
    let some octets := tryIntoArray 16 (← slice buf 0 16) | throw .outOfBounds
    return .ok (⟨area, protocol, .v6 (ipv6FromOctets octets) port 0 0⟩, ← sliceFrom buf 16)
  else
    let ip : Ipv4Addr := ⟨← byteAt buf 0, ← byteAt buf 1, ← byteAt buf 2, ← byteAt buf 3⟩
    return .ok (⟨area, protocol, .v4 ip port⟩, ← sliceFrom buf 4)

def rawDecode (buf : List U8) : Checked (Except CodecError (Endpoint × List U8)) := do
  if buf.length < rawMinBytes then
    return .error ⟨.outOfLimit,
      s!"not enough buffer for decode Endpoint, min bytes={rawMinBytes}, got={buf.length}"⟩
  rawDecodeNoFlags (← byteAt buf 0) (← sliceFrom buf 1)

/-! ### The text form -/

/-- The digit `k`. -/
def digit (k : Nat) : Char := Char.ofNat ('0'.toNat + k)

/-- `{:02}`: at least two digits. -/
def twoDigits (n : U8) : List Char :=
  if n.val < 100 then [digit (n.val / 10), digit (n.val % 10)]
  else [digit (n.val / 100), digit (n.val / 10 % 10), digit (n.val % 10)]

def areaText : EndpointArea → Char
  | .lan => 'L'
  | .serverReflexive => 'S'
  | .wan => 'W'
  | .mapped => 'M'

def versionText : SocketAddr → Char
  | .v4 .. => '4'
  | .v6 .. => '6'

def protocolText : Protocol → List Char
  | .ext n => 'e' :: twoDigits n
  | .tcp => ['t', 'c', 'p']
  | .quic => ['q', 'i', 'c']

/-- `Display for Endpoint`. -/
def display (toText : SocketAddr → List Char) (e : Endpoint) : List Char :=
  areaText e.area :: versionText e.addr :: (protocolText e.protocol ++ toText e.addr)

def invalidInput (s : List Char) : P2pError :=
  ⟨.invalidInput, "invalid endpoint string " ++ String.ofList s⟩

def areaOfText : Char → Option EndpointArea
  | 'W' => some .wan
  | 'M' => some .mapped
  | 'L' => some .lan
  | 'S' => some .serverReflexive
  | _ => none

/-- The protocol of three characters, with `other` for those that no protocol has. -/
def protocolOfText (other : P2pError) : Char → Char → Char → P2pResult Protocol
  | 't', 'c', 'p' => .ok .tcp
  | 'u', 'd', 'p' | 'q', 'i', 'c' => .ok .quic
  | 'e', tens, ones =>
    if tens.isDigit && ones.isDigit then
      let n := Fin.ofNat (2 ^ 8) ((tens.toNat - '0'.toNat) * 10 + (ones.toNat - '0'.toNat))
      if n < 8 || n ≥ 16 then .error ⟨.invalidInput, "extend protocol must >= 8 and < 16"⟩
      else .ok (.ext n)
    else .error other
  | _, _, _ => .error other

def isIpv4 : SocketAddr → Bool
  | .v4 .. => true
  | .v6 .. => false

/-- `FromStr for Endpoint`. -/
def fromStr (fromText : List Char → Option SocketAddr) (s : List Char) : P2pResult Endpoint :=
  match s with
  | a :: version :: x :: y :: z :: text =>
    if !([a, version, x, y, z].all (·.toNat < 128)) then .error (invalidInput s)
    else
      match areaOfText a with
      | none => .error (invalidInput s)
      | some area =>
        match protocolOfText (invalidInput s) x y z with
        | .error err => .error err
        | .ok protocol =>
          match fromText text with
          | none => .error (invalidInput s)
          | some addr =>
            if isIpv4 addr && version = '4' || !isIpv4 addr && version = '6' then
              .ok ⟨area, protocol, addr⟩
            else .error (invalidInput s)
  | _ => .error (invalidInput s)

/-! ### Encoding -/

/-- What `raw_encode` writes behind the flag byte. -/
def encodedBody (e : Endpoint) : List U8 :=
  toLeBytes e.addr.port ++
    match e.addr with
    | .v4 ip _ => [ip.a, ip.b, ip.c, ip.d]
    | .v6 segments .. => (ipv6Octets segments).toList

/-- What `raw_encode` writes. -/
def encoding (e : Endpoint) : List U8 := e.flags :: e.encodedBody

theorem encoding_length (e : Endpoint) : e.encoding.length = e.rawMeasure := by
  obtain ⟨area, protocol, addr⟩ := e
  cases addr <;> simp [encoding, encodedBody, rawMeasure, toLeBytes]

theorem rawMinBytes_le_rawMeasure (e : Endpoint) : rawMinBytes ≤ e.rawMeasure := by
  obtain ⟨area, protocol, addr⟩ := e
  cases addr <;> simp [rawMinBytes, rawMeasure]

theorem rawEncodeNoFlags_eq (e : Endpoint) {old rest : List U8}
    (h : old.length = e.encodedBody.length) :
    e.rawEncodeNoFlags (old ++ rest) = .ok (.ok (e.encodedBody ++ rest, rest)) := by
  have hport : (toLeBytes e.addr.port).length = 2 := rfl
  obtain ⟨first, last, rfl, hfirst⟩ := split_at (p := old) (a := 2)
    (by rw [h, encodedBody, List.length_append, hport]; omega)
  have hcopy : copyFromSlice (first ++ last ++ rest) 0 2 (toLeBytes e.addr.port) =
      .ok (toLeBytes e.addr.port ++ (last ++ rest)) :=
    copyFromSlice_of_split (u := []) (List.append_assoc ..) rfl (by omega) (by omega)
  have hslice : slice (toLeBytes e.addr.port ++ (last ++ rest)) 0 2 = .ok (toLeBytes e.addr.port) :=
    slice_of_split (u := []) rfl rfl (by omega)
  have hfrom : sliceFrom (toLeBytes e.addr.port ++ (last ++ rest)) 2 = .ok (last ++ rest) :=
    sliceFrom_of_split rfl hport
  -- the octets overwrite `last`
  have hoctets : ∀ octets : List U8, last.length = octets.length →
      copyFromSlice (last ++ rest) 0 octets.length octets = .ok (octets ++ rest) ∧
        sliceFrom (octets ++ rest) octets.length = .ok rest := fun octets hlen =>
    ⟨copyFromSlice_of_split (u := []) rfl rfl (by omega) hlen.symm, sliceFrom_of_split rfl rfl⟩
  unfold rawEncodeNoFlags
  simp only [bind, Except.bind, pure, Except.pure, hcopy, hslice, hfrom]
  obtain ⟨area, protocol, addr⟩ := e
  cases addr with
  | v4 ip port =>
    have hlast : last.length = [ip.a, ip.b, ip.c, ip.d].length := by
      simp only [encodedBody, List.length_append, hfirst, hport] at h
      omega
    obtain ⟨hwrite, hrest⟩ := hoctets _ hlast
    have hlen : ¬ (last ++ rest).length < 4 := by
      simp only [List.length_append, hlast, List.length_cons, List.length_nil]
      omega
    simp only [List.length_cons, List.length_nil] at hwrite hrest
    simp only [hlen, if_false, hwrite, hrest, encodedBody, List.append_assoc]
  | v6 segments port flowinfo scopeId =>
    have hlast : last.length = (ipv6Octets segments).toList.length := by
      simp only [encodedBody, List.length_append, hfirst, hport] at h
      omega
    obtain ⟨hwrite, hrest⟩ := hoctets _ hlast
    rw [Vector.length_toList] at hwrite hrest hlast
    have hlen : ¬ (last ++ rest).length < 16 := by
      simp only [List.length_append, hlast]
      omega
    simp only [hlen, if_false, hwrite, hrest, encodedBody, List.append_assoc]

/-- `raw_encode` writes `raw_measure` bytes at the front of any buffer that is long enough, and
nothing behind them. -/
theorem rawEncode_eq {e : Endpoint} (he : e.encodable) {buf : List U8}
    (hbuf : e.rawMeasure ≤ buf.length) :
    e.rawEncode buf =
      .ok (.ok (e.encoding ++ buf.drop e.rawMeasure, buf.drop e.rawMeasure)) := by
  have hmin := e.rawMinBytes_le_rawMeasure
  have hlength := e.encoding_length
  obtain ⟨old, rest, rfl, hold⟩ := split_at hbuf
  rw [List.drop_left' hold]
  obtain ⟨flag, body, rfl⟩ := split_one (p := old) (by rw [hold]; exact Nat.lt_of_lt_of_le (by decide) hmin)
  have hbody : body.length = e.encodedBody.length := by
    rw [encoding, List.length_cons] at hlength
    rw [List.length_cons] at hold
    omega
  have hset : setAt (flag :: body ++ rest) 0 e.flags = .ok (e.flags :: (body ++ rest)) :=
    setAt_of_split (u := []) rfl rfl
  have hflag : slice (e.flags :: (body ++ rest)) 0 1 = .ok [e.flags] :=
    slice_of_split (u := []) (v := [e.flags]) rfl rfl rfl
  have hfrom : sliceFrom (e.flags :: (body ++ rest)) 1 = .ok (body ++ rest) :=
    sliceFrom_of_split (u := [e.flags]) rfl rfl
  have hlen : ¬ (flag :: body ++ rest).length < rawMinBytes := by
    rw [List.length_append, hold]
    omega
  unfold rawEncode
  simp only [he, Bool.not_true, Bool.false_eq_true, if_false, hlen, bind, Except.bind, pure,
    Except.pure, hset, hflag, hfrom, rawEncodeNoFlags_eq e hbody, encoding]
  rfl

/-! ### Flag bytes -/

theorem versionFlags_eq (addr : SocketAddr) :
    versionFlags addr = if isIpv4 addr then endpointIpVersion4 else endpointIpVersion6 := by
  cases addr <;> rfl

/-- The fields of the flag byte do not overlap, so each can be read back. -/
theorem ofFlags_flags {e : Endpoint} (he : e.encodable) :
    protocolOfFlags e.flags = some e.protocol ∧ areaOfFlags e.flags = e.area ∧
      (e.flags &&& endpointIpVersionMask = endpointIpVersion6 ↔ isIpv4 e.addr = false) := by
  obtain ⟨area, protocol, addr⟩ := e
  have hext : ∀ (n : U8) (v4 : Bool), (!(n < 8 || n ≥ 16)) = true →
      protocolOfFlags (0 ||| n ||| areaFlags area |||
        if v4 then endpointIpVersion4 else endpointIpVersion6) = some (.ext n) ∧
      areaOfFlags (0 ||| n ||| areaFlags area |||
        if v4 then endpointIpVersion4 else endpointIpVersion6) = area ∧
      ((0 ||| n ||| areaFlags area ||| if v4 then endpointIpVersion4 else endpointIpVersion6) &&&
        endpointIpVersionMask = endpointIpVersion6 ↔ v4 = false) := by
    cases area <;> decide +kernel
  simp only [flags, versionFlags_eq]
  cases protocol with
  | ext n => exact hext n (isIpv4 addr) he
  | tcp => cases area <;> cases isIpv4 addr <;> decide
  | quic => cases area <;> cases isIpv4 addr <;> decide

/-- What is read from a flag byte is encoded by the same byte, without its top bit. -/
theorem flags_ofFlags {f : U8} {protocol : Protocol} (hp : protocolOfFlags f = some protocol) :
    0 ||| protocolFlags protocol ||| areaFlags (areaOfFlags f) |||
        (if f &&& endpointIpVersionMask = endpointIpVersion6 then endpointIpVersion6
          else endpointIpVersion4) = f &&& 0x7f := by
  have hall : ∀ f : U8, ((protocolOfFlags f).all fun protocol =>
      0 ||| protocolFlags protocol ||| areaFlags (areaOfFlags f) |||
        (if f &&& endpointIpVersionMask = endpointIpVersion6 then endpointIpVersion6
          else endpointIpVersion4) = f &&& 0x7f) = true := by
    decide +kernel
  have h := hall f
  rw [hp] at h
  simpa using h

theorem encodable_ofFlags {f : U8} {protocol : Protocol} (hp : protocolOfFlags f = some protocol)
    (area : EndpointArea) (addr : SocketAddr) : encodable ⟨area, protocol, addr⟩ := by
  unfold protocolOfFlags at hp
  dsimp only at hp
  split_ifs at hp with h1 h2 h3
  · cases hp
    rfl
  · cases hp
    rfl
  · cases hp
    simpa [encodable] using h3

/-! ### Decoding -/

/-- The fields behind the flag byte, for an IPv4 address. -/
theorem rawDecodeNoFlags_v4 {f : U8} {protocol : Protocol} (hp : protocolOfFlags f = some protocol)
    (hv : f &&& endpointIpVersionMask ≠ endpointIpVersion6) (port : U16) (ip : Ipv4Addr)
    (rest : List U8) :
    rawDecodeNoFlags f (toLeBytes port ++ ([ip.a, ip.b, ip.c, ip.d] ++ rest)) =
      .ok (.ok (⟨areaOfFlags f, protocol, .v4 ip port⟩, rest)) := by
  have hslice : slice (toLeBytes port ++ ([ip.a, ip.b, ip.c, ip.d] ++ rest)) 0 2 =
      .ok (toLeBytes port) := slice_of_split (u := []) rfl rfl rfl
  have hlow : byteAt (toLeBytes port) 0 = .ok (lowByte port) := rfl
  have hhigh : byteAt (toLeBytes port) 1 = .ok (highByte port) := rfl
  have hfrom : sliceFrom (toLeBytes port ++ ([ip.a, ip.b, ip.c, ip.d] ++ rest)) 2 =
      .ok ([ip.a, ip.b, ip.c, ip.d] ++ rest) := sliceFrom_of_split rfl rfl
  have ha : byteAt ([ip.a, ip.b, ip.c, ip.d] ++ rest) 0 = .ok ip.a := rfl
  have hb : byteAt ([ip.a, ip.b, ip.c, ip.d] ++ rest) 1 = .ok ip.b := rfl
  have hc : byteAt ([ip.a, ip.b, ip.c, ip.d] ++ rest) 2 = .ok ip.c := rfl
  have hd : byteAt ([ip.a, ip.b, ip.c, ip.d] ++ rest) 3 = .ok ip.d := rfl
  have hrest : sliceFrom ([ip.a, ip.b, ip.c, ip.d] ++ rest) 4 = .ok rest :=
    sliceFrom_of_split rfl rfl
  simp only [rawDecodeNoFlags, hp, bind, Except.bind, pure, Except.pure, hslice, hlow, hhigh, hfrom,
    hv, if_false, ha, hb, hc, hd, hrest, ofBytes_bytes]

/-- The fields behind the flag byte, for an IPv6 address. -/
theorem rawDecodeNoFlags_v6 {f : U8} {protocol : Protocol} (hp : protocolOfFlags f = some protocol)
    (hv : f &&& endpointIpVersionMask = endpointIpVersion6) (port : U16) (octets : Vector U8 16)
    (rest : List U8) :
    rawDecodeNoFlags f (toLeBytes port ++ (octets.toList ++ rest)) =
      .ok (.ok (⟨areaOfFlags f, protocol, .v6 (ipv6FromOctets octets) port 0 0⟩, rest)) := by
  have hslice : slice (toLeBytes port ++ (octets.toList ++ rest)) 0 2 = .ok (toLeBytes port) :=
    slice_of_split (u := []) rfl rfl rfl
  have hlow : byteAt (toLeBytes port) 0 = .ok (lowByte port) := rfl
  have hhigh : byteAt (toLeBytes port) 1 = .ok (highByte port) := rfl
  have hfrom : sliceFrom (toLeBytes port ++ (octets.toList ++ rest)) 2 =
      .ok (octets.toList ++ rest) := sliceFrom_of_split rfl rfl
  have hlen : ¬ (octets.toList ++ rest).length < 16 := by
    rw [List.length_append, Vector.length_toList]
    omega
  have hoctets : slice (octets.toList ++ rest) 0 16 = .ok octets.toList :=
    slice_of_split (u := []) rfl rfl (by rw [Vector.length_toList])
  have hrest : sliceFrom (octets.toList ++ rest) 16 = .ok rest :=
    sliceFrom_of_split rfl Vector.length_toList
  simp only [rawDecodeNoFlags, hp, bind, Except.bind, pure, Except.pure, hslice, hlow, hhigh, hfrom,
    hv, if_true, hlen, if_false, hoctets, tryIntoArray_toList, hrest, ofBytes_bytes]

/-- Flow and scope of the address are zero. -/
def plain (e : Endpoint) : Bool :=
  match e.addr with
  | .v4 .. => true
  | .v6 _ _ flowinfo scopeId => flowinfo = 0 && scopeId = 0

/-- An endpoint is decoded from its encoding, and what follows it is left. -/
theorem rawDecode_encoding {e : Endpoint} (he : e.encodable) (hplain : e.plain) (tail : List U8) :
    rawDecode (e.encoding ++ tail) = .ok (.ok (e, tail)) := by
  obtain ⟨hprotocol, harea, hversion⟩ := ofFlags_flags he
  have hlen : ¬ (e.encoding ++ tail).length < rawMinBytes := by
    rw [List.length_append, encoding_length]
    have := e.rawMinBytes_le_rawMeasure
    omega
  have hflag : byteAt (e.encoding ++ tail) 0 = .ok e.flags := rfl
  have hfrom : sliceFrom (e.encoding ++ tail) 1 = .ok (e.encodedBody ++ tail) :=
    sliceFrom_of_split (u := [e.flags]) rfl rfl
  simp only [rawDecode, hlen, if_false, bind, Except.bind, hflag, hfrom]
  obtain ⟨area, protocol, addr⟩ := e
  cases addr with
  | v4 ip port =>
    rw [encodedBody, List.append_assoc, SocketAddr.port,
      rawDecodeNoFlags_v4 hprotocol (fun h => absurd (hversion.mp h) (by simp [isIpv4])) port ip tail, harea]
  | v6 segments port flowinfo scopeId =>
    simp only [plain, Bool.and_eq_true, decide_eq_true_eq] at hplain
    rw [encodedBody, List.append_assoc, SocketAddr.port,
      rawDecodeNoFlags_v6 hprotocol (hversion.mpr rfl) port (ipv6Octets segments) tail, harea,
      ipv6FromOctets_octets, hplain.1, hplain.2]

/-- What `raw_decode` can do with a byte string. -/
theorem rawDecode_cases (p : List U8) :
    (∃ err, rawDecode p = .ok (.error err)) ∨
      ∃ (e : Endpoint) (f : U8) (rest : List U8), rawDecode p = .ok (.ok (e, rest)) ∧ e.encodable ∧
        p = f :: (e.encodedBody ++ rest) ∧ e.flags = f &&& 0x7f := by
  by_cases hlen : p.length < rawMinBytes
  · left
    simp only [rawDecode, hlen, if_true]
    exact ⟨_, rfl⟩
  rw [rawMinBytes, Nat.not_lt] at hlen
  obtain ⟨f, p, rfl⟩ := split_one (p := p) (by omega)
  obtain ⟨low, p, rfl⟩ := split_one (p := p) (by simp at hlen; omega)
  obtain ⟨high, p, rfl⟩ := split_one (p := p) (by simp at hlen; omega)
  simp only [List.length_cons] at hlen
  have hfrom : sliceFrom (f :: low :: high :: p) 1 = .ok (low :: high :: p) :=
    sliceFrom_of_split (u := [f]) rfl rfl
  have hbody : low :: high :: p = toLeBytes (ofBytes high low) ++ p := by
    simp [toLeBytes]
  have hdecode : rawDecode (f :: low :: high :: p) =
      rawDecodeNoFlags f (toLeBytes (ofBytes high low) ++ p) := by
    rw [← hbody, rawDecode, if_neg (by simp only [List.length_cons, rawMinBytes]; omega)]
    simp only [bind, Except.bind, hfrom]
    rfl
  rw [hdecode, hbody]
  cases hp : protocolOfFlags f with
  | none =>
    left
    rw [rawDecodeNoFlags, hp]
    exact ⟨_, rfl⟩
  | some protocol =>
    have hflags := flags_ofFlags hp
    by_cases hv : f &&& endpointIpVersionMask = endpointIpVersion6
    · by_cases hshort : p.length < 16
      · left
        have hslice : slice (toLeBytes (ofBytes high low) ++ p) 0 2 =
            .ok (toLeBytes (ofBytes high low)) := slice_of_split (u := []) rfl rfl rfl
        have hfrom' : sliceFrom (toLeBytes (ofBytes high low) ++ p) 2 = .ok p :=
          sliceFrom_of_split rfl rfl
        have hlow : byteAt (toLeBytes (ofBytes high low)) 0 = .ok low := by simp [toLeBytes, byteAt]
        have hhigh : byteAt (toLeBytes (ofBytes high low)) 1 = .ok high := by
          simp [toLeBytes, byteAt]
        simp only [rawDecodeNoFlags, hp, bind, Except.bind, hslice, hfrom', hlow, hhigh, hv, if_true,
          hshort, pure, Except.pure]
        exact ⟨_, rfl⟩
      · right
        obtain ⟨bytes, rest, rfl, hbytes⟩ := split_at (p := p) (a := 16) (by omega)
        obtain ⟨octets, rfl⟩ := exists_array_of_length hbytes
        rw [if_pos hv] at hflags
        refine ⟨_, f, rest, rawDecodeNoFlags_v6 hp hv _ octets rest, encodable_ofFlags hp _ _, ?_,
          hflags⟩
        simp only [encodedBody, SocketAddr.port, ipv6Octets_fromOctets, List.append_assoc]
    · right
      obtain ⟨a, p, rfl⟩ := split_one (p := p) (by omega)
      obtain ⟨b, p, rfl⟩ := split_one (p := p) (by simp at hlen; omega)
      obtain ⟨c, p, rfl⟩ := split_one (p := p) (by simp at hlen; omega)
      obtain ⟨d, rest, rfl⟩ := split_one (p := p) (by simp at hlen; omega)
      rw [if_neg hv] at hflags
      exact ⟨_, f, rest, rawDecodeNoFlags_v4 hp hv _ ⟨a, b, c, d⟩ rest, encodable_ofFlags hp _ _,
        by simp [encodedBody, SocketAddr.port], hflags⟩

/-! ### Text -/

theorem areaOfText_areaText (area : EndpointArea) : areaOfText (areaText area) = some area := by
  cases area <;> rfl

/-- The three characters of a protocol. -/
theorem protocolOfText_protocolText {e : Endpoint} (he : e.encodable) (other : P2pError) :
    ∃ x y z, protocolText e.protocol = [x, y, z] ∧ (x.toNat < 128 ∧ y.toNat < 128 ∧ z.toNat < 128) ∧
      protocolOfText other x y z = .ok e.protocol := by
  obtain ⟨area, protocol, addr⟩ := e
  cases protocol with
  | tcp => exact ⟨'t', 'c', 'p', rfl, by decide, rfl⟩
  | quic => exact ⟨'q', 'i', 'c', rfl, by decide, rfl⟩
  | ext n =>
    have hdigits : ∀ n : U8, (!(n < 8 || n ≥ 16)) = true → n.val < 100 ∧
        (digit (n.val / 10)).toNat < 128 ∧ (digit (n.val % 10)).toNat < 128 ∧
        ((digit (n.val / 10)).isDigit && (digit (n.val % 10)).isDigit) = true ∧
        Fin.ofNat (2 ^ 8) (((digit (n.val / 10)).toNat - '0'.toNat) * 10 +
          ((digit (n.val % 10)).toNat - '0'.toNat)) = n := by
      decide +kernel
    obtain ⟨hlt, htens, hones, hisDigit, hvalue⟩ := hdigits n he
    refine ⟨'e', digit (n.val / 10), digit (n.val % 10), ?_, ⟨by decide, htens, hones⟩, ?_⟩
    · simp only [protocolText, twoDigits, hlt, if_true]
    · have hrange : (n < 8 || n ≥ 16) = false := Bool.not_eq_true' _ ▸ he
      simp only [protocolOfText, hisDigit, if_true, hvalue, hrange, Bool.false_eq_true, if_false]

theorem fromStr_display {toText : SocketAddr → List Char} {fromText : List Char → Option SocketAddr}
    {e : Endpoint} (he : e.encodable) (htext : fromText (toText e.addr) = some e.addr) :
    fromStr fromText (display toText e) = .ok e := by
  obtain ⟨x, y, z, hxyz, hascii, hprotocol⟩ :=
    protocolOfText_protocolText he (invalidInput (display toText e))
  have hdisplay : display toText e =
      areaText e.area :: versionText e.addr :: x :: y :: z :: toText e.addr := by
    rw [display, hxyz]
    rfl
  have harea : (areaText e.area).toNat < 128 := by cases e.area <;> decide
  have hversion : (versionText e.addr).toNat < 128 := by
    cases e.addr with
    | v4 ip port => exact (by decide : '4'.toNat < 128)
    | v6 segments port flowinfo scopeId => exact (by decide : '6'.toNat < 128)
  have hcheck : (isIpv4 e.addr && versionText e.addr = '4' ||
      !isIpv4 e.addr && versionText e.addr = '6') = true := by
    cases e.addr <;> rfl
  rw [hdisplay] at hprotocol ⊢
  simp only [fromStr, List.all_cons, List.all_nil, harea, hversion, hascii.1, hascii.2.1,
    hascii.2.2, decide_true, Bool.and_true, Bool.not_true, Bool.false_eq_true, if_false,
    areaOfText_areaText, hprotocol, htext, hcheck, if_true]

/-- **The two codecs of an endpoint invert their decoders.**  `raw_encode` writes `raw_measure` bytes,
`raw_decode` reads them back and leaves what follows, and `from_str` reads what `Display` writes.
In the other direction, `raw_decode` reads nothing outside of its input, and what it accepts is the
encoding of what it returns, but for the top bit of the flag byte. -/
theorem codecs_invert (toText : SocketAddr → List Char) (fromText : List Char → Option SocketAddr) :
    (∀ e : Endpoint, e.encodable → e.plain → fromText (toText e.addr) = some e.addr →
      (∃ bytes, bytes.length = e.rawMeasure ∧
        (∀ buf, e.rawMeasure ≤ buf.length → e.rawEncode buf =
          .ok (.ok (bytes ++ buf.drop e.rawMeasure, buf.drop e.rawMeasure))) ∧
        ∀ tail, rawDecode (bytes ++ tail) = .ok (.ok (e, tail))) ∧
      fromStr fromText (display toText e) = .ok e) ∧
    ∀ p : List U8, (∃ result, rawDecode p = .ok result) ∧
      ∀ e rest, rawDecode p = .ok (.ok (e, rest)) → e.encodable ∧
        ∃ f body, p = f :: body ++ rest ∧ ∀ buf, buf.length = (f :: body).length →
          e.rawEncode buf = .ok (.ok ((f &&& 0x7f) :: body, [])) := by
  refine ⟨?_, ?_⟩
  · intro e he hplain htext
    exact ⟨⟨e.encoding, e.encoding_length, fun buf hbuf => rawEncode_eq he hbuf,
      rawDecode_encoding he hplain⟩, fromStr_display he htext⟩
  · intro p
    rcases rawDecode_cases p with ⟨err, herr⟩ | ⟨e, f, rest, hok, he, hp, hflags⟩
    · refine ⟨⟨_, herr⟩, fun e rest h => ?_⟩
      rw [herr] at h
      cases h
    · refine ⟨⟨_, hok⟩, fun e' rest' h => ?_⟩
      rw [hok] at h
      cases h
      refine ⟨he, f, e.encodedBody, hp, fun buf hbuf => ?_⟩
      have hmeasure : buf.length = e.rawMeasure := by
        rw [hbuf, ← e.encoding_length]
        rfl
      rw [rawEncode_eq he hmeasure.ge, List.drop_eq_nil_of_le hmeasure.le, List.append_nil, encoding,
        hflags]

/-- The endpoint `S4tcp203.0.113.8:3457`. -/
def sampleEndpoint : Endpoint := ⟨.serverReflexive, .tcp, .v4 ⟨203, 0, 113, 8⟩ 3457⟩

theorem codecs_invert_sample :
    rawDecode [32, 129, 13, 203, 0, 113, 8] = .ok (.ok (sampleEndpoint, [])) ∧
      fromStr (fun s => if s = "203.0.113.8:3457".toList then some sampleEndpoint.addr else none)
        "S4tcp203.0.113.8:3457".toList = .ok sampleEndpoint := by
  have h := (codecs_invert (fun _ => "203.0.113.8:3457".toList)
    (fun s => if s = "203.0.113.8:3457".toList then some sampleEndpoint.addr else none)).1
      sampleEndpoint rfl rfl (if_pos rfl)
  obtain ⟨⟨bytes, hlen, hencode, hdecode⟩, htext⟩ := h
  refine ⟨?_, htext⟩
  have hbytes := hencode (List.replicate 7 0) (by decide)
  have hwritten : sampleEndpoint.rawEncode (List.replicate 7 0) =
      .ok (.ok ([32, 129, 13, 203, 0, 113, 8], [])) := rfl
  rw [hwritten] at hbytes
  have hdecode' := hdecode []
  have heq : bytes = [32, 129, 13, 203, 0, 113, 8] := by
    have h := Except.ok.inj (Except.ok.inj hbytes)
    simpa [rawMeasure, sampleEndpoint] using (congrArg Prod.fst h).symm
  rw [heq] at hdecode'
  exact hdecode'

end Endpoint

end BuckyP2p
