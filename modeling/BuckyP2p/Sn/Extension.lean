import BuckyP2p.Lib.Codec
import BuckyP2p.Rendezvous.EndpointCodec

/-!
# BuckyP2p.Sn.Extension — the optional envelopes behind an SN message (`sn/protocol/sn.rs`)

An SN message is its legacy structure and, behind it, up to two envelopes: a magic, a version, the
length of the payload, the payload.  A decoder that does not know a magic leaves the envelope where
it is; one that knows it never lets a broken envelope spoil the message.

The codecs of `bucky_raw_codec`, and those that it derives, are parameters (`Wire` for the header).
`Envelope` says that a byte string starts with an envelope; `Behind` says what the two envelopes of a
message are, for any byte string behind the legacy structure.  `Format` is the shape that the
messages share.
-/

namespace BuckyP2p.Sn

open Lib

variable {Purpose α : Type}

abbrev Codec (Purpose α : Type) : Type := RawCodec U8 CodecError Purpose α

def snExtensionVersion : U8 := 1

def snExtensionHeaderLen : Nat := 4 + 1 + 4

/-- `u32::from_be_bytes(*b"...")`. -/
def fromBeBytes (text : String) : U32 :=
  Fin.ofNat (2 ^ 32) (text.toList.foldl (fun n c => n * 2 ^ 8 + c.toNat) 0)

/-- What the header of an envelope uses of `bucky_raw_codec`. -/
structure Wire (Purpose : Type) where
  u8 : Codec Purpose U8
  u32 : Codec Purpose U32
  /-- `u32::raw_bytes().unwrap()` -/
  u32RawBytes : Nat

/-- The fixed-width codecs lose nothing, and a number takes as many bytes as it has. -/
structure Wire.Sound (w : Wire Purpose) (purpose : Purpose) : Prop where
  u8 : w.u8.Lawful purpose
  u8Width : w.u8.Width purpose 1
  u32 : w.u32.Lawful purpose
  u32Width : w.u32.Width purpose 4
  u32RawBytes : w.u32RawBytes = 4

def extensionMeasure (c : Codec Purpose α) (value : Option α) (purpose : Purpose) :
    Except CodecError Nat := do
  match value with
  | some value => return snExtensionHeaderLen + (← c.rawMeasure value purpose)
  | none => return 0

def extensionTooLarge : CodecError := ⟨.outOfLimit, "SN extension payload is too large"⟩

/-- `u32::try_from`. -/
def payloadLenOf (n : Nat) : Except CodecError U32 :=
  if h : n < 2 ^ 32 then .ok ⟨n, h⟩ else .error extensionTooLarge

def extensionEncode (w : Wire Purpose) (c : Codec Purpose α) (value : Option α) (magic : U32)
    (buf : List U8) (purpose : Purpose) : Except CodecError (List U8 × List U8) := do
  match value with
  | none => return ([], buf)
  | some value =>
    let payloadLen ← payloadLenOf (← c.rawMeasure value purpose)
    let (magicBytes, buf) ← w.u32.rawEncode magic purpose buf
    let (versionBytes, buf) ← w.u8.rawEncode snExtensionVersion purpose buf
    let (lenBytes, buf) ← w.u32.rawEncode payloadLen purpose buf
    let (payload, buf) ← c.rawEncode value purpose buf
    return (magicBytes ++ versionBytes ++ lenBytes ++ payload, buf)

/-- `&original[original.len()..]` is the empty slice. -/
def extensionDecode (w : Wire Purpose) (c : Codec Purpose α) (buf : List U8) (magic : U32) :
    Option α × List U8 :=
  if buf.length < w.u32RawBytes then (none, buf)
  else
    match w.u32.rawDecode buf with
    | .error _ => (none, buf)
    | .ok (tailMagic, afterMagic) =>
      if tailMagic ≠ magic then (none, buf)
      else
        match w.u8.rawDecode afterMagic with
        | .error _ => (none, [])
        | .ok (version, afterVersion) =>
          match w.u32.rawDecode afterVersion with
          | .error _ => (none, [])
          | .ok (payloadLen, afterHeader) =>
            if afterHeader.length < payloadLen.val then (none, [])
            else
              let payload := afterHeader.take payloadLen.val
              let remainder := afterHeader.drop payloadLen.val
              if version ≠ snExtensionVersion then (none, remainder)
              else
                match c.rawDecode payload with
                | .ok (value, []) => (some value, remainder)
                | _ => (none, remainder)

/-! ### One envelope -/

/-- `buf` is an envelope with this magic, version and payload, and `rest` behind it. -/
structure Envelope (w : Wire Purpose) (buf : List U8) (magic : U32) (version : U8)
    (payload rest : List U8) : Prop where
  long : w.u32RawBytes ≤ buf.length
  header : ∃ afterMagic afterVersion payloadLen, w.u32.rawDecode buf = .ok (magic, afterMagic) ∧
    w.u8.rawDecode afterMagic = .ok (version, afterVersion) ∧
    w.u32.rawDecode afterVersion = .ok (payloadLen, payload ++ rest) ∧
    payload.length = payloadLen.val

/-- The payload of an envelope of the known version, if all of it decodes to a value. -/
def payloadValue (c : Codec Purpose α) (version : U8) (payload : List U8) : Option α :=
  if version ≠ snExtensionVersion then none
  else
    match c.rawDecode payload with
    | .ok (value, []) => some value
    | _ => none

variable {w : Wire Purpose} {c : Codec Purpose α} {purpose : Purpose} {buf payload rest : List U8}
  {magic : U32} {version : U8} {value : α}

theorem payloadValue_eq_some :
    payloadValue c version payload = some value ↔
      version = snExtensionVersion ∧ c.rawDecode payload = .ok (value, []) := by
  unfold payloadValue
  by_cases hversion : version = snExtensionVersion
  · rw [if_neg (not_not_intro hversion)]
    split
    case h_1 v hdecode => simp [hversion, hdecode]
    case h_2 hbad =>
      constructor
      · intro h
        cases h
      · intro h
        exact absurd h.2 (hbad value)
  · rw [if_pos hversion]
    simp [hversion]

theorem Envelope.decode (h : Envelope w buf magic version payload rest) :
    extensionDecode w c buf magic = (payloadValue c version payload, rest) := by
  obtain ⟨afterMagic, afterVersion, payloadLen, hmagic, hversion, hlen, hpayload⟩ := h.header
  have hlong : ¬ buf.length < w.u32RawBytes := Nat.not_lt.mpr h.long
  have hroom : ¬ (payload ++ rest).length < payloadLen.val := by
    rw [List.length_append]
    omega
  unfold extensionDecode
  simp only [hlong, if_false, hmagic, ne_eq, not_true_eq_false, hversion, hlen, hroom]
  rw [← hpayload, List.take_left' rfl, List.drop_left' rfl]
  by_cases hknown : version = snExtensionVersion
  · simp only [hknown, not_true_eq_false, if_false, payloadValue, ne_eq]
    split <;> rfl
  · simp only [hknown, not_false_eq_true, if_true, payloadValue, ne_eq]

/-- What is decoded comes out of an envelope at the front; the rest is where it was, behind an
envelope, or nothing. -/
theorem extensionDecode_cases (w : Wire Purpose) (c : Codec Purpose α) (buf : List U8)
    (magic : U32) :
    (∃ version payload rest, Envelope w buf magic version payload rest ∧
      extensionDecode w c buf magic = (payloadValue c version payload, rest)) ∨
    (extensionDecode w c buf magic = (none, buf) ∨ extensionDecode w c buf magic = (none, [])) ∧
      ∀ version payload rest, ¬ Envelope w buf magic version payload rest := by
  by_cases henv : ∃ version payload rest, Envelope w buf magic version payload rest
  · obtain ⟨version, payload, rest, henv⟩ := henv
    exact .inl ⟨version, payload, rest, henv, henv.decode⟩
  refine .inr ⟨?_, fun version payload rest h => henv ⟨version, payload, rest, h⟩⟩
  unfold extensionDecode
  split_ifs with hlong
  · exact .inl rfl
  cases hmagic : w.u32.rawDecode buf with
  | error e => exact .inl rfl
  | ok r =>
    obtain ⟨tailMagic, afterMagic⟩ := r
    dsimp only
    split_ifs with hne
    · exact .inl rfl
    rw [ne_eq, Decidable.not_not] at hne
    subst hne
    cases hversion : w.u8.rawDecode afterMagic with
    | error e => exact .inr rfl
    | ok r =>
      obtain ⟨version, afterVersion⟩ := r
      dsimp only
      cases hlen : w.u32.rawDecode afterVersion with
      | error e => exact .inr rfl
      | ok r =>
        obtain ⟨payloadLen, afterHeader⟩ := r
        dsimp only
        by_cases hroom : afterHeader.length < payloadLen.val
        · rw [if_pos hroom]
          exact .inr rfl
        · -- all of the payload is there
          have htaken : (afterHeader.take payloadLen.val).length = payloadLen.val := by
            rw [List.length_take]
            omega
          rw [← List.take_append_drop payloadLen.val afterHeader] at hlen
          exact absurd ⟨version, _, _, Nat.not_lt.mp hlong, afterMagic, afterVersion, payloadLen, hmagic,
            hversion, hlen, htaken⟩ henv

theorem extensionDecode_eq_some :
    (extensionDecode w c buf magic).1 = some value ↔ ∃ payload rest,
      Envelope w buf magic snExtensionVersion payload rest ∧ c.rawDecode payload = .ok (value, []) := by
  constructor
  · intro h
    rcases extensionDecode_cases w c buf magic with
      ⟨version, payload, rest, henv, hdecode⟩ | ⟨hdecode | hdecode, -⟩
    · rw [hdecode] at h
      obtain ⟨rfl, hvalue⟩ := payloadValue_eq_some.mp h
      exact ⟨payload, rest, henv, hvalue⟩
    · rw [hdecode] at h
      cases h
    · rw [hdecode] at h
      cases h
  · rintro ⟨payload, rest, henv, hvalue⟩
    rw [henv.decode]
    exact payloadValue_eq_some.mpr ⟨rfl, hvalue⟩

theorem extensionDecode_of_ne {magic' : U32} (h : Envelope w buf magic' version payload rest)
    (hne : magic' ≠ magic) : extensionDecode w c buf magic = (none, buf) := by
  obtain ⟨afterMagic, afterVersion, payloadLen, hmagic, -⟩ := h.header
  have hlong : ¬ buf.length < w.u32RawBytes := Nat.not_lt.mpr h.long
  simp only [extensionDecode, hlong, if_false, hmagic, ne_eq, hne, not_false_eq_true, if_true]

theorem extensionDecode_nil (hw : w.Sound purpose) : extensionDecode w c [] magic = (none, []) := by
  have hshort : ([] : List U8).length < w.u32RawBytes := by
    rw [hw.u32RawBytes]
    decide
  rw [extensionDecode, if_pos hshort]

/-! ### Writing an envelope -/

/-- The payload, if there is one, has a length that the header can hold. -/
def PayloadFits (c : Codec Purpose α) (purpose : Purpose) (value : Option α) : Prop :=
  ∀ v ∈ value, ∀ n, c.rawMeasure v purpose = .ok n → n < 2 ^ 32

/-- `bytes` is the envelope of the value, or nothing if there is no value. -/
def Framed (w : Wire Purpose) (c : Codec Purpose α) (magic : U32) (bytes : List U8)
    (value : Option α) : Prop :=
  (value = none ∧ bytes = []) ∨ ∃ payload, payloadValue c snExtensionVersion payload = value ∧
    ∀ rest, Envelope w (bytes ++ rest) magic snExtensionVersion payload rest

theorem extension_framed (hw : w.Sound purpose) {value value' : Option α}
    (hc : Option.Rel (c.Transfers purpose) value value') (hfits : PayloadFits c purpose value)
    (magic : U32) :
    ∃ bytes, extensionMeasure c value purpose = .ok bytes.length ∧
      (∀ buf : List U8, bytes.length ≤ buf.length →
        extensionEncode w c value magic buf purpose = .ok (bytes, buf.drop bytes.length)) ∧
      Framed w c magic bytes value' := by
  cases hc with
  | none => exact ⟨[], rfl, fun buf _ => rfl, .inl ⟨rfl, rfl⟩⟩
  | @some v v' htransfers =>
    obtain ⟨payload, hwrites, hreads⟩ := htransfers
    have hlen : payload.length < 2 ^ 32 := hfits v rfl _ hwrites.measure
    obtain ⟨magicBytes, hmagic, hmagicRead, hmagicLen⟩ := hw.u32.exists_bytes hw.u32Width magic
    obtain ⟨versionBytes, hversion, hversionRead, hversionLen⟩ :=
      hw.u8.exists_bytes hw.u8Width snExtensionVersion
    obtain ⟨lenBytes, hpay, hpayRead, hpayLen⟩ :=
      hw.u32.exists_bytes hw.u32Width ⟨payload.length, hlen⟩
    refine ⟨magicBytes ++ versionBytes ++ lenBytes ++ payload, ?_, ?_, .inr ⟨payload, ?_, ?_⟩⟩
    · simp only [extensionMeasure, hwrites.measure, bind, Except.bind, pure, Except.pure,
        List.length_append, hmagicLen, hversionLen, hpayLen, snExtensionHeaderLen]
    · intro buf hbuf
      simp only [List.length_append] at hbuf
      have hmeasure : payloadLenOf payload.length = .ok ⟨payload.length, hlen⟩ := dif_pos hlen
      have h1 := hmagic.encode buf (by omega)
      have h2 := hversion.encode (buf.drop magicBytes.length) (by rw [List.length_drop]; omega)
      have h3 := hpay.encode ((buf.drop magicBytes.length).drop versionBytes.length)
        (by simp only [List.length_drop]; omega)
      have h4 := hwrites.encode
        (((buf.drop magicBytes.length).drop versionBytes.length).drop lenBytes.length)
        (by simp only [List.length_drop]; omega)
      simp only [extensionEncode, bind, Except.bind, pure, Except.pure, hwrites.measure, hmeasure,
        h1, h2, h3, h4]
      simp only [List.drop_drop, List.length_append]
    · exact payloadValue_eq_some.mpr ⟨rfl, hreads.decode_self⟩
    · intro rest
      refine ⟨?_, versionBytes ++ (lenBytes ++ (payload ++ rest)), lenBytes ++ (payload ++ rest),
        ⟨payload.length, hlen⟩, ?_, hversionRead _, hpayRead _, rfl⟩
      · rw [hw.u32RawBytes]
        simp only [List.length_append]
        omega
      · rw [← hmagicRead]
        simp only [List.append_assoc]

/-- An envelope whose payload is too large is not written. -/
theorem extensionEncode_tooLarge {value : Option α} (h : ¬ PayloadFits c purpose value)
    (magic : U32) (buf : List U8) :
    extensionEncode w c value magic buf purpose = .error extensionTooLarge := by
  unfold PayloadFits at h
  push Not at h
  obtain ⟨v, hv, n, hn, hlarge⟩ := h
  rw [Option.mem_def] at hv
  subst hv
  have hlen : payloadLenOf n = .error extensionTooLarge := dif_neg (Nat.not_lt.mpr hlarge)
  simp only [extensionEncode, bind, Except.bind, hn, hlen]

section Framed

variable {β : Type} {d : Codec Purpose β} {magic' : U32} {bytes bytes' : List U8} {a : Option α}
  {b : Option β}

theorem Framed.decode_last (hw : w.Sound purpose) (h : Framed w c magic bytes a) :
    extensionDecode w c bytes magic = (a, []) := by
  rcases h with ⟨rfl, rfl⟩ | ⟨payload, hvalue, henv⟩
  · exact extensionDecode_nil hw
  · have hnil := henv []
    rw [List.append_nil] at hnil
    rw [hnil.decode, hvalue]

/-- The first decoder takes the first envelope, and does not touch the second if there is no first. -/
theorem Framed.decode_first (hw : w.Sound purpose) (h : Framed w c magic bytes a)
    (h' : Framed w d magic' bytes' b) (hne : magic' ≠ magic) :
    extensionDecode w c (bytes ++ bytes') magic = (a, bytes') := by
  rcases h with ⟨rfl, rfl⟩ | ⟨payload, hvalue, henv⟩
  · rcases h' with ⟨-, rfl⟩ | ⟨payload', -, henv'⟩
    · exact extensionDecode_nil hw
    · have hnil := henv' []
      rw [List.append_nil] at hnil
      exact extensionDecode_of_ne hnil hne
  · rw [(henv bytes').decode, hvalue]

end Framed

/-! ### Messages -/

/-- What the encoder of a message `m` does, and what the two decoders make of its bytes: the current
one `m'`, the legacy one `l`.  Without `fits` nothing is encoded. -/
structure Carries {M L : Type} (message : Codec Purpose M) (legacy : Codec Purpose L)
    (purpose : Purpose) (fits : Prop) (m m' : M) (l : L) : Prop where
  carried : fits → ∃ bytes, message.Writes purpose m bytes ∧
    message.rawDecode bytes = .ok (m', []) ∧ ∃ tail, legacy.rawDecode bytes = .ok (l, tail)
  refused : ¬ fits → ∀ buf out, message.rawEncode m purpose buf ≠ .ok out

/-- A legacy structure with two optional envelopes behind it. -/
structure Format (Purpose L A B : Type) where
  legacy : Codec Purpose L
  first : Codec Purpose A
  firstMagic : U32
  second : Codec Purpose B
  secondMagic : U32

namespace Format

variable {L A B M : Type}

/-- The parts of a message: the legacy structure and the optional parts. -/
abbrev Parts (L A B : Type) : Type := L × Option A × Option B

/-- The parts of one message are given back as those of another. -/
def Transfers (f : Format Purpose L A B) (purpose : Purpose) (p q : Parts L A B) : Prop :=
  f.legacy.Transfers purpose p.1 q.1 ∧ Option.Rel (f.first.Transfers purpose) p.2.1 q.2.1 ∧
    Option.Rel (f.second.Transfers purpose) p.2.2 q.2.2

def Fits (f : Format Purpose L A B) (purpose : Purpose) (p : Parts L A B) : Prop :=
  PayloadFits f.first purpose p.2.1 ∧ PayloadFits f.second purpose p.2.2

/-- The codec of a message: `split` gives its legacy structure and its optional parts, `build` puts
a message together from what is decoded. -/
def codec (f : Format Purpose L A B) (w : Wire Purpose) (split : M → Parts L A B)
    (build : L → Option A → Option B → M) : Codec Purpose M where
  rawMeasure m purpose := do
    let (legacy, first, second) := split m
    return (← f.legacy.rawMeasure legacy purpose) + (← extensionMeasure f.first first purpose) +
      (← extensionMeasure f.second second purpose)
  rawEncode m purpose buf := do
    let (legacy, first, second) := split m
    let (legacyBytes, buf) ← f.legacy.rawEncode legacy purpose buf
    let (firstBytes, buf) ← extensionEncode w f.first first f.firstMagic buf purpose
    let (secondBytes, buf) ← extensionEncode w f.second second f.secondMagic buf purpose
    return (legacyBytes ++ firstBytes ++ secondBytes, buf)
  rawDecode buf := do
    let (legacy, buf) ← f.legacy.rawDecode buf
    let (first, buf) := extensionDecode w f.first buf f.firstMagic
    let (second, buf) := extensionDecode w f.second buf f.secondMagic
    return (build legacy first second, buf)

/-- `start` is where the decoder looks for the second envelope: at the front, or behind the first. -/
def SecondAt (f : Format Purpose L A B) (w : Wire Purpose) (tail start : List U8) : Prop :=
  start = tail ∨ ∃ version payload, Envelope w tail f.firstMagic version payload start

/-- The optional parts are those that the byte string behind the legacy structure holds: each is all
of the payload of an envelope of the right magic, of the known version. -/
structure Behind (f : Format Purpose L A B) (w : Wire Purpose) (tail : List U8) (a : Option A)
    (b : Option B) : Prop where
  first : ∀ x, a = some x ↔ ∃ payload rest,
    Envelope w tail f.firstMagic snExtensionVersion payload rest ∧ f.first.rawDecode payload = .ok (x, [])
  second : ∀ y, b = some y ↔ ∃ start payload rest, f.SecondAt w tail start ∧
    Envelope w start f.secondMagic snExtensionVersion payload rest ∧
    f.second.rawDecode payload = .ok (y, [])

variable {f : Format Purpose L A B} {split : M → Parts L A B} {build : L → Option A → Option B → M}
  {m : M} {l : L} {q : Parts L A B}

theorem codec_carries (hw : w.Sound purpose) (hne : f.secondMagic ≠ f.firstMagic)
    (h : f.Transfers purpose (split m) q) :
    Carries (f.codec w split build) f.legacy purpose (f.Fits purpose (split m)) m
      (build q.1 q.2.1 q.2.2) q.1 := by
  obtain ⟨⟨legacyBytes, hwrites, hreads⟩, ha, hb⟩ := h
  constructor
  · rintro ⟨hfits, hfits'⟩
    obtain ⟨first, hmeasure, hencode, hframed⟩ := extension_framed hw ha hfits f.firstMagic
    obtain ⟨second, hmeasure', hencode', hframed'⟩ := extension_framed hw hb hfits' f.secondMagic
    refine ⟨legacyBytes ++ (first ++ second), ⟨?_, ?_⟩, ?_, first ++ second, hreads _⟩
    · simp only [codec, hwrites.measure, hmeasure, hmeasure', bind, Except.bind, pure,
        Except.pure, List.length_append, Nat.add_assoc]
    · intro buf hbuf
      simp only [List.length_append] at hbuf
      have h1 := hwrites.encode buf (by omega)
      have h2 := hencode (buf.drop legacyBytes.length) (by rw [List.length_drop]; omega)
      have h3 := hencode' ((buf.drop legacyBytes.length).drop first.length)
        (by simp only [List.length_drop]; omega)
      simp only [codec, bind, Except.bind, pure, Except.pure, h1, h2, h3]
      simp only [List.drop_drop, List.length_append, List.append_assoc, Nat.add_assoc]
    · simp only [codec, bind, Except.bind, pure, Except.pure, hreads _,
        hframed.decode_first hw hframed' hne, hframed'.decode_last hw]
  · intro hlarge buf out hout
    simp only [codec, bind, Except.bind, pure, Except.pure] at hout
    split at hout
    · cases hout
    by_cases hfits : PayloadFits f.first purpose (split m).2.1
    · have hfits' : ¬ PayloadFits f.second purpose (split m).2.2 := fun h => hlarge ⟨hfits, h⟩
      split at hout
      · cases hout
      · rw [extensionEncode_tooLarge hfits'] at hout
        cases hout
    · rw [extensionEncode_tooLarge hfits] at hout
      cases hout

/-- The decoder looks for the second envelope at one place. -/
theorem SecondAt.eq_rest (hne : f.secondMagic ≠ f.firstMagic) {tail start : List U8}
    (h : f.SecondAt w tail start) (henv : Envelope w start f.secondMagic version payload rest) :
    (extensionDecode w f.first tail f.firstMagic).2 = start := by
  rcases h with rfl | ⟨version', payload', hfirst⟩
  · rw [extensionDecode_of_ne henv hne]
  · rw [hfirst.decode]

theorem secondAt_rest (hwidth : w.u32RawBytes = 4) {tail : List U8}
    (henv : Envelope w (extensionDecode w f.first tail f.firstMagic).2 magic version payload rest) :
    f.SecondAt w tail (extensionDecode w f.first tail f.firstMagic).2 := by
  rcases extensionDecode_cases w f.first tail f.firstMagic with
    ⟨version', payload', rest', hfirst, hdecode⟩ | ⟨hdecode | hdecode, -⟩
  · rw [hdecode]
    exact .inr ⟨version', payload', hfirst⟩
  · rw [hdecode]
    exact .inl rfl
  · -- nothing is left, so there is no second envelope
    have hlong := henv.long
    rw [hdecode, hwidth] at hlong
    exact absurd hlong (Nat.not_succ_le_zero 3)

/-- Whatever follows the legacy structure, the message is decoded, with the optional parts that are
there. -/
theorem codec_decode (f : Format Purpose L A B) (split : M → Parts L A B)
    (build : L → Option A → Option B → M) (hwidth : w.u32RawBytes = 4) (hne : f.secondMagic ≠ f.firstMagic)
    {bytes : List U8} (hl : f.legacy.Reads bytes l) (tail : List U8) :
    ∃ a b rest, f.Behind w tail a b ∧
      (f.codec w split build).rawDecode (bytes ++ tail) = .ok (build l a b, rest) := by
  refine ⟨(extensionDecode w f.first tail f.firstMagic).1,
    (extensionDecode w f.second (extensionDecode w f.first tail f.firstMagic).2 f.secondMagic).1,
    (extensionDecode w f.second (extensionDecode w f.first tail f.firstMagic).2 f.secondMagic).2,
    ⟨fun x => extensionDecode_eq_some, fun y => ?_⟩, ?_⟩
  · rw [extensionDecode_eq_some]
    constructor
    · rintro ⟨payload, rest, henv, hvalue⟩
      exact ⟨_, payload, rest, secondAt_rest hwidth henv, henv, hvalue⟩
    · rintro ⟨start, payload, rest, hstart, henv, hvalue⟩
      rw [hstart.eq_rest hne henv]
      exact ⟨payload, rest, henv, hvalue⟩
  · simp only [codec, bind, Except.bind, pure, Except.pure, hl tail]

end Format

end BuckyP2p.Sn
