import BuckyP2p.Tls.Connections

/-!
# BuckyP2p.Tls.ServerNames — names in the SNI (`networks/mod.rs`, `quic/listener.rs`)

`validate_server_name` puts a name that rustls does not accept between `p2p.` and `.com`, and
`parse_server_name` is to take it out again.  It takes off every repetition of the two, and also
where they were not put.

`isServerName` is what rustls accepts: the texts of addresses, and names whose labels are well
formed.  The wrapping adds two labels and takes none away, so that no name becomes acceptable by it.
-/

namespace BuckyP2p.Tls

/-! ## What rustls accepts -/

def isLabelChar (c : Char) : Bool := c.isAlphanum || c = '-' || c = '_'

def isLabel (label : Name) : Bool :=
  decide (1 ≤ label.length ∧ label.length ≤ 63) && label.all isLabelChar &&
    label.head? ≠ some '-' && label.getLast? ≠ some '-'

def isDnsName (name : Name) : Bool :=
  decide (name.length ≤ 253) && (name.splitOn '.').all isLabel

/-- `ServerName::try_from`; `isIpAddress` says what the standard library reads as an address. -/
def serverNameTryFrom (isIpAddress : Name → Bool) (name : Name) : Bool :=
  isIpAddress name || isDnsName name

/-- The characters of an address. -/
def isIpChar (c : Char) : Bool :=
  c.isDigit || c = '.' || c = ':' || ('a' ≤ c && c ≤ 'f') || ('A' ≤ c && c ≤ 'F')

/-! ## The copy of `quic/listener.rs` -/

namespace QuicListener

def validateServerName (isServerName : Name → Bool) (serverName : Name) : Name :=
  if isServerName serverName then serverName else namePrefix ++ serverName ++ nameSuffix

def parseServerName (serverName : Name) : Name :=
  if namePrefix <+: serverName ∧ nameSuffix <:+ serverName then
    trimEndMatches nameSuffix (trimStartMatches namePrefix serverName)
  else serverName

end QuicListener

theorem validateServerName_copies (isServerName : Name → Bool) (serverName : Name) :
    QuicListener.validateServerName isServerName serverName =
      validateServerName isServerName serverName := rfl

theorem parseServerName_copies (serverName : Name) :
    QuicListener.parseServerName serverName = parseServerName serverName := rfl

/-! ## Trimming -/

section Trim

variable {pattern name : Name}

theorem trimStartMatches_of_not (h : ¬ pattern <+: name) : trimStartMatches pattern name = name := by
  rw [trimStartMatches, if_neg fun hboth => h hboth.2]

theorem trimStartMatches_append (hpattern : pattern ≠ []) (name : Name) :
    trimStartMatches pattern (pattern ++ name) = trimStartMatches pattern name := by
  rw [trimStartMatches, if_pos ⟨hpattern, List.prefix_append pattern name⟩, List.drop_left]

theorem trimStartMatches_length_le (pattern name : Name) :
    (trimStartMatches pattern name).length ≤ name.length := by
  induction name using trimStartMatches.induct pattern with
  | case1 name hboth ih =>
    rw [trimStartMatches, if_pos hboth]
    rw [List.length_drop] at ih
    omega
  | case2 name hnot => rw [trimStartMatches, if_neg hnot]

theorem trimEndMatches_of_not (h : ¬ pattern <:+ name) : trimEndMatches pattern name = name := by
  rw [trimEndMatches, trimStartMatches_of_not (mt List.reverse_prefix.mp h), List.reverse_reverse]

theorem trimEndMatches_append (hpattern : pattern ≠ []) (name : Name) :
    trimEndMatches pattern (name ++ pattern) = trimEndMatches pattern name := by
  rw [trimEndMatches, List.reverse_append,
    trimStartMatches_append (mt List.reverse_eq_nil_iff.mp hpattern), trimEndMatches]

theorem trimEndMatches_length_le (pattern name : Name) :
    (trimEndMatches pattern name).length ≤ name.length := by
  rw [trimEndMatches, List.length_reverse, ← name.length_reverse]
  exact trimStartMatches_length_le _ _

/-- Where something is taken off, the name gets shorter. -/
theorem trimStartMatches_length_lt (hpattern : pattern ≠ []) (h : pattern <+: name) :
    (trimStartMatches pattern name).length < name.length := by
  obtain ⟨rest, rfl⟩ := h
  rw [trimStartMatches_append hpattern, List.length_append]
  have hle := trimStartMatches_length_le pattern rest
  have hpos := List.length_pos_iff.mpr hpattern
  omega

theorem trimEndMatches_length_lt (hpattern : pattern ≠ []) (h : pattern <:+ name) :
    (trimEndMatches pattern name).length < name.length := by
  obtain ⟨rest, rfl⟩ := h
  rw [trimEndMatches_append hpattern, List.length_append]
  have hle := trimEndMatches_length_le pattern rest
  have hpos := List.length_pos_iff.mpr hpattern
  omega

/-- Nothing is taken off at either end, or the name gets shorter. -/
theorem trim_length_lt {front back : Name} (hfront : front ≠ []) (hback : back ≠ [])
    (h : front <+: name ∨ back <:+ name) :
    (trimEndMatches back (trimStartMatches front name)).length < name.length := by
  by_cases hstart : front <+: name
  · exact (trimEndMatches_length_le _ _).trans_lt (trimStartMatches_length_lt hfront hstart)
  · rw [trimStartMatches_of_not hstart]
    exact trimEndMatches_length_lt hback (h.resolve_left hstart)

end Trim

/-! ## Wrapping and unwrapping -/

/-- The name is neither taken for a wrapped one nor shortened with the wrapping. -/
def Survives (isServerName : Name → Bool) (name : Name) : Prop :=
  if isServerName name then ¬ (namePrefix <+: name ∧ nameSuffix <:+ name)
  else ¬ namePrefix <+: name ∧ name ≠ ['p', '2', 'p'] ∧ ¬ nameSuffix <:+ name

/-- The last dot of `p2p.` may be that of the suffix. -/
theorem prefix_append_suffix_iff (name : Name) :
    namePrefix <+: name ++ nameSuffix ↔ namePrefix <+: name ∨ name = ['p', '2', 'p'] := by
  constructor
  · intro h
    match name, h with
    | [], h => simp [namePrefix, nameSuffix] at h
    | [a], h => simp [namePrefix, nameSuffix] at h
    | [a, b], h => simp [namePrefix, nameSuffix] at h
    | [a, b, c], h => simpa [namePrefix, nameSuffix, eq_comm] using h
    | a :: b :: c :: d :: rest, h => simpa [namePrefix, nameSuffix] using h
  · rintro (h | rfl)
    · exact h.trans (List.prefix_append _ _)
    · exact ⟨['c', 'o', 'm'], rfl⟩

theorem parseServerName_eq_self_iff (name : Name) :
    parseServerName name = name ↔ ¬ (namePrefix <+: name ∧ nameSuffix <:+ name) := by
  unfold parseServerName
  split_ifs with hboth
  · refine iff_of_false (fun heq => ?_) (not_not_intro hboth)
    have hfront : namePrefix ≠ [] := by decide
    have hback : nameSuffix ≠ [] := by decide
    have hlt := trim_length_lt hfront hback (.inl hboth.1)
    rw [heq] at hlt
    exact lt_irrefl _ hlt
  · exact iff_of_true rfl hboth

/-- A wrapped name is cleared of all that looks like the wrapping. -/
theorem parseServerName_wrapped (name : Name) :
    parseServerName (namePrefix ++ name ++ nameSuffix) =
      trimEndMatches nameSuffix (trimStartMatches namePrefix (name ++ nameSuffix)) := by
  have hfront : namePrefix <+: namePrefix ++ name ++ nameSuffix :=
    ⟨name ++ nameSuffix, (List.append_assoc ..).symm⟩
  have hback : nameSuffix <:+ namePrefix ++ name ++ nameSuffix := List.suffix_append _ _
  rw [parseServerName, if_pos ⟨hfront, hback⟩, List.append_assoc,
    trimStartMatches_append (by decide)]

theorem parseServerName_wrapped_iff (name : Name) :
    parseServerName (namePrefix ++ name ++ nameSuffix) = name ↔
      ¬ namePrefix <+: name ++ nameSuffix ∧ ¬ nameSuffix <:+ name := by
  rw [parseServerName_wrapped]
  by_cases hstart : namePrefix <+: name ++ nameSuffix
  · refine iff_of_false (fun heq => ?_) fun hnot => hnot.1 hstart
    obtain ⟨rest, hrest⟩ := hstart
    rw [← hrest, trimStartMatches_append (by decide)] at heq
    have hlength : rest.length = name.length := by
      have := congrArg List.length hrest
      simp [namePrefix, nameSuffix] at this
      omega
    -- nothing more is taken off, so what is left is `rest`
    have hkept : ¬ (namePrefix <+: rest ∨ nameSuffix <:+ rest) := by
      intro htrim
      have hlt := trim_length_lt (by decide) (by decide) htrim
      rw [heq] at hlt
      omega
    obtain ⟨hfront, hback⟩ := not_or.mp hkept
    rw [trimStartMatches_of_not hfront, trimEndMatches_of_not hback] at heq
    subst heq
    have hcount := congrArg (List.count 'p') hrest
    simp [namePrefix, nameSuffix] at hcount
    omega
  · rw [trimStartMatches_of_not hstart, trimEndMatches_append (by decide)]
    by_cases hend : nameSuffix <:+ name
    · refine iff_of_false (fun heq => ?_) fun hnot => hnot.2 hend
      have hlt := trimEndMatches_length_lt (by decide) hend
      rw [heq] at hlt
      exact lt_irrefl _ hlt
    · exact iff_of_true (trimEndMatches_of_not hend) ⟨hstart, hend⟩

/-- **Server names.**  A name is the key that is looked up exactly when it survives; both copies of the
functions are the same. -/
theorem parse_validate_iff (isServerName : Name → Bool) (name : Name) :
    (parseServerName (validateServerName isServerName name) = name ↔ Survives isServerName name) ∧
    QuicListener.validateServerName isServerName name = validateServerName isServerName name ∧
    QuicListener.parseServerName name = parseServerName name := by
  refine ⟨?_, validateServerName_copies isServerName name, parseServerName_copies name⟩
  unfold validateServerName Survives
  split_ifs with hname
  · exact parseServerName_eq_self_iff name
  · rw [parseServerName_wrapped_iff, prefix_append_suffix_iff, not_or, and_assoc]

/-- A name that looks like a wrapped one is not wrapped, and is unwrapped; a name that rustls does not
accept loses its own ending. -/
theorem wrapping_lost :
    validateServerName (serverNameTryFrom fun _ => false)
        ['p', '2', 'p', '.', 'a', '.', 'c', 'o', 'm'] = ['p', '2', 'p', '.', 'a', '.', 'c', 'o', 'm'] ∧
      parseServerName ['p', '2', 'p', '.', 'a', '.', 'c', 'o', 'm'] ≠
        ['p', '2', 'p', '.', 'a', '.', 'c', 'o', 'm'] ∧
      parseServerName (validateServerName (serverNameTryFrom fun _ => false)
        ['a', ' ', 'b', '.', 'c', 'o', 'm']) ≠ ['a', ' ', 'b', '.', 'c', 'o', 'm'] := by
  refine ⟨by decide, ?_, ?_⟩
  · rw [Ne, parseServerName_eq_self_iff]
    decide
  · rw [validateServerName, if_neg (by decide), Ne, parseServerName_wrapped_iff]
    decide

/-! ## Names of a connect -/

section Connect

variable {isIpAddress : Name → Bool} (hip : ∀ name, isIpAddress name = true → name.all isIpChar = true)

include hip in
/-- Not an address, for its first letter; and not a name, for the labels are those of the name that was
not accepted, and two more. -/
theorem serverNameTryFrom_wrapped {name : Name} (h : serverNameTryFrom isIpAddress name = false) :
    serverNameTryFrom isIpAddress (namePrefix ++ name ++ nameSuffix) = false := by
  obtain ⟨-, hdns⟩ := Bool.or_eq_false_iff.mp h
  refine Bool.or_eq_false_iff.mpr ⟨?_, ?_⟩
  · by_contra haddress
    have hchars := hip _ (Bool.eq_true_of_not_eq_false haddress)
    have hletter : isIpChar 'p' = true := List.all_eq_true.mp hchars 'p' (by simp [namePrefix])
    exact absurd hletter (by decide)
  · by_contra haccepted
    obtain ⟨hlength, hlabels⟩ :=
      Bool.and_eq_true_iff.mp (Bool.eq_true_of_not_eq_false haccepted)
    have hsplit : (namePrefix ++ name ++ nameSuffix).splitOn '.' =
        ['p', '2', 'p'] :: (name.splitOn '.' ++ [['c', 'o', 'm']]) := by
      have hshape : namePrefix ++ name ++ nameSuffix =
          ['p', '2', 'p'] ++ '.' :: (name ++ '.' :: ['c', 'o', 'm']) := by
        simp [namePrefix, nameSuffix]
      have hcom : ['c', 'o', 'm'].splitOn '.' = [['c', 'o', 'm']] :=
        List.splitOn_eq_singleton (by decide)
      rw [hshape, List.splitOn_append_cons_self_of_not_mem (by decide),
        List.splitOn_append_cons_self, hcom]
    rw [hsplit, List.all_cons, List.all_append] at hlabels
    have hshort : name.length ≤ 253 := by
      have hlong := of_decide_eq_true hlength
      rw [List.length_append, List.length_append] at hlong
      omega
    have hall := (Bool.and_eq_true_iff.mp (Bool.and_eq_true_iff.mp hlabels).2).1
    rw [isDnsName, decide_eq_true hshort, hall] at hdns
    cases hdns

include hip in
/-- What comes out of the wrapping is accepted if the name itself was. -/
theorem serverNameTryFrom_validate (name : Name) :
    serverNameTryFrom isIpAddress (validateServerName (serverNameTryFrom isIpAddress) name) =
      serverNameTryFrom isIpAddress name := by
  unfold validateServerName
  cases hname : serverNameTryFrom isIpAddress name with
  | true => rw [if_pos rfl, hname]
  | false =>
    rw [if_neg Bool.false_ne_true]
    exact serverNameTryFrom_wrapped hip hname

variable {Peer : Type*} {env : Env Peer}

include hip in
/-- **Connecting.**  With a configuration and a socket, the connect goes on past the `unwrap` of the
server name exactly when the name that it was given, or the text of the id, is itself accepted. -/
theorem connect_returns_iff (htls : env.tls.isServerName = serverNameTryFrom isIpAddress)
    {localIdentity : P2pIdentity} {remoteEp localEp : Endpoint} {remoteId : P2pId}
    {remoteName : Option Name} {dial : Dial Peer} {config : ClientConfig}
    (hconfig : env.buildClientConfig localIdentity remoteId = .ok config)
    (hsocket : dial.socket = .ok localEp) :
    (env.connectWithOptionalLocal localIdentity remoteEp remoteId remoteName dial).isSome = true ↔
      serverNameTryFrom isIpAddress (remoteName.getD (env.toBase36 remoteId)) = true := by
  unfold Env.connectWithOptionalLocal
  simp only [hconfig, hsocket, htls, serverNameTryFrom_validate hip]
  by_cases hname : serverNameTryFrom isIpAddress (remoteName.getD (env.toBase36 remoteId)) = true
  · rw [if_pos hname]
    refine iff_of_true ?_ hname
    split
    · rfl
    · split_ifs <;> rfl
  · rw [if_neg hname]
    exact iff_of_false Bool.false_ne_true hname

end Connect

/-- A node whose certificates are taken, and whose peers do not answer. -/
def lonely : Env Unit where
  tls := ⟨serverNameTryFrom fun _ => false, fun _ _ => true, fun _ _ _ => none, fun _ _ => none⟩
  certFactory _ := .error .certError
  toBase36 _ := ['0']

/-- A connect of that node. -/
def lonelyConnect (remoteName : Option Name) : Option (Except P2pErrorCode TcpTlsConnection) :=
  lonely.connectWithOptionalLocal ⟨[1], ['a'], .ok [], .ok []⟩ ⟨.wan, .tcp, .v4 ⟨192, 0, 2, 1⟩ 443⟩ [2]
    remoteName ⟨.ok ⟨.lan, .tcp, .v4 ⟨192, 0, 2, 2⟩ 50000⟩, (), true⟩

/-- A blank in the name of a certificate. -/
theorem connect_panics : lonely.tls.isServerName = serverNameTryFrom (fun _ => false) ∧
    (lonelyConnect (some ['a', ' ', 'b'])).isSome = false := by
  refine ⟨rfl, ?_⟩
  decide

theorem connect_returns_iff_lonely : (lonelyConnect (some ['s', 'n'])).isSome = true ↔
    serverNameTryFrom (fun _ => false) ['s', 'n'] = true :=
  connect_returns_iff (fun _ h => absurd h Bool.false_ne_true) rfl rfl rfl

end BuckyP2p.Tls
