import BuckyP2p.Rendezvous.Ownership

/-!
# BuckyP2p.Rendezvous.EndpointOrder — equality, hashing and order of endpoints

Three parts of `endpoint.rs` look at different fields of an `Endpoint`: `eq` at the protocol and the
whole address, the derived `Hash` also at the area, and `cmp` at the protocol, the IP address and
the port, which leaves out flow and scope of an IPv6 address.

`validate_rendezvous_endpoints` keeps the endpoints in a `HashSet`.  Where two keys are equal but
hash differently, it is left to the table whether a look-up of one comes upon the other: this is the
parameter `meets` of `validateRendezvousEndpointsIn`.
-/

namespace BuckyP2p

/-- What the derived `Hash` feeds. -/
def Endpoint.hashInput (e : Endpoint) : EndpointArea × Protocol × SocketAddr :=
  (e.area, e.protocol, e.addr)

/-! ### The order -/

/-- `cmp` of unsigned integers. -/
def cmpVal (x y : Nat) : Ordering := compareOfLessAndEq x y

instance : Std.TransCmp cmpVal :=
  Std.TransOrd.compareOfLessAndEq_of_antisymm_of_trans_of_total_of_not_le
    Nat.le_antisymm Nat.le_trans Nat.le_total Nat.not_le

instance : Std.LawfulEqCmp cmpVal where
  eq_of_compare := (compareOfLessAndEq_eq_eq Nat.le_refl Nat.not_le).mp

/-- The variant and its fields, which the derived order compares one after the other. -/
def Protocol.rank : Protocol → List Nat
  | .ext value => [0, value.val]
  | .tcp => [1]
  | .quic => [2]

def Protocol.cmp (x y : Protocol) : Ordering := List.compareLex cmpVal x.rank y.rank

/-- IPv4 before IPv6, then the octets or the segments. -/
def IpAddr.rank : IpAddr → List Nat
  | .v4 ip => [0, ip.a.val, ip.b.val, ip.c.val, ip.d.val]
  | .v6 segments => 1 :: segments.toList.map Fin.val

def IpAddr.cmp (x y : IpAddr) : Ordering := List.compareLex cmpVal x.rank y.rank

/-- `partial_cmp`, which always returns `Some`, and `cmp`. -/
def Endpoint.cmp (x y : Endpoint) : Ordering :=
  match x.protocol.cmp y.protocol with
  | .eq =>
    match x.addr.ip.cmp y.addr.ip with
    | .gt => .gt
    | .lt => .lt
    | .eq => cmpVal x.addr.port.val y.addr.port.val
  | .gt => .gt
  | .lt => .lt

/-! ### The set of the validation -/

/-- The loop of `validate_rendezvous_endpoints`; `meets x y`: a look-up of `x` comes upon `y`. -/
def validateRendezvousEndpointsIn.loop (meets : Endpoint → Endpoint → Bool)
    (transport : Option Protocol) (operation : SnTunnelRendezvousOperation) :
    List Endpoint → List Endpoint → P2pResult Unit
  | [], _ => .ok ()
  | e :: rest, unique =>
    let eligibleArea :=
      if operation.reverseConnects then rendezvousReverseConnectEligibleArea e
      else rendezvousEligibleArea e
    if some e.protocol ≠ transport ∨ (e.protocol ≠ .quic ∧ e.protocol ≠ .tcp) ∨ !eligibleArea ∨
        e.addr.port = 0 ∨ unique.any fun x => meets e x && e.eq x then
      .error ⟨.invalidParam, "invalid or duplicate rendezvous endpoint"⟩
    else loop meets transport operation rest (e :: unique)

def validateRendezvousEndpointsIn (meets : Endpoint → Endpoint → Bool) (endpoints : List Endpoint)
    (operation : SnTunnelRendezvousOperation) : P2pResult Unit :=
  if maxSnTunnelRendezvousEndpoints < endpoints.length then
    .error ⟨.outOfLimit, "rendezvous endpoint count exceeds 8"⟩
  else if operation.requiresEndpoints ≠ !endpoints.isEmpty then
    .error ⟨.invalidParam, "rendezvous operation/endpoint mismatch"⟩
  else
    let transport := endpoints.head?.map Endpoint.protocol
    if operation.punches ∧ transport ≠ some .quic then
      .error ⟨.invalidParam, "rendezvous punch operation requires QUIC endpoints"⟩
    else validateRendezvousEndpointsIn.loop meets transport operation endpoints []

def SnTunnelRendezvous.validateIn (meets : Endpoint → Endpoint → Bool) (r : SnTunnelRendezvous) :
    P2pResult Unit :=
  if r.seq = 0 then .error ⟨.invalidParam, "rendezvous sequence must not be zero"⟩
  else validateRendezvousEndpointsIn meets r.endPointArray r.operation

def SnTunnelRendezvousNotify.validateIn (meets : Endpoint → Endpoint → Bool)
    (notify : SnTunnelRendezvousNotify) : P2pResult Unit :=
  if notify.seq = 0 then .error ⟨.invalidParam, "rendezvous notify sequence must not be zero"⟩
  else validateRendezvousEndpointsIn meets notify.endPointArray notify.operation

def SnTunnelRendezvousResp.validateIn (meets : Endpoint → Endpoint → Bool)
    (r : SnTunnelRendezvousResp) (expectedSeq : Sequence) (needPredictEndpoint : Bool) :
    P2pResult Unit :=
  if r.seq ≠ expectedSeq then .error ⟨.unmatch, "rendezvous response sequence mismatch"⟩
  else if r.result ≠ resultOk ∧ r.result ≠ resultFailed then
    .error ⟨.invalidData, "invalid rendezvous result"⟩
  else if !r.isSuccess then
    if !r.predictedEndpointArray.isEmpty then
      .error ⟨.invalidData, "failed rendezvous response contains endpoints"⟩
    else .ok ()
  else if needPredictEndpoint ≠ !r.predictedEndpointArray.isEmpty then
    .error ⟨.invalidData, "rendezvous prediction response does not match request"⟩
  else if needPredictEndpoint then
    validateRendezvousEndpointsIn meets r.predictedEndpointArray .punchOnly
  else .ok ()

/-- A table in which a look-up comes upon the keys of the same hash only. -/
def meetsSameHash (x y : Endpoint) : Bool := x.hashInput = y.hashInput

section SameHash

theorem validateRendezvousEndpoints_eq_in (endpoints : List Endpoint)
    (operation : SnTunnelRendezvousOperation) :
    validateRendezvousEndpoints endpoints operation =
      validateRendezvousEndpointsIn meetsSameHash endpoints operation := by
  have hloop : ∀ (transport : Option Protocol) (rest unique : List Endpoint),
      validateRendezvousEndpoints.loop transport operation rest unique =
        validateRendezvousEndpointsIn.loop meetsSameHash transport operation rest unique := by
    intro transport rest
    induction rest with
    | nil => exact fun _ => rfl
    | cons e rest ih =>
      intro unique
      have hfound : e ∈ unique ↔ unique.any (fun x => meetsSameHash e x && e.eq x) = true := by
        rw [List.any_eq_true]
        constructor
        · exact fun hmem => ⟨e, hmem, by simp [meetsSameHash, Endpoint.eq]⟩
        · rintro ⟨x, hmem, hx⟩
          have hsame : e.hashInput = x.hashInput :=
            of_decide_eq_true (Bool.and_eq_true_iff.mp hx).1
          cases e
          cases x
          cases hsame
          exact hmem
      rw [validateRendezvousEndpoints.loop, validateRendezvousEndpointsIn.loop, ih]
      simp only [hfound]
  unfold validateRendezvousEndpoints validateRendezvousEndpointsIn
  simp only [hloop]

end SameHash

/-! ### What each of the three looks at -/

namespace Endpoint

theorem eq_iff (a b : Endpoint) : a.eq b = true ↔ a.protocol = b.protocol ∧ a.addr = b.addr := by
  simp [Endpoint.eq]

/-- The ranks of the fields that `cmp` looks at. -/
def key (e : Endpoint) : List (List Nat) := [e.protocol.rank, e.addr.ip.rank, [e.addr.port.val]]

theorem cmp_eq_key (a b : Endpoint) :
    a.cmp b = List.compareLex (List.compareLex cmpVal) a.key b.key := by
  unfold Endpoint.cmp key Protocol.cmp IpAddr.cmp
  simp only [List.compareLex_cons_cons, List.compareLex_nil_nil]
  cases List.compareLex cmpVal a.protocol.rank b.protocol.rank with
  | lt | gt => rfl
  | eq =>
    cases List.compareLex cmpVal a.addr.ip.rank b.addr.ip.rank with
    | lt | gt => rfl
    | eq => cases cmpVal a.addr.port.val b.addr.port.val <;> rfl

end Endpoint

theorem Protocol.rank_inj {x y : Protocol} (h : x.rank = y.rank) : x = y := by
  cases x <;> cases y <;> simp_all [Protocol.rank, Fin.ext_iff]

theorem IpAddr.rank_inj {x y : IpAddr} (h : x.rank = y.rank) : x = y := by
  cases x with
  | v4 ip =>
    cases y with
    | v4 ip' =>
      simp only [IpAddr.rank, List.cons.injEq, and_true, true_and, ← Fin.ext_iff] at h
      obtain ⟨ha, hb, hc, hd⟩ := h
      cases ip
      cases ip'
      simp_all
    | v6 segments => simp [IpAddr.rank] at h
  | v6 segments =>
    cases y with
    | v4 ip' => simp [IpAddr.rank] at h
    | v6 segments' =>
      simp only [IpAddr.rank, List.cons.injEq, true_and] at h
      rw [Vector.toList_inj.mp (List.map_injective_iff.mpr Fin.val_injective h)]

namespace Endpoint

theorem cmp_eq_iff (a b : Endpoint) : a.cmp b = .eq ↔
    a.protocol = b.protocol ∧ a.addr.ip = b.addr.ip ∧ a.addr.port = b.addr.port := by
  rw [cmp_eq_key, Std.LawfulEqCmp.compare_eq_iff_eq]
  simp only [key, List.cons.injEq, and_true]
  constructor
  · rintro ⟨hprotocol, hip, hport⟩
    exact ⟨Protocol.rank_inj hprotocol, IpAddr.rank_inj hip, Fin.ext hport⟩
  · rintro ⟨hprotocol, hip, hport⟩
    exact ⟨by rw [hprotocol], by rw [hip], by rw [hport]⟩

theorem cmp_swap (a b : Endpoint) : b.cmp a = (a.cmp b).swap := by
  rw [cmp_eq_key, cmp_eq_key]
  exact Std.OrientedCmp.eq_swap

theorem cmp_trans {a b c : Endpoint} (hab : a.cmp b ≠ .gt) (hbc : b.cmp c ≠ .gt) : a.cmp c ≠ .gt := by
  rw [cmp_eq_key] at hab hbc ⊢
  exact Ordering.ne_gt_iff_isLE.mpr (Std.TransCmp.isLE_trans (Ordering.ne_gt_iff_isLE.mp hab)
    (Ordering.ne_gt_iff_isLE.mp hbc))

/-- Endpoints that are `==` and do not hash alike. -/
def DifferInArea (a b : Endpoint) : Prop :=
  a.protocol = b.protocol ∧ a.addr = b.addr ∧ a.area ≠ b.area

/-- IPv6 endpoints that `cmp` does not tell apart and are not `==`. -/
def DifferInFlow (a b : Endpoint) : Prop :=
  a.protocol = b.protocol ∧ a.addr.ip = b.addr.ip ∧ a.addr.port = b.addr.port ∧ a.addr ≠ b.addr

instance : DecidableRel DifferInArea := fun _ _ => inferInstanceAs (Decidable (_ ∧ _ ∧ _))

instance : DecidableRel DifferInFlow := fun _ _ => inferInstanceAs (Decidable (_ ∧ _ ∧ _ ∧ _))

/-- Equality, hash and order agree about two endpoints. -/
structure Agree (a b : Endpoint) : Prop where
  hash : a.eq b = true → a.hashInput = b.hashInput
  cmp_of_eq : a.eq b = true → a.cmp b = .eq
  eq_of_cmp : a.cmp b = .eq → a.eq b = true

theorem agree_iff (a b : Endpoint) : Agree a b ↔ ¬ DifferInArea a b ∧ ¬ DifferInFlow a b := by
  constructor
  · refine fun h => ⟨fun ⟨hprotocol, haddr, harea⟩ => ?_, fun ⟨hprotocol, hip, hport, hne⟩ => ?_⟩
    · have hhash := h.hash ((eq_iff a b).mpr ⟨hprotocol, haddr⟩)
      exact harea (congrArg Prod.fst hhash)
    · have heq := h.eq_of_cmp ((cmp_eq_iff a b).mpr ⟨hprotocol, hip, hport⟩)
      exact hne ((eq_iff a b).mp heq).2
  · rintro ⟨harea, hflow⟩
    refine ⟨fun heq => ?_, fun heq => ?_, fun hcmp => ?_⟩
    · obtain ⟨hprotocol, haddr⟩ := (eq_iff a b).mp heq
      have hsame : a.area = b.area := by_contra fun hne => harea ⟨hprotocol, haddr, hne⟩
      rw [hashInput, hashInput, hsame, hprotocol, haddr]
    · obtain ⟨hprotocol, haddr⟩ := (eq_iff a b).mp heq
      exact (cmp_eq_iff a b).mpr ⟨hprotocol, by rw [haddr], by rw [haddr]⟩
    · obtain ⟨hprotocol, hip, hport⟩ := (cmp_eq_iff a b).mp hcmp
      have haddr : a.addr = b.addr := by_contra fun hne => hflow ⟨hprotocol, hip, hport, hne⟩
      exact (eq_iff a b).mpr ⟨hprotocol, haddr⟩

end Endpoint

/-! ### The endpoints that are accepted -/

/-- What `validate_rendezvous_endpoints` asks of the endpoints, but for the set. -/
structure RendezvousEligible (operation : SnTunnelRendezvousOperation) (endpoints : List Endpoint) :
    Prop where
  few : endpoints.length ≤ maxSnTunnelRendezvousEndpoints
  needed : operation.requiresEndpoints = !endpoints.isEmpty
  quic : operation.punches = true → endpoints.head?.map Endpoint.protocol = some .quic
  each : ∀ e ∈ endpoints, some e.protocol = endpoints.head?.map Endpoint.protocol ∧
    (e.protocol = .quic ∨ e.protocol = .tcp) ∧ e.addr.port ≠ 0 ∧
    (if operation.reverseConnects then rendezvousReverseConnectEligibleArea e
      else rendezvousEligibleArea e) = true

section Accepted

variable {meets : Endpoint → Endpoint → Bool} {operation : SnTunnelRendezvousOperation}
  {endpoints : List Endpoint}

/-- The set takes `y` for a repetition of `x`, which came before. -/
def Refused (meets : Endpoint → Endpoint → Bool) (x y : Endpoint) : Prop :=
  meets y x = true ∧ y.eq x = true

theorem loop_eq_ok {transport : Option Protocol} {rest unique : List Endpoint} :
    validateRendezvousEndpointsIn.loop meets transport operation rest unique = .ok () ↔
      (∀ e ∈ rest, some e.protocol = transport ∧ (e.protocol = .quic ∨ e.protocol = .tcp) ∧
        e.addr.port ≠ 0 ∧ (if operation.reverseConnects then rendezvousReverseConnectEligibleArea e
          else rendezvousEligibleArea e) = true) ∧
      (∀ x ∈ unique, ∀ y ∈ rest, ¬ Refused meets x y) ∧
      rest.Pairwise fun x y => ¬ Refused meets x y := by
  induction rest generalizing unique with
  | nil => simp [validateRendezvousEndpointsIn.loop]
  | cons e rest ih =>
    rw [validateRendezvousEndpointsIn.loop]
    generalize harea : (if operation.reverseConnects then rendezvousReverseConnectEligibleArea e
      else rendezvousEligibleArea e) = area
    by_cases hbad : some e.protocol ≠ transport ∨ (e.protocol ≠ .quic ∧ e.protocol ≠ .tcp) ∨
        (!area) = true ∨ e.addr.port = 0 ∨ (unique.any fun x => meets e x && e.eq x) = true
    · rw [if_pos hbad]
      refine iff_of_false (by simp) fun ⟨heach, hset, _⟩ => ?_
      obtain ⟨htransport, hkind, hport, hok⟩ := heach e (.head _)
      rw [harea] at hok
      rcases hbad with h | h | h | h | h
      · exact h htransport
      · exact hkind.elim h.1 h.2
      · simp [hok] at h
      · exact hport h
      · obtain ⟨x, hx, hfound⟩ := List.any_eq_true.mp h
        exact hset x hx e (.head _) (Bool.and_eq_true_iff.mp hfound)
    · rw [if_neg hbad, ih]
      simp only [not_or, not_and_or, not_not, Bool.not_eq_true', Bool.not_eq_false] at hbad
      obtain ⟨htransport, hkind, hok, hport, hnew⟩ := hbad
      have hset : ∀ x ∈ unique, ¬ Refused meets x e := fun x hx hrefused =>
        hnew (List.any_eq_true.mpr ⟨x, hx, Bool.and_eq_true_iff.mpr hrefused⟩)
      simp only [List.forall_mem_cons, List.pairwise_cons, harea]
      constructor
      · rintro ⟨heach, ⟨hlast, hold⟩, hrest⟩
        exact ⟨⟨⟨htransport, hkind, hport, hok⟩, heach⟩, fun x hx => ⟨hset x hx, hold x hx⟩, hlast,
          hrest⟩
      · rintro ⟨⟨-, heach⟩, hold, hlast, hrest⟩
        exact ⟨heach, ⟨hlast, fun x hx => (hold x hx).2⟩, hrest⟩

theorem validateRendezvousEndpointsIn_eq_ok :
    validateRendezvousEndpointsIn meets endpoints operation = .ok () ↔
      RendezvousEligible operation endpoints ∧ endpoints.Pairwise fun x y => ¬ Refused meets x y := by
  unfold validateRendezvousEndpointsIn
  by_cases hmany : maxSnTunnelRendezvousEndpoints < endpoints.length
  · rw [if_pos hmany]
    exact iff_of_false (by simp) fun h => absurd h.1.few (by omega)
  rw [if_neg hmany]
  by_cases hneeded : operation.requiresEndpoints = !endpoints.isEmpty
  swap
  · rw [if_pos hneeded]
    exact iff_of_false (by simp) fun h => hneeded h.1.needed
  rw [if_neg (not_not.mpr hneeded)]
  dsimp only
  by_cases hquic : operation.punches = true ∧ endpoints.head?.map Endpoint.protocol ≠ some .quic
  · rw [if_pos hquic]
    exact iff_of_false (by simp) fun h => hquic.2 (h.1.quic hquic.1)
  rw [if_neg hquic, loop_eq_ok]
  constructor
  · rintro ⟨heach, -, hset⟩
    refine ⟨⟨by omega, hneeded, fun hpunches => ?_, heach⟩, hset⟩
    by_contra hne
    exact hquic ⟨hpunches, hne⟩
  · rintro ⟨h, hset⟩
    exact ⟨h.each, by simp, hset⟩

/-- No two of the endpoints are `==`. -/
def NoRepetition (endpoints : List Endpoint) : Prop := endpoints.Pairwise fun x y => x.eq y = false

/-- Two of the endpoints differ in their areas only. -/
def AreaTwins (endpoints : List Endpoint) : Prop :=
  ∃ x y, [x, y].Sublist endpoints ∧ Endpoint.DifferInArea x y

/-- The endpoints have twins and nothing else that is refused. -/
def SlipsThrough (meets : Endpoint → Endpoint → Bool) (operation : SnTunnelRendezvousOperation)
    (endpoints : List Endpoint) : Prop :=
  RendezvousEligible operation endpoints ∧ (endpoints.Pairwise fun x y => ¬ Refused meets x y) ∧
    AreaTwins endpoints

/-- Endpoints that are `==` and pass the set differ in their areas. -/
theorem eq_iff_of_not_refused (hmeets : ∀ x y, Endpoint.hashInput x = Endpoint.hashInput y →
    meets x y = true) {x y : Endpoint} (h : ¬ Refused meets x y) :
    x.eq y = true ↔ Endpoint.DifferInArea x y := by
  rw [Endpoint.eq_iff]
  constructor
  · rintro ⟨hprotocol, haddr⟩
    refine ⟨hprotocol, haddr, fun harea => h ⟨hmeets y x ?_, ?_⟩⟩
    · rw [Endpoint.hashInput, Endpoint.hashInput, harea, hprotocol, haddr]
    · exact (Endpoint.eq_iff y x).mpr ⟨hprotocol.symm, haddr.symm⟩
  · exact fun ⟨hprotocol, haddr, _⟩ => ⟨hprotocol, haddr⟩

theorem distinct_iff_of_not_refused (hmeets : ∀ x y, Endpoint.hashInput x = Endpoint.hashInput y →
    meets x y = true) (h : endpoints.Pairwise fun x y => ¬ Refused meets x y) :
    NoRepetition endpoints ↔ ¬ AreaTwins endpoints := by
  rw [NoRepetition, List.pairwise_iff_forall_sublist]
  rw [List.pairwise_iff_forall_sublist] at h
  constructor
  · rintro hdistinct ⟨x, y, hsub, htwins⟩
    have heq := (eq_iff_of_not_refused hmeets (h hsub)).mpr htwins
    rw [hdistinct hsub] at heq
    cases heq
  · intro htwins x y hsub
    rw [← Bool.not_eq_true]
    exact fun heq => htwins ⟨x, y, hsub, (eq_iff_of_not_refused hmeets (h hsub)).mp heq⟩

theorem accepted_distinct_iff (hmeets : ∀ x y, Endpoint.hashInput x = Endpoint.hashInput y →
    meets x y = true) :
    (validateRendezvousEndpointsIn meets endpoints operation = .ok () → NoRepetition endpoints) ↔
      ¬ SlipsThrough meets operation endpoints := by
  rw [validateRendezvousEndpointsIn_eq_ok]
  constructor
  · rintro h ⟨heligible, hset, htwins⟩
    exact (distinct_iff_of_not_refused hmeets hset).mp (h ⟨heligible, hset⟩) htwins
  · rintro h ⟨heligible, hset⟩
    exact (distinct_iff_of_not_refused hmeets hset).mpr fun htwins => h ⟨heligible, hset, htwins⟩

/-- An operation that does not reverse-connect takes server-reflexive endpoints only. -/
theorem not_slipsThrough (h : operation.reverseConnects = false) :
    ¬ SlipsThrough meets operation endpoints := by
  rintro ⟨heligible, -, x, y, hsub, -, -, harea⟩
  have hreflexive : ∀ e ∈ endpoints, e.area = .serverReflexive := fun e he => by
    have hok := (heligible.each e he).2.2.2
    rw [h, if_neg Bool.false_ne_true, rendezvousEligibleArea, Bool.and_eq_true_iff] at hok
    exact of_decide_eq_true hok.2
  exact harea ((hreflexive x (hsub.subset (by simp))).trans
    (hreflexive y (hsub.subset (by simp))).symm)

end Accepted

/-- Equality, hash and order agree about two endpoints exactly if these do not differ in their
areas alone, nor in flow and scope alone; `cmp` is a total preorder; and a request or a notify is
accepted with two endpoints that are `==` exactly if it slips through, a response never. -/
theorem eq_hash_cmp_agree_iff {meets : Endpoint → Endpoint → Bool}
    (hmeets : ∀ x y, Endpoint.hashInput x = Endpoint.hashInput y → meets x y = true)
    (a b c : Endpoint) (r : SnTunnelRendezvous) (notify : SnTunnelRendezvousNotify)
    (resp : SnTunnelRendezvousResp) (expectedSeq : Sequence) (needPredictEndpoint : Bool) :
    (Endpoint.Agree a b ↔ ¬ Endpoint.DifferInArea a b ∧ ¬ Endpoint.DifferInFlow a b) ∧
    (a.cmp a = .eq ∧ b.cmp a = (a.cmp b).swap ∧
      (a.cmp b ≠ .gt → b.cmp c ≠ .gt → a.cmp c ≠ .gt)) ∧
    ((r.validateIn meets = .ok () → NoRepetition r.endPointArray) ↔
      ¬ (r.seq ≠ 0 ∧ SlipsThrough meets r.operation r.endPointArray)) ∧
    ((notify.validateIn meets = .ok () → NoRepetition notify.endPointArray) ↔
      ¬ (notify.seq ≠ 0 ∧ SlipsThrough meets notify.operation notify.endPointArray)) ∧
    (resp.validateIn meets expectedSeq needPredictEndpoint = .ok () →
      NoRepetition resp.predictedEndpointArray) := by
  refine ⟨Endpoint.agree_iff a b, ⟨(Endpoint.cmp_eq_iff a a).mpr ⟨rfl, rfl, rfl⟩,
    Endpoint.cmp_swap a b, Endpoint.cmp_trans⟩, ?_, ?_, fun hok => ?_⟩
  · unfold SnTunnelRendezvous.validateIn
    by_cases hseq : r.seq = 0
    · simp [hseq]
    · rw [if_neg hseq, accepted_distinct_iff hmeets]
      simp [hseq]
  · unfold SnTunnelRendezvousNotify.validateIn
    by_cases hseq : notify.seq = 0
    · simp [hseq]
    · rw [if_neg hseq, accepted_distinct_iff hmeets]
      simp [hseq]
  · unfold SnTunnelRendezvousResp.validateIn at hok
    split_ifs at hok with _ _ _ hnone hmatch hpredict
    · rw [Bool.not_eq_true, Bool.not_eq_false', List.isEmpty_iff] at hnone
      rw [hnone]
      exact .nil
    · exact (accepted_distinct_iff hmeets).mpr (not_slipsThrough rfl) hok
    · rw [not_not] at hmatch
      have hempty : resp.predictedEndpointArray = [] := by simpa [hpredict] using hmatch
      rw [hempty]
      exact .nil

/-- Two ports of one address. -/
theorem eq_hash_cmp_agree_iff_two_ports :
    let first : Endpoint := ⟨.serverReflexive, .quic, .v4 ⟨8, 8, 8, 8⟩ 80⟩
    let second : Endpoint := ⟨.serverReflexive, .quic, .v4 ⟨8, 8, 8, 8⟩ 81⟩
    Endpoint.Agree first second ∧ NoRepetition [first, second] := by
  intro first second
  have h := eq_hash_cmp_agree_iff (fun x y hsame => decide_eq_true hsame :
      ∀ x y, x.hashInput = y.hashInput → meetsSameHash x y = true) first second first
    ⟨1, 1, [2], .reverseConnectOnly, [], false⟩ ⟨1, 1, [], .reverseConnectOnly, [], false⟩
    ⟨1, SnTunnelRendezvousResp.resultOk, [first, second]⟩ 1 true
  exact ⟨h.1.mpr (by decide), h.2.2.2.2 (by decide)⟩

/-- Two endpoints that are `==` with different hashes are accepted, and two that are not `==` are
the same for `cmp`. -/
theorem twins_are_accepted :
    (let wan : Endpoint := ⟨.wan, .tcp, .v4 ⟨8, 8, 8, 8⟩ 80⟩
     let mapped : Endpoint := ⟨.mapped, .tcp, .v4 ⟨8, 8, 8, 8⟩ 80⟩
     wan.eq mapped = true ∧ wan.hashInput ≠ mapped.hashInput ∧
       SnTunnelRendezvous.validate ⟨1, 1, [2], .reverseConnectOnly, [wan, mapped], false⟩ = .ok ()) ∧
    (let first : Endpoint := ⟨.wan, .quic, .v6 (Vector.replicate 8 0) 80 0 1⟩
     let second : Endpoint := ⟨.wan, .quic, .v6 (Vector.replicate 8 0) 80 0 2⟩
     first.cmp second = .eq ∧ first.eq second = false) := by
  decide

end BuckyP2p
