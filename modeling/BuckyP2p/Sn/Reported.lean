import BuckyP2p.Lib.Dedup
import BuckyP2p.Sn.Call
import BuckyP2p.Sn.Ipv6Area

/-!
# BuckyP2p.Sn.Reported — `sanitize_reported_endpoints` (`sn/service/service.rs`)

A client reports its local endpoints, each with an area of its own.  The SN gives them areas anew,
by the address and the IP that it sees the client at, and drops what it cannot use.  Endpoints are
compared without their areas, so the first of two with one protocol and address is kept.
-/

namespace BuckyP2p.Sn

open Lib

def maxReportedLocalEndpoints : Nat := 32

/-- The guard of the first arm. -/
def isLanIpv4Addr : SocketAddr → Bool
  | .v4 ip _ => ip.isPrivate || ip.isLinkLocal
  | .v6 .. => false

/-- The area that an address is given; `none` where the endpoint is dropped. -/
def reportedArea (observedIp : Option IpAddr) (addr : SocketAddr) : Option EndpointArea :=
  if isLanIpv4Addr addr then some .lan
  else if classifyReportedIpv6Area addr = some .lan then some .lan
  else if classifyReportedIpv6Area addr = some .wan then some .wan
  else if isNonLanIpv4Addr addr && observedIp = some addr.ip then some .wan
  else none

/-- What becomes of one endpoint. -/
def sanitizeEndpoint (observedIp : Option IpAddr) (endpoint : Endpoint) : Option Endpoint :=
  if !(endpoint.protocol = .tcp || endpoint.protocol = .quic) || endpoint.addr.port = 0 then none
  else (reportedArea observedIp endpoint.addr).map fun area => { endpoint with area }

def sanitizeReportedEndpoints (endpoints : List Endpoint) (observedTunnel : Option Endpoint) :
    P2pResult (List Endpoint) :=
  if maxReportedLocalEndpoints < endpoints.length then
    .error ⟨.outOfLimit, "reported local endpoint count exceeds 32"⟩
  else
    let observedIp := observedTunnel.map fun endpoint => endpoint.addr.ip
    .ok (endpoints.foldl (fun sanitized endpoint =>
      match sanitizeEndpoint observedIp endpoint with
      | some endpoint => pushUniqueEndpoint sanitized endpoint
      | none => sanitized) [])

/-- The same protocols and addresses, in order; the areas may differ. -/
def SameUpToArea (xs ys : List Endpoint) : Prop := List.Forall₂ (fun x y => x.eq y = true) xs ys

/-- What the server keeps of a report. -/
structure Normalised (endpoints : List Endpoint) (observedTunnel : Option Endpoint)
    (sanitized : List Endpoint) : Prop where
  distinct : sanitized.Pairwise fun x y => x.eq y = false
  reported : ∀ e ∈ sanitized, ∃ r ∈ endpoints, r.protocol = e.protocol ∧ r.addr = e.addr
  transport : ∀ e ∈ sanitized, (e.protocol = .tcp ∨ e.protocol = .quic) ∧ e.addr.port ≠ 0
  area : ∀ e ∈ sanitized, (e.area = .lan ∨ e.area = .wan) ∧
    reportedArea (observedTunnel.map fun t => t.addr.ip) e.addr = some e.area
  /-- Neither the declared areas nor what else is known of the tunnel matters. -/
  independent : ∀ others otherTunnel, SameUpToArea endpoints others →
    otherTunnel.map (fun t : Endpoint => t.addr.ip) = observedTunnel.map (fun t => t.addr.ip) →
    sanitizeReportedEndpoints others otherTunnel = .ok sanitized
  /-- A reported non-LAN IPv4 address is kept if the client is seen at it. -/
  nonLan : ∀ r ∈ endpoints, (r.protocol = .tcp ∨ r.protocol = .quic) → r.addr.port ≠ 0 →
    isNonLanIpv4Addr r.addr = true →
    ((∃ e ∈ sanitized, e.eq r = true) ↔ observedTunnel.map (fun t => t.addr.ip) = some r.addr.ip)
  idempotent : sanitizeReportedEndpoints sanitized observedTunnel = .ok sanitized

/-! ## One endpoint -/

variable {observedIp : Option IpAddr} {x y r e : Endpoint} {xs ys : List Endpoint}

theorem endpoint_eq_refl (x : Endpoint) : x.eq x = true := decide_eq_true ⟨rfl, rfl⟩

theorem reportedArea_lan_or_wan {addr : SocketAddr} {area : EndpointArea}
    (h : reportedArea observedIp addr = some area) : area = .lan ∨ area = .wan := by
  unfold reportedArea at h
  split_ifs at h
  · exact .inl (Option.some.inj h).symm
  · exact .inl (Option.some.inj h).symm
  · exact .inr (Option.some.inj h).symm
  · exact .inr (Option.some.inj h).symm

/-- No other arm takes a non-LAN IPv4 address. -/
theorem reportedArea_nonLan {addr : SocketAddr} (h : isNonLanIpv4Addr addr = true) :
    (reportedArea observedIp addr).isSome = true ↔ observedIp = some addr.ip := by
  cases addr with
  | v6 => cases h
  | v4 ip port =>
    have hlan : isLanIpv4Addr (.v4 ip port) = false := by
      simp only [isNonLanIpv4Addr, Bool.and_eq_true, Bool.not_eq_true'] at h
      simp [isLanIpv4Addr, h]
    by_cases hobserved : observedIp = some (SocketAddr.v4 ip port).ip
    · simp [reportedArea, hlan, h, hobserved, classifyReportedIpv6Area]
    · simp [reportedArea, hlan, hobserved, classifyReportedIpv6Area]

/-- An endpoint is kept as it is, but for the area. -/
theorem sanitizeEndpoint_eq_some_iff : sanitizeEndpoint observedIp r = some e ↔
    ((e.protocol = .tcp ∨ e.protocol = .quic) ∧ e.addr.port ≠ 0) ∧
      reportedArea observedIp e.addr = some e.area ∧ r.protocol = e.protocol ∧ r.addr = e.addr := by
  unfold sanitizeEndpoint
  constructor
  · intro h
    split_ifs at h with hbad
    obtain ⟨area, harea, rfl⟩ := Option.map_eq_some_iff.mp h
    refine ⟨?_, harea, rfl, rfl⟩
    simpa [or_iff_not_imp_left] using hbad
  · rintro ⟨⟨htransport, hport⟩, harea, hprotocol, haddr⟩
    have hgood : ¬ (!(decide (e.protocol = .tcp) || decide (e.protocol = .quic)) ||
        decide (e.addr.port = 0)) = true := by
      rcases htransport with htcp | hquic
      · simp [htcp, hport]
      · simp [hquic, hport]
    rw [hprotocol, haddr, if_neg (by simpa using hgood), harea, Option.map_some]

/-- The declared area does not matter. -/
theorem sanitizeEndpoint_congr (h : x.eq y = true) :
    sanitizeEndpoint observedIp x = sanitizeEndpoint observedIp y := by
  obtain ⟨hprotocol, haddr⟩ := of_decide_eq_true h
  unfold sanitizeEndpoint
  rw [hprotocol, haddr]

/-! ## The list -/

theorem sanitize_eq (h : xs.length ≤ maxReportedLocalEndpoints) (tunnel : Option Endpoint) :
    sanitizeReportedEndpoints xs tunnel = .ok (dedup Endpoint.eq
      (xs.filterMap (sanitizeEndpoint (tunnel.map fun t => t.addr.ip)))) := by
  unfold sanitizeReportedEndpoints dedup
  rw [if_neg (not_lt.mpr h), List.foldl_filterMap]
  refine congrArg Except.ok (congrFun (congrArg₂ List.foldl ?_ rfl) xs)
  funext sanitized endpoint
  cases sanitizeEndpoint (tunnel.map fun t => t.addr.ip) endpoint with
  | none => rfl
  | some endpoint => rfl

/-- What was kept is kept as it is. -/
theorem filterMap_eq_self (h : ∀ e ∈ xs, sanitizeEndpoint observedIp e = some e) :
    xs.filterMap (sanitizeEndpoint observedIp) = xs := by
  rw [List.filterMap_congr h]
  exact List.filterMap_some

theorem filterMap_congr (h : SameUpToArea xs ys) :
    xs.filterMap (sanitizeEndpoint observedIp) = ys.filterMap (sanitizeEndpoint observedIp) := by
  induction h with
  | nil => rfl
  | cons hxy hrest ih =>
    rw [List.filterMap_cons, List.filterMap_cons, sanitizeEndpoint_congr hxy, ih]

/-- For every report of at most 32 endpoints, wherever the client is seen. -/
theorem sanitize_normalised (endpoints : List Endpoint) (observedTunnel : Option Endpoint)
    (hlimit : endpoints.length ≤ 32) :
    ∃ sanitized, sanitizeReportedEndpoints endpoints observedTunnel = .ok sanitized ∧
      Normalised endpoints observedTunnel sanitized := by
  let observedIp := observedTunnel.map fun t => t.addr.ip
  let kept := endpoints.filterMap (sanitizeEndpoint observedIp)
  have hkept : ∀ e ∈ dedup Endpoint.eq kept, ∃ r ∈ endpoints,
      ((e.protocol = .tcp ∨ e.protocol = .quic) ∧ e.addr.port ≠ 0) ∧
        reportedArea observedIp e.addr = some e.area ∧ r.protocol = e.protocol ∧ r.addr = e.addr := by
    intro e he
    obtain ⟨r, hr, hsan⟩ := List.mem_filterMap.mp (dedup_sublist.subset he)
    exact ⟨r, hr, sanitizeEndpoint_eq_some_iff.mp hsan⟩
  have hlength : (dedup Endpoint.eq kept).length ≤ 32 :=
    (dedup_sublist.length_le.trans (List.length_filterMap_le _ _)).trans hlimit
  refine ⟨dedup Endpoint.eq kept, sanitize_eq hlimit _, ⟨dedup_distinct, ?_, ?_, ?_, ?_, ?_, ?_⟩⟩
  · intro e he
    obtain ⟨r, hr, -, -, hprotocol, haddr⟩ := hkept e he
    exact ⟨r, hr, hprotocol, haddr⟩
  · intro e he
    obtain ⟨-, -, htransport, -⟩ := hkept e he
    exact htransport
  · intro e he
    obtain ⟨-, -, -, harea, -⟩ := hkept e he
    exact ⟨reportedArea_lan_or_wan harea, harea⟩
  · intro others otherTunnel hsame hip
    rw [sanitize_eq (hsame.length_eq ▸ hlimit), hip, ← filterMap_congr hsame]
  · intro r hr htransport hport hnonLan
    rw [← reportedArea_nonLan hnonLan]
    constructor
    · rintro ⟨e, he, heq⟩
      obtain ⟨-, -, -, harea, -⟩ := hkept e he
      rw [← (of_decide_eq_true heq).2, harea]
      rfl
    · intro hsome
      obtain ⟨area, harea⟩ := Option.isSome_iff_exists.mp hsome
      have hsan : sanitizeEndpoint observedIp r = some { r with area } :=
        sanitizeEndpoint_eq_some_iff.mpr ⟨⟨htransport, hport⟩, harea, rfl, rfl⟩
      obtain ⟨e, he, heq⟩ := dedup_covers endpoint_eq_refl (List.mem_filterMap.mpr ⟨r, hr, hsan⟩)
      exact ⟨e, he, heq⟩
  · rw [sanitize_eq hlength, filterMap_eq_self, dedup_of_distinct dedup_distinct]
    intro e he
    obtain ⟨-, -, htransport, harea, -⟩ := hkept e he
    exact sanitizeEndpoint_eq_some_iff.mpr ⟨htransport, harea, rfl, rfl⟩

/-- A LAN address, the one that the client is seen at and another public one. -/
theorem sanitize_normalised_three :
    let report : List Endpoint :=
      [⟨.wan, .tcp, .v4 ⟨10, 1, 2, 3⟩ 1001⟩, ⟨.lan, .quic, .v4 ⟨198, 51, 100, 7⟩ 1005⟩,
        ⟨.wan, .quic, .v4 ⟨203, 0, 113, 9⟩ 1014⟩]
    ∃ sanitized, sanitizeReportedEndpoints report
        (some ⟨.wan, .quic, .v4 ⟨198, 51, 100, 7⟩ 40000⟩) = .ok sanitized ∧
      Normalised report (some ⟨.wan, .quic, .v4 ⟨198, 51, 100, 7⟩ 40000⟩) sanitized :=
  sanitize_normalised _ _ (by decide)

end BuckyP2p.Sn
