import BuckyP2p.Lib.Dedup
import BuckyP2p.Rendezvous.EndpointOrder
import BuckyP2p.Tunnel.ConnectPlan

/-!
# BuckyP2p.Tunnel.Traversal — what a plan makes the two parties do (`tunnel/tunnel_manager.rs`)

A plan reaches the callee in one of two ways.  With a rendezvous the caller asks for an operation
and acts when the request was answered; with a call through the SN the callee selects the plan again
from the snapshot in the call.  Either way each party dials, or it waits for a tunnel of one
direction, under the tunnel id of the caller; `NatRun` is what it runs, up to the first dial.

`expectedReverse` is the direction of the tunnel for which a party registers a waiter before that.
-/

namespace BuckyP2p.Tunnel

open Lib Sn

/-- `TunnelCandidateId` is a `TunnelId` of another name. -/
structure TunnelConnectIntent where
  tunnelId : TunnelId
  candidateId : U32
  isReverse : Bool
  udpPunchEnabled : Bool
  deriving DecidableEq, Repr

namespace TunnelConnectIntent

def active (tunnelId : TunnelId) (candidateId : U32) : TunnelConnectIntent :=
  ⟨tunnelId, candidateId, false, false⟩

def activeLogical (tunnelId : TunnelId) : TunnelConnectIntent := active tunnelId 0

def reverse (tunnelId : TunnelId) (candidateId : U32) : TunnelConnectIntent :=
  ⟨tunnelId, candidateId, true, false⟩

def reverseLogical (tunnelId : TunnelId) : TunnelConnectIntent := reverse tunnelId 0

def setUdpPunchEnabled (intent : TunnelConnectIntent) (enabled : Bool) : TunnelConnectIntent :=
  { intent with udpPunchEnabled := enabled }

end TunnelConnectIntent

/-! ## Candidates -/

/-- `MAX_NAT_PLAN_CANDIDATES`. -/
def maxNatPlanCandidates : Nat := 8

def predictedUnavailable : P2pError :=
  ⟨.notFound, "predicted candidates require a live rendezvous prediction"⟩

/-- `nat_candidates`, which does not use the profile nor the time. -/
def natCandidates (baseEndpoints : List Endpoint) : CandidateMode → P2pResult (List Endpoint)
  | .base => .ok ((dedup Endpoint.eq baseEndpoints).take maxNatPlanCandidates)
  | .predicted => .error predictedUnavailable

def eligibleFor (operation : SnTunnelRendezvousOperation) (endpoint : Endpoint) : Bool :=
  if operation.reverseConnects then rendezvousReverseConnectEligibleArea endpoint
  else rendezvousEligibleArea endpoint

/-- The protocol of the endpoints that `rendezvous_base_endpoints` takes. -/
def rendezvousAnchor (endpoints : List Endpoint) (operation : SnTunnelRendezvousOperation) :
    Protocol :=
  if operation.punches then .quic
  else if endpoints.any fun endpoint =>
      endpoint.protocol = .quic && eligibleFor operation endpoint && endpoint.addr.port ≠ 0 then
    .quic
  else .tcp

/-- The loop of `rendezvous_base_endpoints`; it stops once it has enough. -/
def rendezvousBaseEndpoints.loop : List Endpoint → List Endpoint → List Endpoint
  | [], result => result
  | endpoint :: rest, result =>
    let result := pushUnique Endpoint.eq result endpoint
    if maxNatPlanCandidates ≤ result.length then result else loop rest result

def rendezvousBaseEndpoints (endpoints : List Endpoint) (operation : SnTunnelRendezvousOperation) :
    List Endpoint :=
  rendezvousBaseEndpoints.loop (endpoints.filter fun endpoint =>
    endpoint.protocol = rendezvousAnchor endpoints operation && eligibleFor operation endpoint &&
      endpoint.addr.port ≠ 0) []

/-! ## What a party runs -/

inductive NatRun
  | openDirectPath (endpoints : List Endpoint) (intent : TunnelConnectIntent)
  | punchAndWaitIncoming (endpoints : List Endpoint) (incomingIsActive : Bool)
  | waitPlannedIncoming (incomingIsActive : Bool)
  deriving DecidableEq, Repr

namespace NatRun

def intent? : NatRun → Option TunnelConnectIntent
  | .openDirectPath _ intent => some intent
  | _ => none

/-- The direction of the tunnels that it makes. -/
def dials? (run : NatRun) : Option Bool := run.intent?.map TunnelConnectIntent.isReverse

def waits : NatRun → Bool
  | .openDirectPath .. => false
  | _ => true

/-- It dials under this tunnel id, if it dials. -/
def Names (run : NatRun) (tunnelId : TunnelId) : Prop :=
  ∀ intent, run.intent? = some intent → intent.tunnelId = tunnelId

theorem names_openDirectPath {endpoints : List Endpoint} {intent : TunnelConnectIntent}
    {tunnelId : TunnelId} (h : intent.tunnelId = tunnelId) :
    (openDirectPath endpoints intent).Names tunnelId := by
  rintro _ ⟨⟩
  exact h

theorem names_of_waits {run : NatRun} (h : run.waits = true) (tunnelId : TunnelId) :
    run.Names tunnelId := by
  cases run with
  | openDirectPath endpoints intent => cases h
  | punchAndWaitIncoming endpoints incomingIsActive => rintro _ ⟨⟩
  | waitPlannedIncoming incomingIsActive => rintro _ ⟨⟩

end NatRun

def missingNatWaiter : P2pError := ⟨.failed, "missing NAT incoming waiter"⟩

/-- `execute_nat_action`, of a party with a waiter or without one. -/
def executeNatAction (action : PlanAction) (party : PlanParty) (remoteEndpoints : List Endpoint)
    (tunnelId : TunnelId) (hasWaiter : Bool) : P2pResult NatRun :=
  match action with
  | .connect candidates reverse =>
    match natCandidates remoteEndpoints candidates with
    | .error err => .error err
    | .ok candidates =>
      .ok (.openDirectPath candidates
        (if reverse then .reverseLogical tunnelId else .activeLogical tunnelId))
  | .punchThenWait candidates =>
    match natCandidates remoteEndpoints candidates with
    | .error err => .error err
    | .ok candidates =>
      if hasWaiter then .ok (.punchAndWaitIncoming candidates (party = .callee))
      else .error missingNatWaiter
  | .waitIncoming =>
    if hasWaiter then .ok (.waitPlannedIncoming (party = .callee)) else .error missingNatWaiter
  | .legacy => .error ⟨.notSupport, "legacy action is not NAT-aware"⟩

/-- `expected_reverse` of `open_nat_aware_tunnel_legacy`, and of `on_sn_called`. -/
def PlanAction.expectedReverse (action : PlanAction) (party : PlanParty) : Option Bool :=
  match action with
  | .punchThenWait _ | .waitIncoming => some (party = .caller)
  | _ => none

/-- `expected_reverse` of `open_rendezvous_tunnel`. -/
def RendezvousCallerAction.expectedReverse : RendezvousCallerAction → Option Bool
  | .punchThenWait _ | .waitIncoming => some true
  | .connect _ => none

/-- `expected_reverse` of `on_sn_rendezvous`. -/
def operationExpectedReverse : SnTunnelRendezvousOperation → Option Bool
  | .punchOnly | .waitIncoming => some false
  | .punchAndReverseConnect | .reverseConnectOnly => none

/-- The action of `open_rendezvous_tunnel` after an answer with the endpoints `predicted`. -/
def rendezvousCallerRun (plan : RendezvousPlan) (fallback : PlanAction) (predicted : List Endpoint)
    (remoteEndpoints : List Endpoint) (tunnelId : TunnelId) : P2pResult NatRun :=
  let hasWaiter := plan.callerAction.expectedReverse.isSome
  match plan.callerAction with
  | .connect true => .ok (.openDirectPath predicted (.activeLogical tunnelId))
  | .punchThenWait true =>
    if hasWaiter then .ok (.punchAndWaitIncoming predicted false)
    else .error ⟨.errorState, "missing rendezvous reverse waiter"⟩
  | _ => executeNatAction fallback .caller remoteEndpoints tunnelId hasWaiter

def missingActiveWaiter : P2pError := ⟨.errorState, "missing rendezvous active waiter"⟩

/-- The action of `on_sn_rendezvous`. -/
def rendezvousTargetRun (operation : SnTunnelRendezvousOperation) (endpoints : List Endpoint)
    (tunnelId : TunnelId) : P2pResult NatRun :=
  let hasWaiter := (operationExpectedReverse operation).isSome
  match operation with
  | .punchOnly =>
    if hasWaiter then .ok (.punchAndWaitIncoming endpoints true) else .error missingActiveWaiter
  | .waitIncoming =>
    if hasWaiter then .ok (.waitPlannedIncoming true) else .error missingActiveWaiter
  | .punchAndReverseConnect | .reverseConnectOnly =>
    .ok (.openDirectPath endpoints ((TunnelConnectIntent.reverseLogical tunnelId).setUdpPunchEnabled
      (operation = .punchAndReverseConnect)))

/-! ## Both flows meet -/

/-- One of the two parties dials, and the other waits, with a waiter for the tunnels that come. -/
inductive Meet : NatRun → Option Bool → NatRun → Option Bool → Prop
  | callerDials {x y : NatRun} {rev : Bool} (hx : x.dials? = some rev) (hy : y.waits = true) :
    Meet x none y (some rev)
  | calleeDials {x y : NatRun} {rev : Bool} (hx : x.waits = true) (hy : y.dials? = some rev) :
    Meet x (some rev) y none

section Flows

open NatRun

variable {plan : ConnectPlan} {party : PlanParty} {rendezvous : RendezvousPlan}
  {predicted endpoints remoteEndpoints : List Endpoint} {tunnelId : TunnelId}

/-- What the two parties run after a rendezvous meets.  The predicted endpoints of the answer are
used where the action has predicted candidates, so that no party lacks candidates. -/
theorem rendezvous_meets (hplan : plan.Directed party)
    (hrendezvous : plan.rendezvousPlan = some rendezvous) :
    ∃ x y, rendezvousCallerRun rendezvous (plan.actionFor .caller) predicted remoteEndpoints
        tunnelId = .ok x ∧
      rendezvousTargetRun rendezvous.operation endpoints tunnelId = .ok y ∧
      Meet x rendezvous.callerAction.expectedReverse y
        (operationExpectedReverse rendezvous.operation) ∧
      x.Names tunnelId ∧ y.Names tunnelId := by
  obtain ⟨strategy, connector, candidates, peerCandidates, rev, fallback⟩ := plan
  obtain ⟨rfl, rfl, hbase⟩ := hplan
  cases party with
  | caller =>
    cases hrendezvous
    cases candidates <;> cases peerCandidates <;>
      exact ⟨_, _, rfl, rfl, .callerDials rfl rfl, names_openDirectPath rfl, names_of_waits rfl _⟩
  | callee =>
    cases hrendezvous
    rcases peerCandidates with _ | _ | _ <;>
      exact ⟨_, _, rfl, rfl, .calleeDials rfl rfl, names_of_waits rfl _, names_openDirectPath rfl⟩

def PlanAction.dials? : PlanAction → Option Bool
  | .connect _ rev => some rev
  | _ => none

/-- An action with its own waiter fails only where it asks for predicted candidates; what it runs
otherwise follows from the action alone. -/
theorem executeNatAction_spec {action : PlanAction} {result : P2pResult NatRun}
    (haction : action ≠ .legacy) (h : executeNatAction action party remoteEndpoints tunnelId
      (action.expectedReverse party).isSome = result) :
    (∀ err, result = .error err → err = predictedUnavailable) ∧ ∀ x, result = .ok x →
      x.dials? = action.dials? ∧ (action.dials? = none → x.waits = true) ∧ x.Names tunnelId := by
  subst h
  cases action with
  | legacy => exact absurd rfl haction
  | connect candidates rev =>
    cases candidates with
    | predicted => exact ⟨by rintro _ ⟨⟩; rfl, by rintro _ ⟨⟩⟩
    | base =>
      refine ⟨by rintro _ ⟨⟩, ?_⟩
      rintro _ ⟨⟩
      cases rev <;> exact ⟨rfl, by rintro ⟨⟩, names_openDirectPath rfl⟩
  | punchThenWait candidates =>
    cases candidates with
    | predicted => exact ⟨by rintro _ ⟨⟩; rfl, by rintro _ ⟨⟩⟩
    | base => exact ⟨by rintro _ ⟨⟩, by rintro _ ⟨⟩; exact ⟨rfl, fun _ => rfl, names_of_waits rfl _⟩⟩
  | waitIncoming =>
    exact ⟨by rintro _ ⟨⟩, by rintro _ ⟨⟩; exact ⟨rfl, fun _ => rfl, names_of_waits rfl _⟩⟩

/-- What the two parties run after a call meets. -/
theorem call_meets (hplan : plan.Directed party) {x y : NatRun}
    (hx : executeNatAction (plan.actionFor .caller) .caller remoteEndpoints tunnelId
      ((plan.actionFor .caller).expectedReverse .caller).isSome = .ok x)
    (hy : executeNatAction (plan.actionFor .callee) .callee endpoints tunnelId
      ((plan.actionFor .callee).expectedReverse .callee).isSome = .ok y) :
    Meet x ((plan.actionFor .caller).expectedReverse .caller) y
      ((plan.actionFor .callee).expectedReverse .callee) := by
  obtain ⟨hxdials, hxwaits, -⟩ := (executeNatAction_spec (hplan.actionFor_ne _) hx).2 _ rfl
  obtain ⟨hydials, hywaits, -⟩ := (executeNatAction_spec (hplan.actionFor_ne _) hy).2 _ rfl
  obtain ⟨strategy, connector, candidates, peerCandidates, rev, fallback⟩ := plan
  obtain ⟨rfl, rfl, hbase⟩ := hplan
  cases party with
  | caller => cases peerCandidates <;> exact .callerDials hxdials (hywaits rfl)
  | callee => cases peerCandidates <;> exact .calleeDials (hxwaits rfl) hydials

/-- The waiter of a rendezvous also serves the action without an answer. -/
theorem expectedReverse_eq (hrendezvous : plan.rendezvousPlan = some rendezvous) :
    rendezvous.callerAction.expectedReverse =
      (plan.actionFor .caller).expectedReverse .caller := by
  obtain ⟨strategy, connector, candidates, peerCandidates, rev, fallback⟩ := plan
  cases connector with
  | none => cases hrendezvous
  | some connector =>
    cases connector <;> cases peerCandidates <;> cases hrendezvous <;> rfl

/-- Two parties that select a plan from the same snapshot select the same one, whatever their clocks
read, and what they then run meets: after a rendezvous that was answered always, and after a call
unless candidates have to be predicted. -/
theorem plans_meet (context : NatTraversalContext) (t t' : Timestamp)
    (callerPublic calleePublic : Bool) (tunnelId : TunnelId)
    (remoteEndpoints endpoints predicted : List Endpoint)
    (h : selectConnectPlan context t callerPublic calleePublic ≠ .legacy)
    (h' : selectConnectPlan context t' callerPublic calleePublic ≠ .legacy) :
    let plan := selectConnectPlan context t callerPublic calleePublic
    let action := plan.actionFor .caller
    let action' := (selectConnectPlan context t' callerPublic calleePublic).actionFor .callee
    (∃ rendezvous x y, plan.rendezvousPlan = some rendezvous ∧
      rendezvousCallerRun rendezvous action predicted remoteEndpoints tunnelId = .ok x ∧
      rendezvousTargetRun rendezvous.operation endpoints tunnelId = .ok y ∧
      Meet x (action.expectedReverse .caller) y (operationExpectedReverse rendezvous.operation) ∧
      x.Names tunnelId ∧ y.Names tunnelId) ∧
    (∀ x y, executeNatAction action .caller remoteEndpoints tunnelId
        (action.expectedReverse .caller).isSome = .ok x →
      executeNatAction action' .callee endpoints tunnelId
        (action'.expectedReverse .callee).isSome = .ok y →
      Meet x (action.expectedReverse .caller) y (action'.expectedReverse .callee) ∧
        x.Names tunnelId ∧ y.Names tunnelId) ∧
    ∀ err, executeNatAction action .caller remoteEndpoints tunnelId
        (action.expectedReverse .caller).isSome = .error err ∨
      executeNatAction action' .callee endpoints tunnelId
        (action'.expectedReverse .callee).isSome = .error err → err = predictedUnavailable := by
  dsimp only
  rw [← selectConnectPlan_agree h h']
  obtain ⟨party, hplan⟩ :=
    (selectConnectPlan_directed context t callerPublic calleePublic).resolve_left h
  generalize selectConnectPlan context t callerPublic calleePublic = plan at hplan
  refine ⟨?_, ?_, ?_⟩
  · obtain ⟨rendezvous, hrendezvous⟩ := hplan.rendezvousPlan
    obtain ⟨x, y, hx, hy, hmeet, hnames⟩ := rendezvous_meets hplan hrendezvous
    exact ⟨rendezvous, x, y, hrendezvous, hx, hy, expectedReverse_eq hrendezvous ▸ hmeet, hnames⟩
  · intro x y hx hy
    exact ⟨call_meets hplan hx hy,
      ((executeNatAction_spec (hplan.actionFor_ne _) hx).2 x rfl).2.2,
      ((executeNatAction_spec (hplan.actionFor_ne _) hy).2 y rfl).2.2⟩
  · rintro err (herr | herr)
    · exact (executeNatAction_spec (hplan.actionFor_ne _) herr).1 err rfl
    · exact (executeNatAction_spec (hplan.actionFor_ne _) herr).1 err rfl

/-- An endpoint behind a NAT whose ports go up by two. -/
def mappedEndpoint (port : U16) : Endpoint := ⟨.serverReflexive, .quic, .v4 ⟨198, 51, 100, 1⟩ port⟩

/-- Both parties are behind such a NAT. -/
def symmetricContext : NatTraversalContext :=
  let profile : NatProfile := ⟨1, .symmetricLike, 10, 100,
    some ⟨mappedEndpoint 4000, mappedEndpoint 4004, 3, 2, .same⟩⟩
  .new [1] [2] profile profile

theorem plans_meet_symmetric : ∃ rendezvous x y,
    (selectConnectPlan symmetricContext 20 false false).rendezvousPlan = some rendezvous ∧
    rendezvousCallerRun rendezvous ((selectConnectPlan symmetricContext 20 false false).actionFor
      .caller) [mappedEndpoint 4006] [] 7 = .ok x ∧
    rendezvousTargetRun rendezvous.operation [mappedEndpoint 4006] 7 = .ok y ∧
    Meet x (((selectConnectPlan symmetricContext 20 false false).actionFor .caller).expectedReverse
      .caller) y (operationExpectedReverse rendezvous.operation) ∧ x.Names 7 ∧ y.Names 7 :=
  (plans_meet symmetricContext 20 90 false false 7 [] [mappedEndpoint 4006] [mappedEndpoint 4006]
    (by decide +kernel) (by decide +kernel)).1

end Flows

/-! ## Requests -/

def noLocalEndpoints : P2pError := ⟨.notFound, "no local rendezvous endpoints"⟩

/-- The endpoints of the request of `open_rendezvous_tunnel`: `localEndpoints` are those of
`reverse_endpoints_for_sn`, and `predict` is what `predict_owned_rendezvous_endpoints` returns. -/
def requestEndpoints (plan : RendezvousPlan) (localEndpoints : List Endpoint)
    (predict : P2pResult (List Endpoint)) : P2pResult (List Endpoint) :=
  match plan.requestCandidates with
  | none => .ok []
  | some .base =>
    let endpoints := rendezvousBaseEndpoints localEndpoints plan.operation
    if endpoints.isEmpty then .error noLocalEndpoints else .ok endpoints
  | some .predicted => predict

section BaseEndpoints

variable {endpoints rest result : List Endpoint} {operation : SnTunnelRendezvousOperation}

theorem loop_distinct (h : Distinct Endpoint.eq result) :
    Distinct Endpoint.eq (rendezvousBaseEndpoints.loop rest result) := by
  induction rest generalizing result with
  | nil => exact h
  | cons endpoint rest ih =>
    unfold rendezvousBaseEndpoints.loop
    dsimp only
    split_ifs
    · exact pushUnique_distinct h
    · exact ih (pushUnique_distinct h)

theorem pushUnique_length_le (result : List Endpoint) (endpoint : Endpoint) :
    (pushUnique Endpoint.eq result endpoint).length ≤ result.length + 1 := by
  simpa using (pushUnique_sublist Endpoint.eq result endpoint).length_le

theorem loop_length (h : result.length < maxNatPlanCandidates) :
    (rendezvousBaseEndpoints.loop rest result).length ≤ maxNatPlanCandidates := by
  induction rest generalizing result with
  | nil => exact h.le
  | cons endpoint rest ih =>
    unfold rendezvousBaseEndpoints.loop
    dsimp only
    split_ifs with hfull
    · exact (pushUnique_length_le result endpoint).trans h
    · exact ih (not_le.mp hfull)

theorem loop_subset : rendezvousBaseEndpoints.loop rest result ⊆ result ++ rest := by
  induction rest generalizing result with
  | nil => simp [rendezvousBaseEndpoints.loop]
  | cons endpoint rest ih =>
    unfold rendezvousBaseEndpoints.loop
    dsimp only
    have hpush := (pushUnique_sublist Endpoint.eq result endpoint).subset
    rw [List.append_cons]
    split_ifs
    · exact fun e he => List.mem_append_left _ (hpush he)
    · intro e he
      exact List.mem_append.mpr ((List.mem_append.mp (ih he)).imp_left fun hmem => hpush hmem)

theorem rendezvousAnchor_kind (endpoints : List Endpoint)
    (operation : SnTunnelRendezvousOperation) :
    rendezvousAnchor endpoints operation = .quic ∨ rendezvousAnchor endpoints operation = .tcp := by
  unfold rendezvousAnchor
  split_ifs
  · exact .inl rfl
  · exact .inl rfl
  · exact .inr rfl

/-- What `rendezvous_base_endpoints` takes is accepted, whatever the table of the validation does with
endpoints that are equal but for their areas. -/
theorem rendezvousBaseEndpoints_valid (meets : Endpoint → Endpoint → Bool)
    (endpoints : List Endpoint) {operation : SnTunnelRendezvousOperation}
    (hoperation : operation.requiresEndpoints = true)
    (hsome : rendezvousBaseEndpoints endpoints operation ≠ []) :
    validateRendezvousEndpointsIn meets (rendezvousBaseEndpoints endpoints operation) operation =
      .ok () := by
  have hfew : (rendezvousBaseEndpoints endpoints operation).length ≤ 8 := loop_length (by decide)
  have hdistinct : Distinct Endpoint.eq (rendezvousBaseEndpoints endpoints operation) :=
    loop_distinct List.Pairwise.nil
  have htaken : ∀ e ∈ rendezvousBaseEndpoints endpoints operation,
      e.protocol = rendezvousAnchor endpoints operation ∧ eligibleFor operation e = true ∧
        e.addr.port ≠ 0 := by
    intro e he
    have hmem := loop_subset he
    rw [List.nil_append] at hmem
    simpa [and_assoc] using List.of_mem_filter hmem
  generalize hresult : rendezvousBaseEndpoints endpoints operation = result at *
  have hhead : result.head?.map Endpoint.protocol = some (rendezvousAnchor endpoints operation) := by
    obtain ⟨e, rest, rfl⟩ := List.exists_cons_of_ne_nil hsome
    exact congrArg some (htaken e (.head _)).1
  refine validateRendezvousEndpointsIn_eq_ok.mpr ⟨⟨hfew, ?_, fun hpunches => ?_, fun e he => ?_⟩, ?_⟩
  · rw [hoperation]
    simp [hsome]
  · rw [hhead, rendezvousAnchor, if_pos hpunches]
  · obtain ⟨hprotocol, heligible, hport⟩ := htaken e he
    refine ⟨by rw [hhead, hprotocol], ?_, hport, heligible⟩
    rw [hprotocol]
    exact rendezvousAnchor_kind endpoints operation
  · refine hdistinct.imp fun {x y} hne hrefused => ?_
    obtain ⟨hprotocol, haddr⟩ := (Endpoint.eq_iff y x).mp hrefused.2
    rw [(Endpoint.eq_iff x y).mpr ⟨hprotocol.symm, haddr.symm⟩] at hne
    cases hne

end BaseEndpoints

/-- The candidates of a request are those that its operation calls for. -/
theorem rendezvousPlan_request {plan : ConnectPlan} {party : PlanParty} (hplan : plan.Directed party)
    {rendezvous : RendezvousPlan} (h : plan.rendezvousPlan = some rendezvous) :
    rendezvous.operation.requiresEndpoints = rendezvous.requestCandidates.isSome ∧
      (rendezvous.requestCandidates = some .predicted → rendezvous.operation = .punchOnly) := by
  obtain ⟨strategy, connector, candidates, peerCandidates, rev, fallback⟩ := plan
  obtain ⟨rfl, rfl, hbase⟩ := hplan
  cases party with
  | caller =>
    cases peerCandidates with
    | none =>
      cases h
      exact ⟨rfl, by rintro ⟨⟩⟩
    | some mode =>
      cases h
      exact ⟨rfl, fun _ => rfl⟩
  | callee =>
    obtain rfl : candidates = .base := hbase rfl
    cases peerCandidates <;> cases h <;> exact ⟨rfl, by rintro ⟨⟩⟩

/-- Whatever a caller with a plan asks for passes the validation of its request, and so does the
notification that the callee gets of it, and the answer of a callee that predicts if it has to.  Of
the predictions of the two it is asked that a punch takes them. -/
theorem rendezvous_messages_valid (meets : Endpoint → Endpoint → Bool)
    (context : NatTraversalContext) (now : Timestamp) (callerPublic calleePublic : Bool)
    (rendezvous : RendezvousPlan)
    (hrendezvous : (selectConnectPlan context now callerPublic calleePublic).rendezvousPlan =
      some rendezvous)
    (localEndpoints endpoints : List Endpoint) (own predicted : P2pResult (List Endpoint))
    (hendpoints : requestEndpoints rendezvous localEndpoints own = .ok endpoints)
    (hown : ∀ l, own = .ok l → validateRendezvousEndpointsIn meets l .punchOnly = .ok ())
    (hpredicted : ∀ l, predicted = .ok l → validateRendezvousEndpointsIn meets l .punchOnly = .ok ())
    (seq : Sequence) (hseq : seq ≠ 0) (tunnelId : TunnelId) (toPeerId : P2pId) (peerInfo : List U8) :
    SnTunnelRendezvous.validateIn meets ⟨seq, tunnelId, toPeerId, rendezvous.operation, endpoints,
      rendezvous.needPredictEndpoint⟩ = .ok () ∧
    SnTunnelRendezvousNotify.validateIn meets ⟨seq, tunnelId, peerInfo, rendezvous.operation,
      endpoints, rendezvous.needPredictEndpoint⟩ = .ok () ∧
    ∀ l, (if rendezvous.needPredictEndpoint then predicted else .ok []) = .ok l →
      SnTunnelRendezvousResp.validateIn meets (.success seq l) seq rendezvous.needPredictEndpoint =
        .ok () := by
  have hplan : ∃ party, (selectConnectPlan context now callerPublic calleePublic).Directed party := by
    refine (selectConnectPlan_directed context now callerPublic calleePublic).resolve_left ?_
    intro hlegacy
    rw [hlegacy] at hrendezvous
    cases hrendezvous
  obtain ⟨party, hplan⟩ := hplan
  obtain ⟨hrequires, hpredicts⟩ := rendezvousPlan_request hplan hrendezvous
  have hvalid : validateRendezvousEndpointsIn meets endpoints rendezvous.operation = .ok () := by
    unfold requestEndpoints at hendpoints
    cases hmode : rendezvous.requestCandidates with
    | none =>
      rw [hmode] at hendpoints hrequires
      cases hendpoints
      cases hoperation : rendezvous.operation with
      | waitIncoming => rfl
      | punchOnly | punchAndReverseConnect | reverseConnectOnly =>
        rw [hoperation] at hrequires
        cases hrequires
    | some mode =>
      rw [hmode] at hendpoints hrequires
      cases mode with
      | base =>
        dsimp only at hendpoints
        split_ifs at hendpoints with hempty
        cases hendpoints
        rw [List.isEmpty_iff] at hempty
        exact rendezvousBaseEndpoints_valid meets localEndpoints hrequires hempty
      | predicted =>
        rw [hpredicts hmode]
        exact hown endpoints hendpoints
  refine ⟨?_, ?_, fun l hl => ?_⟩
  · rw [SnTunnelRendezvous.validateIn, if_neg hseq]
    exact hvalid
  · rw [SnTunnelRendezvousNotify.validateIn, if_neg hseq]
    exact hvalid
  · unfold SnTunnelRendezvousResp.validateIn
    have hsame : ¬ (SnTunnelRendezvousResp.success seq l).seq ≠ seq := not_not.mpr rfl
    have hsuccess : (SnTunnelRendezvousResp.success seq l).isSuccess = true := rfl
    rw [if_neg hsame, if_neg fun h => h.1 rfl, hsuccess, if_neg (by decide)]
    cases hneed : rendezvous.needPredictEndpoint with
    | false =>
      rw [hneed] at hl
      cases hl
      rfl
    | true =>
      rw [hneed] at hl
      have hpunch := hpredicted l hl
      have hsome : l.isEmpty = false := by
        have hneeded := (validateRendezvousEndpointsIn_eq_ok.mp hpunch).1.needed
        cases hempty : l.isEmpty with
        | false => rfl
        | true =>
          rw [hempty] at hneeded
          cases hneeded
      rw [if_neg (by simp [SnTunnelRendezvousResp.success, hsome]), if_pos rfl]
      exact hpunch

/-- The callee of a caller behind a symmetric NAT punches towards the ports that were predicted. -/
theorem rendezvous_messages_valid_symmetric : ∃ rendezvous : RendezvousPlan,
    rendezvous.needPredictEndpoint = true ∧
    SnTunnelRendezvous.validateIn meetsSameHash ⟨1, 7, [2], rendezvous.operation,
      [mappedEndpoint 4006], true⟩ = .ok () ∧
    SnTunnelRendezvousResp.validateIn meetsSameHash (.success 1 [mappedEndpoint 4006]) 1 true =
      .ok () := by
  have hpunch : ∀ l, (.ok [mappedEndpoint 4006] : P2pResult (List Endpoint)) = .ok l →
      validateRendezvousEndpointsIn meetsSameHash l .punchOnly = .ok () := by
    rintro l ⟨⟩
    decide +kernel
  obtain ⟨hrequest, -, hanswer⟩ := rendezvous_messages_valid meetsSameHash symmetricContext 20 false
    false ⟨.punchOnly, some .predicted, true, .connect true⟩ (by decide +kernel) []
    [mappedEndpoint 4006] (.ok [mappedEndpoint 4006]) (.ok [mappedEndpoint 4006]) rfl hpunch hpunch 1
    (by decide) 7 [2] []
  exact ⟨_, rfl, hrequest, hanswer _ rfl⟩

end BuckyP2p.Tunnel
