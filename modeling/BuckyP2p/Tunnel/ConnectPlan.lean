import BuckyP2p.NatProbe.Prediction
import BuckyP2p.Sn.Messages

/-!
# BuckyP2p.Tunnel.ConnectPlan — who connects to whom (`tunnel/nat_connect_plan.rs`)

Both parties of a tunnel select a plan from the same ordered snapshot of their NAT profiles, each by
its own clock.  A plan names the party that connects; what the other party does follows from it.
`rendezvous_plan` says the same of a rendezvous request: what the caller does itself and which
operation it asks of the callee.

A profile that is fresh at two times says the same at both, so the clock decides only whether there
is a plan, not which one it is (`selectConnectPlan_agree`).
-/

namespace BuckyP2p

open Lib

namespace NatProfile

/-- `usable_prediction_hint(now).is_some()`; no hint stops it (`isUsableWith_spec`). -/
def hasUsableHint (profile : NatProfile) (now : Timestamp) : Bool :=
  match profile.usablePredictionHint now with
  | .ok hint => hint.isSome
  | .error _ => false

theorem mappingAt_of_isFresh {profile : NatProfile} {now : Timestamp} (h : profile.isFresh now) :
    profile.mappingAt now = profile.observation := if_pos h

theorem isFresh_of_mappingAt_ne {profile : NatProfile} {now : Timestamp}
    (h : profile.mappingAt now ≠ .unknown) : profile.isFresh now = true := by
  by_contra hstale
  exact h (if_neg hstale)

theorem hasUsableHint_congr {profile : NatProfile} {t t' : Timestamp}
    (h : profile.mappingAt t = profile.mappingAt t') :
    profile.hasUsableHint t = profile.hasUsableHint t' := by
  unfold hasUsableHint usablePredictionHint
  rw [h]

end NatProfile

namespace Sn.NatTraversalContext

def new (callerPeerId calleePeerId : P2pId) (callerProfile calleeProfile : NatProfile) :
    NatTraversalContext :=
  ⟨natTraversalContextVersion, callerPeerId, calleePeerId, callerProfile, calleeProfile⟩

end Sn.NatTraversalContext

namespace Tunnel

open Sn

/-! ## Plans -/

inductive PlanParty
  | caller | callee
  deriving DecidableEq, Repr

inductive CandidateMode
  | base | predicted
  deriving DecidableEq, Repr

/-- `Public` is a word of Lean. -/
inductive ConnectStrategy
  | legacy | publicWan | matrix | boundedBestEffort
  deriving DecidableEq, Repr

inductive PlanFallback
  | legacy | proxy
  deriving DecidableEq, Repr

inductive PlanAction
  | legacy
  | connect (candidates : CandidateMode) (reverse : Bool)
  | punchThenWait (candidates : CandidateMode)
  | waitIncoming
  deriving DecidableEq, Repr

structure ConnectPlan where
  strategy : ConnectStrategy
  connector : Option PlanParty
  connectorCandidates : CandidateMode
  peerCandidates : Option CandidateMode
  reverse : Bool
  fallback : PlanFallback
  deriving DecidableEq, Repr

inductive RendezvousCallerAction
  | connect (usePredictedResponse : Bool)
  | punchThenWait (usePredictedResponse : Bool)
  | waitIncoming
  deriving DecidableEq, Repr

structure RendezvousPlan where
  operation : SnTunnelRendezvousOperation
  requestCandidates : Option CandidateMode
  needPredictEndpoint : Bool
  callerAction : RendezvousCallerAction
  deriving DecidableEq, Repr

namespace ConnectPlan

def legacy : ConnectPlan := ⟨.legacy, none, .base, none, false, .legacy⟩

def actionFor (plan : ConnectPlan) (party : PlanParty) : PlanAction :=
  match plan.connector with
  | none => .legacy
  | some connector =>
    if connector = party then .connect plan.connectorCandidates plan.reverse
    else match plan.peerCandidates with
      | some candidates => .punchThenWait candidates
      | none => .waitIncoming

def rendezvousPlan (plan : ConnectPlan) : Option RendezvousPlan :=
  match plan.connector with
  | none => none
  | some .caller =>
    some
      { operation := if plan.peerCandidates.isSome then .punchOnly else .waitIncoming
        requestCandidates := plan.peerCandidates
        needPredictEndpoint := plan.connectorCandidates = .predicted
        callerAction := .connect (plan.connectorCandidates = .predicted) }
  | some .callee =>
    some
      { operation :=
          if plan.peerCandidates.isSome then .punchAndReverseConnect else .reverseConnectOnly
        requestCandidates := some plan.connectorCandidates
        needPredictEndpoint := plan.peerCandidates = some .predicted
        callerAction := match plan.peerCandidates with
          | some mode => .punchThenWait (mode = .predicted)
          | none => .waitIncoming }

end ConnectPlan

def publicPlan (connector : PlanParty) : ConnectPlan :=
  ⟨.publicWan, some connector, .base, none, connector = .callee, .proxy⟩

def matrixPlan (strategy : ConnectStrategy) (connector : PlanParty)
    (connectorCandidates peerCandidates : CandidateMode) : ConnectPlan :=
  ⟨strategy, some connector, connectorCandidates, some peerCandidates, connector = .callee, .proxy⟩

def predictionOrBase (predictionUsable : Bool) : CandidateMode :=
  if predictionUsable then .predicted else .base

def selectConnectPlan (context : NatTraversalContext) (now : Timestamp)
    (callerPublic calleePublic : Bool) : ConnectPlan :=
  if calleePublic then publicPlan .caller
  else if callerPublic then publicPlan .callee
  else if !context.isSupported then .legacy
  else
    let caller := context.callerProfile.mappingAt now
    let callee := context.calleeProfile.mappingAt now
    if caller = .unknown || callee = .unknown then .legacy
    else
      let callerPredictable := caller ≠ .symmetricLike || context.callerProfile.hasUsableHint now
      let calleePredictable := callee ≠ .symmetricLike || context.calleeProfile.hasUsableHint now
      let strategy : ConnectStrategy :=
        if callerPredictable && calleePredictable then .matrix else .boundedBestEffort
      match caller, callee with
      | .nonSymmetricLike, .nonSymmetricLike => matrixPlan strategy .caller .base .base
      | .nonSymmetricLike, .symmetricLike =>
        matrixPlan strategy .callee .base (predictionOrBase calleePredictable)
      | .symmetricLike, .nonSymmetricLike =>
        matrixPlan strategy .caller .base (predictionOrBase callerPredictable)
      | .symmetricLike, .symmetricLike =>
        matrixPlan strategy .caller (predictionOrBase calleePredictable)
          (predictionOrBase callerPredictable)
      | _, _ => .legacy

/-! ## What is selected -/

section Selection

variable {context : NatTraversalContext} {t t' now : Timestamp} {callerPublic calleePublic : Bool}

theorem selectConnectPlan_congr
    (hcaller : context.callerProfile.mappingAt t = context.callerProfile.mappingAt t')
    (hcallee : context.calleeProfile.mappingAt t = context.calleeProfile.mappingAt t') :
    selectConnectPlan context t callerPublic calleePublic =
      selectConnectPlan context t' callerPublic calleePublic := by
  unfold selectConnectPlan
  rw [hcaller, hcallee, NatProfile.hasUsableHint_congr hcaller,
    NatProfile.hasUsableHint_congr hcallee]

theorem selectConnectPlan_unknown
    (h : context.callerProfile.mappingAt now = .unknown ∨
      context.calleeProfile.mappingAt now = .unknown) :
    selectConnectPlan context now false false = .legacy := by
  unfold selectConnectPlan
  rcases h with h | h
  · simp [h]
  · simp [h]

/-- A plan that does not rest on a public party rests on two profiles that are fresh. -/
theorem fresh_of_selected (h : selectConnectPlan context now false false ≠ .legacy) :
    context.callerProfile.isFresh now = true ∧ context.calleeProfile.isFresh now = true := by
  refine ⟨NatProfile.isFresh_of_mappingAt_ne fun hunknown => ?_,
    NatProfile.isFresh_of_mappingAt_ne fun hunknown => ?_⟩
  · exact h (selectConnectPlan_unknown (.inl hunknown))
  · exact h (selectConnectPlan_unknown (.inr hunknown))

/-- Two parties that have a plan for the same snapshot have the same one, whatever their clocks
read. -/
theorem selectConnectPlan_agree (h : selectConnectPlan context t callerPublic calleePublic ≠ .legacy)
    (h' : selectConnectPlan context t' callerPublic calleePublic ≠ .legacy) :
    selectConnectPlan context t callerPublic calleePublic =
      selectConnectPlan context t' callerPublic calleePublic := by
  cases calleePublic with
  | true => rfl
  | false =>
    cases callerPublic with
    | true => rfl
    | false =>
      obtain ⟨hcaller, hcallee⟩ := fresh_of_selected h
      obtain ⟨hcaller', hcallee'⟩ := fresh_of_selected h'
      refine selectConnectPlan_congr ?_ ?_
      · rw [NatProfile.mappingAt_of_isFresh hcaller, NatProfile.mappingAt_of_isFresh hcaller']
      · rw [NatProfile.mappingAt_of_isFresh hcallee, NatProfile.mappingAt_of_isFresh hcallee']

/-- One party connects; its tunnel is a reverse one when that party is the callee, who has no
endpoints to predict of the caller. -/
structure ConnectPlan.Directed (plan : ConnectPlan) (party : PlanParty) : Prop where
  connector : plan.connector = some party
  reverse : plan.reverse = decide (party = .callee)
  candidates : party = .callee → plan.connectorCandidates = .base

theorem publicPlan_directed (party : PlanParty) : (publicPlan party).Directed party :=
  ⟨rfl, rfl, fun _ => rfl⟩

theorem matrixPlan_directed (strategy : ConnectStrategy) {party : PlanParty}
    {candidates : CandidateMode} (peerCandidates : CandidateMode)
    (h : party = .callee → candidates = .base) :
    (matrixPlan strategy party candidates peerCandidates).Directed party :=
  ⟨rfl, rfl, h⟩

namespace ConnectPlan.Directed

variable {plan : ConnectPlan} {party : PlanParty}

theorem rendezvousPlan (h : plan.Directed party) :
    ∃ rendezvous, plan.rendezvousPlan = some rendezvous := by
  unfold ConnectPlan.rendezvousPlan
  rw [h.connector]
  cases party with
  | caller => exact ⟨_, rfl⟩
  | callee => exact ⟨_, rfl⟩

theorem actionFor_ne (h : plan.Directed party) (other : PlanParty) :
    plan.actionFor other ≠ .legacy := by
  unfold ConnectPlan.actionFor
  rw [h.connector]
  dsimp only
  split_ifs
  · rintro ⟨⟩
  · cases plan.peerCandidates with
    | none => rintro ⟨⟩
    | some mode => rintro ⟨⟩

end ConnectPlan.Directed

theorem selectConnectPlan_directed (context : NatTraversalContext) (now : Timestamp)
    (callerPublic calleePublic : Bool) :
    selectConnectPlan context now callerPublic calleePublic = .legacy ∨
      ∃ party, (selectConnectPlan context now callerPublic calleePublic).Directed party := by
  unfold selectConnectPlan
  by_cases hcallee : calleePublic = true
  · exact .inr ⟨.caller, by rw [if_pos hcallee]; exact publicPlan_directed _⟩
  rw [if_neg hcallee]
  by_cases hcaller : callerPublic = true
  · exact .inr ⟨.callee, by rw [if_pos hcaller]; exact publicPlan_directed _⟩
  rw [if_neg hcaller]
  by_cases hversion : (!context.isSupported) = true
  · exact .inl (if_pos hversion)
  rw [if_neg hversion]
  dsimp only
  split_ifs with hunknown
  · exact .inl rfl
  all_goals
    split
    · exact .inr ⟨_, matrixPlan_directed _ _ fun _ => rfl⟩
    · exact .inr ⟨_, matrixPlan_directed _ _ fun _ => rfl⟩
    · exact .inr ⟨_, matrixPlan_directed _ _ fun _ => rfl⟩
    · exact .inr ⟨_, matrixPlan_directed _ _ (by rintro ⟨⟩)⟩
    · exact .inl rfl

end Selection

end Tunnel

end BuckyP2p
