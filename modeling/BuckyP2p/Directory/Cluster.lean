import BuckyP2p.Lib.Runs
import BuckyP2p.Directory.Pieces

/-!
# BuckyP2p.Directory.Cluster — the owners of one membership on a network

One host for each member.  Packets are only ever added to `sent`, and any packet may be delivered
at any time, once, several times or never: this is loss, delay and duplication.  Everything that is
not a member is an `outsider`, which may send any request under its own authenticated id.

* `step`: one action, at one host.
* `Wired`: the transport invariant.  A request is named by its sender, call and number; a call
  that waits has sent its request; a call that serves a request has received it.
* `Spec`: an assertion over nodes, suspended calls, packets and events that can only become more
  true as the trace grows.  `Spec.inv_step` reduces its preservation to the single pieces.
-/

namespace BuckyP2p.Directory

open Lib

inductive Body
  | request (r : Request)
  | response (r : Response)
  deriving DecidableEq, Repr

structure Packet where
  src : P2pId
  dst : P2pId
  req : ReqId
  body : Body
  deriving DecidableEq, Repr

def Output.packet (src : P2pId) : Output → Packet
  | .request dst req r => ⟨src, dst, req, .request r⟩
  | .response dst req r => ⟨src, dst, req, .response r⟩

/-- All packets sent and all events so far. -/
structure Trace where
  sent : List Packet
  history : List (P2pId × Event)

structure Cluster where
  hosts : P2pId → Host
  trace : Trace

inductive Action
  | startElection (id : P2pId) (now : Timestamp)
  | sendHeartbeat (id : P2pId) (now : Timestamp)
  | submit (id : P2pId) (entry : OwnerSessionEntry) (now : Timestamp)
  /-- The request `req` of `id` fails or times out. -/
  | fail (id : P2pId) (req : ReqId)
  | resume (id : P2pId) (call : Nat)
  /-- The `k`-th packet arrives. -/
  | deliver (k : Nat) (now : Timestamp)
  | outsider (src dst : P2pId) (req : ReqId) (request : Request) (now : Timestamp)
  deriving DecidableEq, Repr

namespace Cluster

def receive (p : Packet) (now : Timestamp) : Input :=
  match p.body with
  | .request r => .recv p.src p.req r now
  | .response r => .answer p.src p.req r

/-- The host that an action is for, and its input. -/
def target (m : OwnerMembership) (c : Cluster) : Action → Option (P2pId × Input)
  | .startElection id now => some (id, .startElection now)
  | .sendHeartbeat id now => some (id, .sendHeartbeat now)
  | .submit id entry now => some (id, .submit entry now)
  | .fail id req => some (id, .fail req)
  | .resume id call => some (id, .resume call)
  | .deliver k now => c.trace.sent[k]?.map fun p => (p.dst, receive p now)
  | .outsider src dst req request now =>
    if m.isMember src then none else some (dst, .recv src req request now)

/-- The host `id` takes the input `i`. -/
def run (c : Cluster) (id : P2pId) (i : Input) : Cluster :=
  let r := (c.hosts id).step i
  { hosts := Function.update c.hosts id r.1
    trace :=
      { sent := c.trace.sent ++ r.2.outputs.map (Output.packet id)
        history := c.trace.history ++ r.2.events.map (id, ·) } }

/-- Only the members run a node. -/
def step (m : OwnerMembership) (c : Cluster) (a : Action) : Cluster :=
  match c.target m a with
  | some (id, i) => if m.isMember id then c.run id i else c
  | none => c

/-- Every node as `OwnerElectionNode::new` builds it.  A single member starts as the leader of
term 1 by its own vote. -/
def init (m : OwnerMembership) (cps : P2pId → OwnerControlPlane) (nows : P2pId → Timestamp) :
    Cluster where
  hosts id := .init (.new id m (cps id) (nows id))
  trace :=
    { sent := []
      history := m.members.flatMap fun id =>
        if m.members.length = 1 then [(id, .voted 1 id), (id, .led 1)] else [] }

/-- Every node as `OwnerElectionNode::with_control_plane` builds it. -/
def boot (m : OwnerMembership) (nows : P2pId → Timestamp) : Cluster :=
  init m (fun _ => .new m) nows

end Cluster

/-! ## What a step can do -/

/-- Where an input of the host `id` comes from. -/
def Arises (m : OwnerMembership) (t : Trace) (id : P2pId) : Input → Prop
  | .recv remote req r _ => ⟨remote, id, req, .request r⟩ ∈ t.sent ∨ remote ∉ m.members
  | .answer remote req r => ⟨remote, id, req, .response r⟩ ∈ t.sent
  | _ => True

/-- The trace after an effect of the call `k` of `id`. -/
def Trace.after (t : Trace) (id : P2pId) (k s : Nat) (e : Effect) : Trace where
  sent := t.sent ++
    ((e.call.bind (Call.request id)).map fun p =>
      (⟨id, p.1, ⟨k, s + 1⟩, .request p.2⟩ : Packet)).toList ++
    (e.reply.map fun p => (⟨id, p.1, p.2.1, .response p.2.2⟩ : Packet)).toList
  history := t.history ++ e.events.map (id, ·)

namespace Cluster

variable {m : OwnerMembership} {c : Cluster}

theorem target_arises {a : Action} {id : P2pId} {i : Input} (h : c.target m a = some (id, i)) :
    Arises m c.trace id i := by
  cases a with
  | deliver k now =>
    obtain ⟨p, hp, heq⟩ := Option.map_eq_some_iff.mp h
    cases heq
    have hmem := List.mem_of_getElem? hp
    unfold receive
    obtain ⟨src, dst, req, body⟩ := p
    cases body with
    | request r => exact .inl hmem
    | response r => exact hmem
  | outsider src dst req request now =>
    simp only [target] at h
    split_ifs at h with hm
    cases h
    exact .inr (mt (OwnerMembership.isMember_iff m src).mpr hm)
  | _ => cases h; trivial

/-- **What a step of the cluster can do**: nothing, or one piece of a call of a member. -/
theorem step_cases (m : OwnerMembership) (c : Cluster) (a : Action)
    (hl : ∀ id, (c.hosts id).node.localOwnerId = id) :
    c.step m a = c ∨ ∃ id i k s e, c.target m a = some (id, i) ∧ id ∈ m.members ∧
      Arises m c.trace id i ∧ Host.Piece (c.hosts id) i k s e ∧
      c.step m a =
        { hosts := Function.update c.hosts id ((c.hosts id).perform k s e).1
          trace := c.trace.after id k s e } := by
  unfold step
  split
  · rename_i id i ht
    split_ifs with hm
    · rcases (c.hosts id).step_cases i with hs | ⟨k, s, e, hp, hs⟩
      · refine .inl ?_
        simp [run, hs]
      · refine .inr ⟨id, i, k, s, e, ht, by simpa using hm, target_arises ht, hp, ?_⟩
        have hout : ((c.hosts id).perform k s e).2.outputs.map (Output.packet id) =
            ((e.call.bind (Call.request id)).map fun p =>
              (⟨id, p.1, ⟨k, s + 1⟩, .request p.2⟩ : Packet)).toList ++
            (e.reply.map fun p => (⟨id, p.1, p.2.1, .response p.2.2⟩ : Packet)).toList := by
          rw [Host.perform, hl id]
          cases e.call.bind (Call.request id) <;> cases e.reply <;> rfl
        simp only [run, hs, hout, Trace.after, List.append_assoc]
        rfl
    · exact .inl rfl
  · exact .inl rfl

end Cluster

/-! ## Traces -/

namespace Trace

/-- `t'` has all packets and events of `t`. -/
def Le (t t' : Trace) : Prop := t.sent ⊆ t'.sent ∧ t.history ⊆ t'.history

variable {t : Trace} {id : P2pId} {k s : Nat} {e : Effect}

theorem mem_after_sent {p : Packet} :
    p ∈ (t.after id k s e).sent ↔ p ∈ t.sent ∨
      (∃ c ∈ e.call, ∃ dst r, c.request id = some (dst, r) ∧
        p = ⟨id, dst, ⟨k, s + 1⟩, .request r⟩) ∨
      ∃ q ∈ e.reply, p = ⟨id, q.1, q.2.1, .response q.2.2⟩ := by
  simp only [after, List.append_assoc, List.mem_append, Option.mem_toList, Option.mem_def,
    Option.map_eq_some_iff, Option.bind_eq_some_iff, Prod.exists]
  constructor
  · rintro (h | ⟨dst, r, ⟨c, hc, hr⟩, rfl⟩ | ⟨dst, req, r, hr, rfl⟩)
    · exact .inl h
    · exact .inr (.inl ⟨c, hc, dst, r, hr, rfl⟩)
    · exact .inr (.inr ⟨dst, req, r, hr, rfl⟩)
  · rintro (h | ⟨c, hc, dst, r, hr, rfl⟩ | ⟨dst, req, r, hr, rfl⟩)
    · exact .inl h
    · exact .inr (.inl ⟨dst, r, ⟨c, hc, hr⟩, rfl⟩)
    · exact .inr (.inr ⟨dst, req, r, hr, rfl⟩)

theorem mem_after_request {src dst : P2pId} {req : ReqId} {r : Request}
    (h : ⟨src, dst, req, .request r⟩ ∈ (t.after id k s e).sent) :
    ⟨src, dst, req, .request r⟩ ∈ t.sent ∨
      (src = id ∧ req = ⟨k, s + 1⟩ ∧ ∃ c ∈ e.call, c.request id = some (dst, r)) := by
  rcases mem_after_sent.mp h with h | ⟨c, hc, dst', r', hr, heq⟩ | ⟨q, -, heq⟩
  · exact .inl h
  · cases heq
    exact .inr ⟨rfl, rfl, c, hc, hr⟩
  · rw [Packet.mk.injEq] at heq
    cases heq.2.2.2

theorem mem_after_history {x : P2pId × Event} :
    x ∈ (t.after id k s e).history ↔ x ∈ t.history ∨ ∃ ev ∈ e.events, x = (id, ev) := by
  simp only [after, List.mem_append, List.mem_map]
  exact or_congr Iff.rfl ⟨fun ⟨ev, h, heq⟩ => ⟨ev, h, heq.symm⟩, fun ⟨ev, h, heq⟩ => ⟨ev, h, heq.symm⟩⟩

theorem le_after : t.Le (t.after id k s e) :=
  ⟨fun _ h => mem_after_sent.mpr (.inl h), fun _ h => mem_after_history.mpr (.inl h)⟩

end Trace

/-! ## The transport invariant -/

structure Wired (m : OwnerMembership) (c : Cluster) : Prop where
  owner : ∀ id, (c.hosts id).node.localOwnerId = id
  membership : ∀ id, (c.hosts id).node.membership = m
  fresh : ∀ id k, (c.hosts id).next ≤ k → (c.hosts id).calls k = none
  asked : ∀ id k cl s, (c.hosts id).calls k = some (cl, s) → ∀ dst r,
    cl.request id = some (dst, r) → ⟨id, dst, ⟨k, s⟩, .request r⟩ ∈ c.trace.sent
  numbered : ∀ src dst k s r, ⟨src, dst, ⟨k, s⟩, .request r⟩ ∈ c.trace.sent →
    k < (c.hosts src).next ∧ ∀ cl s', (c.hosts src).calls k = some (cl, s') → s ≤ s'
  unique : ∀ src req dst r dst' r', ⟨src, dst, req, .request r⟩ ∈ c.trace.sent →
    ⟨src, dst', req, .request r'⟩ ∈ c.trace.sent → dst = dst' ∧ r = r'
  serves : ∀ id k cl s, (c.hosts id).calls k = some (cl, s) → ∀ remote req r,
    cl.serves = some (remote, req, r) → ⟨remote, id, req, .request r⟩ ∈ c.trace.sent
  led : ∀ id, (c.hosts id).node.state.role = .leader →
    (id, .led (c.hosts id).node.state.currentTerm) ∈ c.trace.history

namespace Wired

variable {m : OwnerMembership} {c : Cluster}

/-- Requests that were sent before have another name than the new request of the piece. -/
theorem new_name (hw : Wired m c) {id : P2pId} {i : Input} {k s : Nat} {e : Effect}
    (hp : Host.Piece (c.hosts id) i k s e) {dst : P2pId} {r : Request} :
    ⟨id, dst, ⟨k, s + 1⟩, .request r⟩ ∉ c.trace.sent := by
  intro h
  obtain ⟨hlt, hle⟩ := hw.numbered _ _ _ _ _ h
  rcases hp.place with ⟨rfl, -⟩ | ⟨cl, hcl⟩
  · exact absurd hlt (lt_irrefl _)
  · exact absurd (hle _ _ hcl) (by omega)

/-- The call that a piece leaves behind serves a request that was received. -/
theorem serves_piece (hw : Wired m c) {id : P2pId} {i : Input} {k s : Nat} {e : Effect}
    (ha : Arises m c.trace id i) (hp : Host.Piece (c.hosts id) i k s e) {cl : Call}
    (hcl : cl ∈ e.call) {remote : P2pId} {req : ReqId} {r : Request}
    (hs : cl.serves = some (remote, req, r)) : ⟨remote, id, req, .request r⟩ ∈ c.trace.sent := by
  have hserv : (c.hosts id).serving i = some (remote, req, r) := by
    rcases hp.serves.call cl hcl with h | h
    · rw [h] at hs
      cases hs
    · rw [← h, hs]
  have hold : ∀ k', ((c.hosts id).calls k').bind (fun p => p.1.serves) = some (remote, req, r) →
      ⟨remote, id, req, .request r⟩ ∈ c.trace.sent := by
    intro k' h
    obtain ⟨⟨cl', s'⟩, hc, hs'⟩ := Option.bind_eq_some_iff.mp h
    exact hw.serves id k' cl' s' hc _ _ _ hs'
  cases i with
  | recv remote' req' r' now =>
    cases hserv
    refine ha.resolve_right fun hout => ?_
    -- an outsider leaves no call behind
    have hnone := (hp.ignores (.inl (by rwa [hw.membership]))).2.1
    rw [hnone] at hcl
    cases hcl
  | answer remote' req' r' => exact hold _ hserv
  | fail req' => exact hold _ hserv
  | resume k' => exact hold _ hserv
  | _ => cases hserv

theorem step (hw : Wired m c) (a : Action) : Wired m (c.step m a) := by
  rcases c.step_cases m a hw.owner with hs | ⟨id, i, k, s, e, -, hid, ha, hp, hs⟩
  · rwa [hs]
  rw [hs]
  have hkeep := hp.keeps
  refine ⟨?_, ?_, ?_, ?_, ?_, ?_, ?_, ?_⟩
  · exact (Function.forall_update_iff c.hosts fun x h => h.node.localOwnerId = x).mpr
      ⟨hkeep.1.trans (hw.owner id), fun x _ => hw.owner x⟩
  · exact (Function.forall_update_iff c.hosts fun _ h => h.node.membership = m).mpr
      ⟨hkeep.2.trans (hw.membership id), fun x _ => hw.membership x⟩
  · refine (Function.forall_update_iff c.hosts fun _ h => ∀ k, h.next ≤ k → h.calls k = none).mpr
      ⟨fun k' hk' => ?_, fun x _ => hw.fresh x⟩
    rw [Host.perform_next] at hk'
    cases hc : ((c.hosts id).perform k s e).1.calls k' with
    | none => rfl
    | some p =>
      rcases Host.perform_calls hc with ⟨rfl, -⟩ | ⟨-, hc⟩
      · omega
      · rw [hw.fresh id k' (by omega)] at hc
        cases hc
  · refine (Function.forall_update_iff c.hosts fun x h => ∀ k cl s, h.calls k = some (cl, s) →
      ∀ dst r, cl.request x = some (dst, r) →
        (⟨x, dst, ⟨k, s⟩, .request r⟩ : Packet) ∈ (c.trace.after id _ _ e).sent).mpr
      ⟨fun k' cl s' hc dst r hr => ?_, fun x _ k' cl s' hc dst r hr => ?_⟩
    · rcases Host.perform_calls hc with ⟨rfl, rfl, hcl⟩ | ⟨-, hc⟩
      · exact Trace.mem_after_sent.mpr (.inr (.inl ⟨cl, hcl, dst, r, hr, rfl⟩))
      · exact Trace.mem_after_sent.mpr (.inl (hw.asked id k' cl s' hc dst r hr))
    · exact Trace.mem_after_sent.mpr (.inl (hw.asked x k' cl s' hc dst r hr))
  · intro src dst k' s' r hp'
    refine (Function.forall_update_iff c.hosts fun x h => x = src →
      k' < h.next ∧ ∀ cl s'', h.calls k' = some (cl, s'') → s' ≤ s'').mpr
      ⟨fun hxs => ?_, fun x hx hxs => ?_⟩ src rfl
    · subst hxs
      rw [Host.perform_next]
      rcases Trace.mem_after_request hp' with h | ⟨-, hreq, -⟩
      · obtain ⟨hlt, hle⟩ := hw.numbered _ _ _ _ _ h
        refine ⟨by omega, fun cl s'' hc => ?_⟩
        rcases Host.perform_calls hc with ⟨rfl, rfl, -⟩ | ⟨-, hc⟩
        · rcases hp.place with ⟨rfl, -⟩ | ⟨cl', hcl'⟩
          · exact absurd hlt (lt_irrefl _)
          · exact (hle _ _ hcl').trans (Nat.le_succ _)
        · exact hle _ _ hc
      · cases hreq
        refine ⟨by omega, fun cl s'' hc => ?_⟩
        rcases Host.perform_calls hc with ⟨-, rfl, -⟩ | ⟨hne, -⟩
        · exact le_rfl
        · exact absurd rfl hne
    · subst hxs
      rcases Trace.mem_after_request hp' with h | ⟨h, -⟩
      · exact hw.numbered _ _ _ _ _ h
      · exact absurd h hx
  · intro src req dst r dst' r' h h'
    rcases Trace.mem_after_request h with hold | ⟨rfl, rfl, cl, hcl, hr⟩
    · rcases Trace.mem_after_request h' with hold' | ⟨rfl, rfl, -⟩
      · exact hw.unique _ _ _ _ _ _ hold hold'
      · exact absurd hold (hw.new_name hp)
    · rcases Trace.mem_after_request h' with hold' | ⟨-, -, cl', hcl', hr'⟩
      · exact absurd hold' (hw.new_name hp)
      · cases Option.some.inj (hcl.symm.trans hcl')
        cases Option.some.inj (hr.symm.trans hr')
        exact ⟨rfl, rfl⟩
  · refine (Function.forall_update_iff c.hosts fun x h => ∀ k cl s, h.calls k = some (cl, s) →
      ∀ remote req r, cl.serves = some (remote, req, r) →
        (⟨remote, x, req, .request r⟩ : Packet) ∈ (c.trace.after id _ _ e).sent).mpr
      ⟨fun k' cl s' hc remote req r hr => ?_, fun x _ k' cl s' hc remote req r hr => ?_⟩
    · refine Trace.mem_after_sent.mpr (.inl ?_)
      rcases Host.perform_calls hc with ⟨rfl, rfl, hcl⟩ | ⟨-, hc⟩
      · exact hw.serves_piece ha hp hcl hr
      · exact hw.serves id k' cl s' hc remote req r hr
    · exact Trace.mem_after_sent.mpr (.inl (hw.serves x k' cl s' hc remote req r hr))
  · refine (Function.forall_update_iff c.hosts fun x h => h.node.state.role = .leader →
      (x, .led h.node.state.currentTerm) ∈ (c.trace.after id _ _ e).history).mpr
      ⟨fun hl => ?_, fun x _ hl => Trace.mem_after_history.mpr (.inl (hw.led x hl))⟩
    rcases hp.leader hl with ⟨hl', heq⟩ | hev
    · have hold := hw.led id hl'
      rw [heq] at hold
      exact Trace.mem_after_history.mpr (.inl hold)
    · exact Trace.mem_after_history.mpr (.inr ⟨_, hev, rfl⟩)

theorem init (m : OwnerMembership) (cps : P2pId → OwnerControlPlane) (nows : P2pId → Timestamp) :
    Wired m (.init m cps nows) where
  owner _ := rfl
  membership _ := rfl
  fresh _ _ _ := rfl
  asked _ _ _ _ h := by cases h
  numbered _ _ _ _ _ h := by cases h
  unique _ _ _ _ _ _ h := by cases h
  serves _ _ _ _ h := by cases h
  led id h := by
    obtain ⟨hone, hid, hterm⟩ := OwnerElectionNode.new_leader h
    refine List.mem_flatMap.mpr ⟨id, hid, ?_⟩
    rw [if_pos hone]
    exact List.mem_cons_of_mem _ (List.mem_singleton.mpr (by rw [← hterm]; rfl))

/-- Packets and events are never taken back. -/
theorem le_step (hw : Wired m c) (a : Action) : c.trace.Le (c.step m a).trace := by
  rcases c.step_cases m a hw.owner with hs | ⟨id, i, k, s, e, -, -, -, -, hs⟩
  · rw [hs]
    exact ⟨fun _ h => h, fun _ h => h⟩
  · rw [hs]
    exact Trace.le_after

theorem le_exec (hw : Wired m c) (as : List Action) :
    c.trace.Le (Lib.exec (Cluster.step m) c as).trace := by
  refine (exec_inv_all (I := fun c' => Wired m c' ∧ c.trace.Le c'.trace) ?_ ⟨hw, ?_⟩ as).2
  · rintro c' a ⟨hw', hle⟩
    have hstep := hw'.le_step a
    exact ⟨hw'.step a, fun _ h => hstep.1 (hle.1 h), fun _ h => hstep.2 (hle.2 h)⟩
  · exact ⟨fun _ h => h, fun _ h => h⟩

theorem exec (hw : Wired m c) (as : List Action) : Wired m (Lib.exec (Cluster.step m) c as) :=
  exec_inv_all (fun _ a h => h.step a) hw as

/-- **The answer that a call gets is the answer to its request.** -/
theorem answers (hw : Wired m c) {id remote : P2pId} {req : ReqId} {cl : Call}
    (hc : (c.hosts id).calls req.call = some (cl, req.seq)) (ha : cl.awaits = some remote)
    {r : Request} (hr : ⟨id, remote, req, .request r⟩ ∈ c.trace.sent) :
    cl.request id = some (remote, r) := by
  have hreq : ∃ r', cl.request id = some (remote, r') := by
    cases cl <;> first
      | (cases ha; exact ⟨_, rfl⟩)
      | cases ha
  obtain ⟨r', hr'⟩ := hreq
  have hsent := hw.asked id req.call cl req.seq hc remote r' hr'
  rw [hr', (hw.unique _ _ _ _ _ _ hsent hr).2]

end Wired

/-! ## Assertions that only become more true -/

/-- An assertion over the parts of a cluster, relative to the trace. -/
structure Spec where
  node : Trace → P2pId → OwnerElectionNode → Prop
  call : Trace → P2pId → Nat → Call → Prop
  packet : Trace → Packet → Prop
  event : Trace → P2pId → Event → Prop

namespace Spec

variable (S : Spec)

structure Mono : Prop where
  node : ∀ {t t'}, t.Le t' → ∀ {id n}, S.node t id n → S.node t' id n
  call : ∀ {t t'}, t.Le t' → ∀ {id k c}, S.call t id k c → S.call t' id k c
  packet : ∀ {t t'}, t.Le t' → ∀ {p}, S.packet t p → S.packet t' p
  event : ∀ {t t'}, t.Le t' → ∀ {id ev}, S.event t id ev → S.event t' id ev

structure Inv (c : Cluster) : Prop where
  node : ∀ id, S.node c.trace id (c.hosts id).node
  call : ∀ id k cl s, (c.hosts id).calls k = some (cl, s) → S.call c.trace id k cl
  packet : ∀ p ∈ c.trace.sent, S.packet c.trace p
  event : ∀ id ev, (id, ev) ∈ c.trace.history → S.event c.trace id ev

/-- What a piece of the call `k` of `id` owes, in the trace after it. -/
structure Ok (t : Trace) (id : P2pId) (k s : Nat) (e : Effect) : Prop where
  node : S.node t id e.node
  call : ∀ cl ∈ e.call, S.call t id k cl
  request : ∀ cl ∈ e.call, ∀ dst r, cl.request id = some (dst, r) →
    S.packet t ⟨id, dst, ⟨k, s + 1⟩, .request r⟩
  reply : ∀ dst req r, (dst, req, r) ∈ e.reply → S.packet t ⟨id, dst, req, .response r⟩
  event : ∀ ev ∈ e.events, S.event t id ev

variable {S} {m : OwnerMembership} {c : Cluster}

theorem Ok.event_cons {t : Trace} {id : P2pId} {k s : Nat} {e : Effect} {ev : Event}
    (h : S.Ok t id k s e) (hev : S.event t id ev) :
    S.Ok t id k s { e with events := ev :: e.events } where
  node := h.node
  call := h.call
  request := h.request
  reply := h.reply
  event ev' hev' := by
    rcases List.mem_cons.mp hev' with rfl | hev'
    · exact hev
    · exact h.event ev' hev'

/-- **Step rule.**  The assertion is preserved when every piece pays what it owes. -/
theorem inv_step (hS : S.Mono) (hw : Wired m c) (hI : S.Inv c) (a : Action)
    (hok : ∀ id i k s e, c.target m a = some (id, i) → id ∈ m.members → Arises m c.trace id i →
      Host.Piece (c.hosts id) i k s e → S.Ok (c.trace.after id k s e) id k s e) :
    S.Inv (c.step m a) := by
  rcases c.step_cases m a hw.owner with hs | ⟨id, i, k, s, e, ht, hid, ha, hp, hs⟩
  · rwa [hs]
  rw [hs]
  have hle : c.trace.Le (c.trace.after id k s e) := Trace.le_after
  have hk := hok id i k s e ht hid ha hp
  refine ⟨?_, ?_, ?_, ?_⟩
  · exact (Function.forall_update_iff c.hosts fun x h => S.node _ x h.node).mpr
      ⟨hk.node, fun x _ => hS.node hle (hI.node x)⟩
  · refine (Function.forall_update_iff c.hosts fun x h => ∀ k cl s, h.calls k = some (cl, s) →
      S.call _ x k cl).mpr ⟨fun k' cl s' hc => ?_, fun x _ k' cl s' hc => ?_⟩
    · rcases Host.perform_calls hc with ⟨rfl, -, hcl⟩ | ⟨-, hc⟩
      · exact hk.call cl hcl
      · exact hS.call hle (hI.call id k' cl s' hc)
    · exact hS.call hle (hI.call x k' cl s' hc)
  · intro p hpk
    rcases Trace.mem_after_sent.mp hpk with h | ⟨cl, hcl, dst, r, hr, rfl⟩ | ⟨q, hq, rfl⟩
    · exact hS.packet hle (hI.packet p h)
    · exact hk.request cl hcl dst r hr
    · exact hk.reply _ _ _ hq
  · intro x ev hev
    rcases Trace.mem_after_history.mp hev with h | ⟨ev', hev', heq⟩
    · exact hS.event hle (hI.event x ev h)
    · cases heq
      exact hk.event ev hev'

end Spec

end BuckyP2p.Directory
