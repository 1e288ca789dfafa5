import BuckyP2p.Directory.Membership
import BuckyP2p.Lib.Runs

/-!
# BuckyP2p.Directory.OwnerClient — the owners that a serving SN reaches (`directory/client.rs`)

`StaticOwnerDirectoryClient` keeps its own record of when it last had an answer from each owner, and
asks only those whose record is fresh.

* A run is a sequence of `publish_serving_lease` and `query_serving_leases`, with time passing
  between them and during the requests.  What the owners answer is in the event.
* `ownerScore` stands for the hash of a peer and a member.
* All calls come from one serving SN, with its id.  `sent` is not in the code: it is what was sent
  to which owner.
-/

namespace BuckyP2p.Directory

open Lib

structure ServingLease where
  peerId : P2pId
  servingSnId : P2pId
  sequence : U64
  expiresAt : Timestamp
  deriving DecidableEq

/-- `as_micros` of a duration in nanoseconds. -/
def durationToBuckyTime (duration : Nat) : Timestamp :=
  ⟨min (duration / 1000) (2 ^ 64 - 1), micros_lt duration⟩

def defaultOwnerMemberHealthTtl : Nat := 60000000000

/-- `ServingLease::new`. -/
def ServingLease.new (peerId servingSnId : P2pId) (sequence : U64) (ttl : Nat) (now : Timestamp) :
    ServingLease :=
  ⟨peerId, servingSnId, sequence, saturatingAdd now (durationToBuckyTime ttl)⟩

/-- A membership with the fields that the owner sets and the client read.  `leaseTtl` is in
nanoseconds. -/
structure ServingMembership extends OwnerMembership where
  ownerCount : Nat
  leaseTtl : Nat
  /-- The member has an endpoint. -/
  hasEndpoint : P2pId → Bool

namespace ServingMembership

variable (ownerScore : P2pId → P2pId → U64) (m : ServingMembership)

def memberHealthTtl : Nat := min m.leaseTtl defaultOwnerMemberHealthTtl

/-- The order of `scored`: the score downwards, then the id. -/
def ranked (left right : U64 × P2pId) : Prop :=
  right.1 < left.1 ∨ left.1 = right.1 ∧ left.2 ≤ right.2

instance : DecidableRel ranked := fun _ _ => inferInstanceAs (Decidable (_ ∨ _ ∧ _))

/-- The owner set of `owner_set_at` without a health record. -/
def staticOwnerSet (peerId : P2pId) : List P2pId :=
  -- `with_members` has raised an `owner_count` of 0
  let scored := m.members.map fun member => (ownerScore peerId member, member)
  ((scored.insertionSort ranked).take (min (max m.ownerCount 1) m.members.length)).map Prod.snd

/-- The keys of `owner_targets`. -/
def ownerTargets : List P2pId := m.members.filter m.hasEndpoint

end ServingMembership

inductive OwnerServingRequest
  | publishLease (lease : ServingLease)
  | queryLease (peerId : P2pId)
  deriving DecidableEq

inductive OwnerServingResponse
  | published (written : Bool)
  | leases (leases : List ServingLease)
  | error (err : P2pError)

/-- How long the request to an owner takes, and what comes back. -/
structure Contact where
  delay : U64
  response : P2pResult OwnerServingResponse

/-- `send_owner_serving_publish`. -/
def sendOwnerServingPublish : P2pResult OwnerServingResponse → P2pResult Bool
  | .ok (.published written) => .ok written
  | .ok (.error err) => .error err
  | .ok (.leases _) => .error ⟨.invalidData, "unexpected owner serving publish response"⟩
  | .error err => .error err

/-- `send_owner_serving_query`. -/
def sendOwnerServingQuery : P2pResult OwnerServingResponse → P2pResult (List ServingLease)
  | .ok (.leases leases) => .ok leases
  | .ok (.error err) => .error err
  | .ok (.published _) => .error ⟨.invalidData, "unexpected owner serving query response"⟩
  | .error err => .error err

/-- What does not change: the membership, whether there is a `serving_connector`, and whose client
it is. -/
structure StaticOwnerDirectoryClient where
  membership : ServingMembership
  servingConnector : Bool
  localSnId : P2pId

structure ClientState where
  now : Timestamp
  freshUntil : P2pId → Option Timestamp
  sent : List (P2pId × OwnerServingRequest)

namespace ClientState

/-- `refresh_at`, with the ttl in nanoseconds. -/
def refreshAt (s : ClientState) (ttl : Nat) (snId : P2pId) (now : Timestamp) : ClientState :=
  { s with
    freshUntil := Function.update s.freshUntil snId
      (some (saturatingAdd now (durationToBuckyTime ttl))) }

def isFresh (s : ClientState) (snId : P2pId) (now : Timestamp) : Bool :=
  match s.freshUntil snId with
  | some freshUntil => decide (now < freshUntil)
  | none => false

def pass (s : ClientState) (delay : U64) : ClientState := { s with now := saturatingAdd s.now delay }

end ClientState

/-- A step of a run; the answers of the owners are there for whoever is asked. -/
inductive ClientEvent
  | pass (delay : U64)
  | publishServingLease (peerId : P2pId) (sequence : U64) (contacts : P2pId → Contact)
  | queryServingLeases (peerId : P2pId) (contacts : P2pId → Contact)

namespace StaticOwnerDirectoryClient

variable (ownerScore : P2pId → P2pId → U64) (c : StaticOwnerDirectoryClient)

/-- The members of the membership are fresh at first. -/
def new (now : Timestamp) : ClientState :=
  c.membership.members.foldl (fun s member => s.refreshAt c.membership.memberHealthTtl member now)
    ⟨now, fun _ => none, []⟩

/-- `owner_set_at` with the record. -/
def ownerSet (s : ClientState) (peerId localSnId : P2pId) : List P2pId :=
  (c.membership.staticOwnerSet ownerScore peerId).filter fun member =>
    member == localSnId || s.isFresh member s.now

def refreshOwnerMember (s : ClientState) (memberSnId : P2pId) : ClientState :=
  if c.membership.isMember memberSnId then
    s.refreshAt c.membership.memberHealthTtl memberSnId s.now
  else s

def servingCmdClients : Option (List P2pId) :=
  if c.servingConnector then some c.membership.ownerTargets else none

/-- `publish_to_owner` and `query_owner`, with what they make of a response. -/
def askOwner {α : Type} (request : OwnerServingRequest)
    (send : P2pResult OwnerServingResponse → P2pResult α) (s : ClientState) (ownerSnId : P2pId)
    (contact : Contact) : ClientState × P2pResult α :=
  match c.servingCmdClients with
  | some clients =>
    if ownerSnId ∈ clients then
      ({ s.pass contact.delay with sent := s.sent ++ [(ownerSnId, request)] }, send contact.response)
    else (s, .error ⟨.notFound, "owner serving target endpoint missing"⟩)
  | none => (s, .error ⟨.notFound, "owner serving transport client missing"⟩)

def publishToOwner (lease : ServingLease) :=
  c.askOwner (.publishLease lease) sendOwnerServingPublish

def queryOwner (peerId : P2pId) := c.askOwner (.queryLease peerId) sendOwnerServingQuery

/-- The loop of both calls: every owner is asked, and who answers is refreshed. -/
def askOwners {α : Type} (ask : ClientState → P2pId → Contact → ClientState × P2pResult α)
    (contacts : P2pId → Contact) : ClientState → List P2pId → ClientState × List α
  | s, [] => (s, [])
  | s, ownerSnId :: owners =>
    match ask s ownerSnId (contacts ownerSnId) with
    | (s', .ok answer) =>
      let rest := askOwners ask contacts (c.refreshOwnerMember s' ownerSnId) owners
      (rest.1, answer :: rest.2)
    | (s', .error _) => askOwners ask contacts s' owners

def publishServingLease (s : ClientState) (localSnId peerId : P2pId) (sequence : U64)
    (contacts : P2pId → Contact) : ClientState × P2pResult Unit :=
  let lease := ServingLease.new peerId localSnId sequence c.membership.leaseTtl s.now
  let asked := c.askOwners (c.publishToOwner lease) contacts s
    (c.ownerSet ownerScore s peerId localSnId)
  (asked.1, if asked.2.any id then .ok ()
    else .error ⟨.notFound, "no owner accepted serving lease"⟩)

/-- The order of the result: the sequence downwards, then the id. -/
def newer (left right : ServingLease) : Prop :=
  right.sequence < left.sequence ∨
    left.sequence = right.sequence ∧ left.servingSnId ≤ right.servingSnId

instance : DecidableRel newer := fun _ _ => inferInstanceAs (Decidable (_ ∨ _ ∧ _))

def queryServingLeases (s : ClientState) (localSnId peerId : P2pId) (contacts : P2pId → Contact) :
    ClientState × P2pResult (List ServingLease) :=
  let asked := c.askOwners (c.queryOwner peerId) contacts s
    (c.ownerSet ownerScore s peerId localSnId)
  (asked.1, .ok ((asked.2.flatten.insertionSort newer).destutter
    (fun left right => left.servingSnId ≠ right.servingSnId)))

def step (s : ClientState) : ClientEvent → ClientState
  | .pass delay => s.pass delay
  | .publishServingLease peerId sequence contacts =>
    (c.publishServingLease ownerScore s c.localSnId peerId sequence contacts).1
  | .queryServingLeases peerId contacts =>
    (c.queryServingLeases ownerScore s c.localSnId peerId contacts).1

end StaticOwnerDirectoryClient

/-- The requests to the owner succeed. -/
def ClientEvent.Succeeds (owner : P2pId) : ClientEvent → Prop
  | .pass _ => True
  | .publishServingLease _ _ contacts =>
    ∃ written, sendOwnerServingPublish (contacts owner).response = .ok written
  | .queryServingLeases _ contacts =>
    ∃ leases, sendOwnerServingQuery (contacts owner).response = .ok leases

/-- From `s` to `s'` requests were sent, one of them to the owner. -/
def ClientState.Contacted (s s' : ClientState) (owner : P2pId) : Prop :=
  ∃ requests, s'.sent = s.sent ++ requests ∧ owner ∈ requests.map Prod.fst

/-- From `s` to `s'` no request was sent to the owner. -/
def ClientState.Unasked (s s' : ClientState) (owner : P2pId) : Prop :=
  ∃ requests, s'.sent = s.sent ++ requests ∧ owner ∉ requests.map Prod.fst

namespace StaticOwnerDirectoryClient

variable (ownerScore : P2pId → P2pId → U64) (c : StaticOwnerDirectoryClient)

/-- There is a continuation in which the owner answers, and in which it is asked. -/
def Contactable (s : ClientState) (owner : P2pId) : Prop :=
  ∃ evs : List ClientEvent, (∀ ev ∈ evs, ev.Succeeds owner) ∧
    s.Contacted (exec (c.step ownerScore) s evs) owner

/-- The client has a transport to the owner. -/
def Served (owner : P2pId) : Prop :=
  c.servingConnector = true ∧ owner ∈ c.membership.ownerTargets

instance (owner : P2pId) : Decidable (c.Served owner) := inferInstanceAs (Decidable (_ ∧ _))

/-- The filter of `owner_set_at` lets the owner through. -/
def Admitted (s : ClientState) (owner : P2pId) : Prop :=
  owner = c.localSnId ∨ s.isFresh owner s.now = true

instance (s : ClientState) (owner : P2pId) : Decidable (c.Admitted s owner) :=
  inferInstanceAs (Decidable (_ ∨ _))

end StaticOwnerDirectoryClient

namespace ClientState

variable {s s' s'' : ClientState} {owner : P2pId}

theorem Unasked.refl (s : ClientState) (owner : P2pId) : s.Unasked s owner :=
  ⟨[], by simp, by simp⟩

theorem Unasked.trans (h : s.Unasked s' owner) (h' : s'.Unasked s'' owner) : s.Unasked s'' owner := by
  obtain ⟨first, hfirst, hnot⟩ := h
  obtain ⟨second, hsecond, hnot'⟩ := h'
  refine ⟨first ++ second, by rw [hsecond, hfirst, List.append_assoc], ?_⟩
  rw [List.map_append, List.mem_append, not_or]
  exact ⟨hnot, hnot'⟩

/-- What was sent is one list. -/
theorem Unasked.not_contacted (h : s.Unasked s' owner) : ¬s.Contacted s' owner := by
  rintro ⟨requests, hrequests, hmem⟩
  obtain ⟨requests', hrequests', hnot⟩ := h
  have heq : requests = requests' := List.append_cancel_left (hrequests.symm.trans hrequests')
  exact hnot (heq ▸ hmem)

theorem Contacted.extend (h : s.Contacted s' owner) (hsent : s'.sent <+: s''.sent) :
    s.Contacted s'' owner := by
  obtain ⟨requests, hrequests, hmem⟩ := h
  obtain ⟨more, hmore⟩ := hsent
  refine ⟨requests ++ more, by rw [← hmore, hrequests, List.append_assoc], ?_⟩
  rw [List.map_append, List.mem_append]
  exact .inl hmem

theorem Contacted.after (h : s'.Contacted s'' owner) (hsent : s.sent <+: s'.sent) :
    s.Contacted s'' owner := by
  obtain ⟨requests, hrequests, hmem⟩ := h
  obtain ⟨before, hbefore⟩ := hsent
  refine ⟨before ++ requests, by rw [hrequests, ← hbefore, List.append_assoc], ?_⟩
  rw [List.map_append, List.mem_append]
  exact .inr hmem

/-- The owner is not asked, and its record is as old as it was. -/
structure Spared (s s' : ClientState) (owner : P2pId) : Prop where
  unasked : s.Unasked s' owner
  freshUntil : s'.freshUntil owner = s.freshUntil owner
  now : s.now ≤ s'.now

theorem Spared.refl (s : ClientState) (owner : P2pId) : s.Spared s owner :=
  ⟨.refl s owner, rfl, le_rfl⟩

theorem Spared.trans (h : s.Spared s' owner) (h' : s'.Spared s'' owner) : s.Spared s'' owner :=
  ⟨h.unasked.trans h'.unasked, h'.freshUntil.trans h.freshUntil, h.now.trans h'.now⟩

theorem le_saturatingAdd (a b : U64) : a ≤ saturatingAdd a b := by
  rw [Fin.le_def, saturatingAdd_val]
  omega

theorem pass_spared (s : ClientState) (delay : U64) (owner : P2pId) :
    s.Spared (s.pass delay) owner :=
  ⟨⟨[], by simp [pass], by simp⟩, rfl, le_saturatingAdd s.now delay⟩

theorem refreshAt_spared (s : ClientState) (ttl : Nat) {member : P2pId} (now : Timestamp)
    (hne : owner ≠ member) : s.Spared (s.refreshAt ttl member now) owner :=
  ⟨⟨[], by simp [refreshAt], by simp⟩, Function.update_of_ne hne .., le_rfl⟩

/-- A record that is not fresh does not become fresh with time. -/
theorem Spared.not_fresh (h : s.Spared s' owner) (hstale : ¬s.isFresh owner s.now = true) :
    ¬s'.isFresh owner s'.now = true := by
  unfold isFresh at hstale ⊢
  rw [h.freshUntil]
  cases hrecord : s.freshUntil owner with
  | none => simp
  | some freshUntil =>
    simp only [hrecord, decide_eq_true_eq, not_lt] at hstale ⊢
    exact hstale.trans h.now

end ClientState

namespace StaticOwnerDirectoryClient

variable {ownerScore : P2pId → P2pId → U64} {c : StaticOwnerDirectoryClient} {s s' : ClientState}
  {owner peerId : P2pId} {α : Type}

theorem mem_ownerSet : owner ∈ c.ownerSet ownerScore s peerId c.localSnId ↔
    owner ∈ c.membership.staticOwnerSet ownerScore peerId ∧ c.Admitted s owner := by
  simp [ownerSet, Admitted]

theorem askOwner_served (request : OwnerServingRequest)
    (send : P2pResult OwnerServingResponse → P2pResult α) (s : ClientState) (contact : Contact)
    (h : c.Served owner) :
    c.askOwner request send s owner contact =
      ({ s.pass contact.delay with sent := s.sent ++ [(owner, request)] }, send contact.response) := by
  obtain ⟨hconnector, htarget⟩ := h
  simp [askOwner, servingCmdClients, hconnector, htarget]

theorem askOwner_unserved (request : OwnerServingRequest)
    (send : P2pResult OwnerServingResponse → P2pResult α) (s : ClientState) (contact : Contact)
    (h : ¬c.Served owner) :
    ∃ err, c.askOwner request send s owner contact = (s, .error err) := by
  unfold askOwner servingCmdClients
  by_cases hconnector : c.servingConnector = true
  · have htarget : owner ∉ c.membership.ownerTargets := fun htarget => h ⟨hconnector, htarget⟩
    exact ⟨⟨.notFound, "owner serving target endpoint missing"⟩, by simp [hconnector, htarget]⟩
  · exact ⟨⟨.notFound, "owner serving transport client missing"⟩, by simp [hconnector]⟩

/-- Who is asked is the owner and nobody else. -/
theorem askOwner_spared (request : OwnerServingRequest)
    (send : P2pResult OwnerServingResponse → P2pResult α) (s : ClientState) (contact : Contact)
    {asked : P2pId} (hne : owner ≠ asked) :
    s.Spared (c.askOwner request send s asked contact).1 owner := by
  by_cases h : c.Served asked
  · rw [askOwner_served request send s contact h]
    exact ⟨⟨[(asked, request)], rfl, by simpa using hne⟩, rfl, ClientState.le_saturatingAdd ..⟩
  · obtain ⟨err, heq⟩ := askOwner_unserved request send s contact h
    rw [heq]
    exact .refl s owner

theorem refreshOwnerMember_spared (s : ClientState) {member : P2pId} (hne : owner ≠ member) :
    s.Spared (c.refreshOwnerMember s member) owner := by
  unfold refreshOwnerMember
  split_ifs
  · exact ClientState.refreshAt_spared s _ _ hne
  · exact .refl s owner

/-- Who is not in the list is spared. -/
theorem askOwners_spared (request : OwnerServingRequest)
    (send : P2pResult OwnerServingResponse → P2pResult α) (contacts : P2pId → Contact)
    (owners : List P2pId) (hnot : owner ∉ owners) (s : ClientState) :
    s.Spared (c.askOwners (c.askOwner request send) contacts s owners).1 owner := by
  induction owners generalizing s with
  | nil => exact .refl s owner
  | cons asked owners ih =>
    rw [List.mem_cons, not_or] at hnot
    obtain ⟨hne, hrest⟩ := hnot
    have hask := askOwner_spared (c := c) request send s (contacts asked) hne
    unfold askOwners
    generalize c.askOwner request send s asked (contacts asked) = answered at hask ⊢
    obtain ⟨s', answer⟩ := answered
    cases answer with
    | ok answer => exact (hask.trans (refreshOwnerMember_spared s' hne)).trans (ih hrest _)
    | error err => exact hask.trans (ih hrest s')

/-- Who has no transport is not asked. -/
theorem askOwners_unserved (request : OwnerServingRequest)
    (send : P2pResult OwnerServingResponse → P2pResult α) (contacts : P2pId → Contact)
    (owners : List P2pId) (hunserved : ¬c.Served owner) (s : ClientState) :
    s.Unasked (c.askOwners (c.askOwner request send) contacts s owners).1 owner := by
  induction owners generalizing s with
  | nil => exact .refl s owner
  | cons asked owners ih =>
    have hask : s.Unasked (c.askOwner request send s asked (contacts asked)).1 owner := by
      by_cases heq : owner = asked
      · subst heq
        obtain ⟨err, heq⟩ := askOwner_unserved request send s (contacts owner) hunserved
        rw [heq]
        exact .refl s owner
      · exact (askOwner_spared request send s (contacts asked) heq).unasked
    unfold askOwners
    generalize c.askOwner request send s asked (contacts asked) = answered at hask ⊢
    obtain ⟨s', answer⟩ := answered
    cases answer with
    | ok answer =>
      have hrefresh : s'.Unasked (c.refreshOwnerMember s' asked) owner := by
        unfold refreshOwnerMember
        split_ifs
        · exact ⟨[], by simp [ClientState.refreshAt], by simp⟩
        · exact .refl s' owner
      exact (hask.trans hrefresh).trans (ih _)
    | error err => exact hask.trans (ih s')

theorem askOwner_sent (request : OwnerServingRequest)
    (send : P2pResult OwnerServingResponse → P2pResult α) (s : ClientState) (asked : P2pId)
    (contact : Contact) : s.sent <+: (c.askOwner request send s asked contact).1.sent := by
  by_cases h : c.Served asked
  · rw [askOwner_served request send s contact h]
    exact List.prefix_append ..
  · obtain ⟨err, heq⟩ := askOwner_unserved request send s contact h
    exact heq ▸ List.prefix_rfl

theorem refreshOwnerMember_sent (s : ClientState) (member : P2pId) :
    (c.refreshOwnerMember s member).sent = s.sent := by
  unfold refreshOwnerMember
  split_ifs
  · rfl
  · rfl

theorem askOwners_sent (request : OwnerServingRequest)
    (send : P2pResult OwnerServingResponse → P2pResult α) (contacts : P2pId → Contact)
    (owners : List P2pId) (s : ClientState) :
    s.sent <+: (c.askOwners (c.askOwner request send) contacts s owners).1.sent := by
  induction owners generalizing s with
  | nil => exact List.prefix_rfl
  | cons asked owners ih =>
    have hask := askOwner_sent (c := c) request send s asked (contacts asked)
    unfold askOwners
    generalize c.askOwner request send s asked (contacts asked) = answered at hask ⊢
    obtain ⟨s', answer⟩ := answered
    cases answer with
    | ok answer =>
      have hrest := ih (c.refreshOwnerMember s' asked)
      rw [refreshOwnerMember_sent] at hrest
      exact hask.trans hrest
    | error err => exact hask.trans (ih s')

/-- Who is in the list and has a transport is asked. -/
theorem askOwners_contacted (request : OwnerServingRequest)
    (send : P2pResult OwnerServingResponse → P2pResult α) (contacts : P2pId → Contact)
    (owners : List P2pId) (hmem : owner ∈ owners) (hserved : c.Served owner) (s : ClientState) :
    s.Contacted (c.askOwners (c.askOwner request send) contacts s owners).1 owner := by
  induction owners generalizing s with
  | nil => cases hmem
  | cons asked owners ih =>
    have hsent := askOwner_sent (c := c) request send s asked (contacts asked)
    have hrest := fun s' => askOwners_sent (c := c) request send contacts owners s'
    have hself : owner = asked →
        s.Contacted (c.askOwner request send s asked (contacts asked)).1 owner := by
      rintro rfl
      rw [askOwner_served request send s (contacts owner) hserved]
      exact ⟨[(owner, request)], rfl, by simp⟩
    unfold askOwners
    generalize c.askOwner request send s asked (contacts asked) = answered at hsent hself ⊢
    obtain ⟨s', answer⟩ := answered
    rcases List.mem_cons.mp hmem with heq | hmem
    · cases answer with
      | ok answer => exact (hself heq).extend (refreshOwnerMember_sent (c := c) s' asked ▸ hrest _)
      | error err => exact (hself heq).extend (hrest s')
    · cases answer with
      | ok answer => exact (ih hmem _).after (by rwa [refreshOwnerMember_sent])
      | error err => exact (ih hmem s').after hsent

/-! ## Runs -/

/-- Whom the filter does not let through is not asked, and stays behind the filter. -/
theorem step_spared (h : ¬c.Admitted s owner) (ev : ClientEvent) :
    s.Spared (c.step ownerScore s ev) owner := by
  have hnot : ∀ peerId, owner ∉ c.ownerSet ownerScore s peerId c.localSnId :=
    fun peerId hmem => h (mem_ownerSet.mp hmem).2
  cases ev with
  | pass delay => exact ClientState.pass_spared s delay owner
  | publishServingLease peerId sequence contacts =>
    exact askOwners_spared _ _ contacts _ (hnot peerId) s
  | queryServingLeases peerId contacts => exact askOwners_spared _ _ contacts _ (hnot peerId) s

theorem step_unserved (h : ¬c.Served owner) (s : ClientState) (ev : ClientEvent) :
    s.Unasked (c.step ownerScore s ev) owner := by
  cases ev with
  | pass delay => exact (ClientState.pass_spared s delay owner).unasked
  | publishServingLease peerId sequence contacts => exact askOwners_unserved _ _ contacts _ h s
  | queryServingLeases peerId contacts => exact askOwners_unserved _ _ contacts _ h s

theorem exec_spared (h : ¬c.Admitted s owner) (evs : List ClientEvent) :
    s.Spared (exec (c.step ownerScore) s evs) owner := by
  refine exec_inv_all (I := fun s' => s.Spared s' owner) ?_ (.refl s owner) evs
  intro s' ev hspared
  have hstill : ¬c.Admitted s' owner := by
    rw [Admitted, not_or] at h ⊢
    exact ⟨h.1, hspared.not_fresh h.2⟩
  exact hspared.trans (step_spared hstill ev)

theorem exec_unserved (h : ¬c.Served owner) (s : ClientState) (evs : List ClientEvent) :
    s.Unasked (exec (c.step ownerScore) s evs) owner :=
  exec_inv_all (I := fun s' => s.Unasked s' owner)
    (fun s' ev hunasked => hunasked.trans (step_unserved h s' ev)) (.refl s owner) evs

/-- In any state, an owner can be asked again if and only if it is asked at once. -/
theorem contactable_iff_admitted (h : owner ∈ c.membership.staticOwnerSet ownerScore peerId) :
    c.Contactable ownerScore s owner ↔ c.Served owner ∧ c.Admitted s owner := by
  constructor
  · rintro ⟨evs, -, hcontacted⟩
    constructor
    · by_contra hserved
      exact (exec_unserved hserved s evs).not_contacted hcontacted
    · by_contra hadmitted
      exact (exec_spared hadmitted evs).unasked.not_contacted hcontacted
  · rintro ⟨hserved, hadmitted⟩
    let contacts : P2pId → Contact := fun _ => ⟨0, .ok (.leases [])⟩
    refine ⟨[.queryServingLeases peerId contacts], ?_, ?_⟩
    · intro ev hev
      rw [List.mem_singleton] at hev
      exact hev ▸ ⟨[], rfl⟩
    · exact askOwners_contacted _ _ contacts _ (mem_ownerSet.mpr ⟨h, hadmitted⟩) hserved s

/-- In a state of a run, an owner of a peer can be asked again if and only if the client has a
transport to it, and it is the serving SN itself or its record has not expired. -/
theorem run_contactable_iff (ownerScore : P2pId → P2pId → U64) (c : StaticOwnerDirectoryClient)
    (now : Timestamp) (evs : List ClientEvent) (peerId owner : P2pId)
    (h : owner ∈ c.membership.staticOwnerSet ownerScore peerId) :
    c.Contactable ownerScore (exec (c.step ownerScore) (c.new now) evs) owner ↔
      c.Served owner ∧ c.Admitted (exec (c.step ownerScore) (c.new now) evs) owner :=
  contactable_iff_admitted h

/-- The client of the SN `[9]`; every member of `trio` is an owner of every peer. -/
def trioClient : StaticOwnerDirectoryClient :=
  ⟨⟨.trio, 3, 300000000000, fun _ => true⟩, true, [9]⟩

def evenScore (_ _ : P2pId) : U64 := 0

theorem trio_contactable : trioClient.Contactable evenScore (trioClient.new 0) [1] :=
  (run_contactable_iff evenScore trioClient 0 [] [5] [1] (by decide +kernel)).mpr
    ⟨by decide +kernel, by decide +kernel⟩

/-- The client is idle for one minute. -/
theorem trio_idle : ¬∀ (ownerScore : P2pId → P2pId → U64) (c : StaticOwnerDirectoryClient)
    (now : Timestamp) (evs : List ClientEvent) (peerId owner : P2pId),
    owner ∈ c.membership.staticOwnerSet ownerScore peerId →
      c.Contactable ownerScore (exec (c.step ownerScore) (c.new now) evs) owner := by
  intro hall
  have hcontactable := hall evenScore trioClient 0 [.pass 60000000] [5] [1] (by decide +kernel)
  have howner : [1] ∈ trioClient.membership.staticOwnerSet evenScore [5] := by decide +kernel
  have hadmitted := ((contactable_iff_admitted howner).mp hcontactable).2
  exact absurd hadmitted (by decide +kernel)

end StaticOwnerDirectoryClient

end BuckyP2p.Directory
