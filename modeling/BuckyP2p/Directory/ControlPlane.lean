import BuckyP2p.Directory.Membership

/-!
# BuckyP2p.Directory.ControlPlane — the control plane of `control_plane.rs`

The state behind `OwnerControlPlane`'s lock and the operations that the election node runs on it:
`set_known_leader` and `apply_committed_session_entry`.  The session table is a function (only
`get`, `insert` and `get_mut` are used).  `active_voters` is read by `elect_leader` and
`append_as_leader` only, which the election node does not call.
-/

namespace BuckyP2p.Directory

inductive ServingSnSessionState
  | online | offline
  deriving DecidableEq, Repr

structure ServingSnSession where
  servingSnId : P2pId
  state : ServingSnSessionState
  expiresAt : Timestamp
  deriving DecidableEq, Repr

inductive OwnerSessionEntry
  | renewServingSession (session : ServingSnSession)
  | revokeServingSession (servingSnId : P2pId)
  deriving DecidableEq, Repr

structure OwnerControlPlane where
  currentTerm : U64
  leaderId : Option P2pId
  committedIndex : Nat
  log : List OwnerSessionEntry
  sessions : P2pId → Option ServingSnSession

namespace OwnerControlPlane

def new (m : OwnerMembership) : OwnerControlPlane where
  currentTerm := if m.members.head?.isSome then 1 else 0
  leaderId := m.members.head?
  committedIndex := 0
  log := []
  sessions := fun _ => none

def notMember : P2pError := ⟨.permissionDenied, "owner control leader is not a member"⟩

def setKnownLeader (m : OwnerMembership) (cp : OwnerControlPlane) (leaderId : P2pId) (term : U64) :
    P2pResult OwnerControlPlane :=
  if m.isMember leaderId then
    .ok { cp with currentTerm := max cp.currentTerm term, leaderId := some leaderId }
  else .error notMember

/-- `apply_entry`: a renewal never shortens a live session; a revocation ends a live one at `now`. -/
def applyEntry (sessions : P2pId → Option ServingSnSession) (entry : OwnerSessionEntry)
    (now : Timestamp) : P2pId → Option ServingSnSession :=
  match entry with
  | .renewServingSession session =>
    match sessions session.servingSnId with
    | none => Function.update sessions session.servingSnId (some session)
    | some old =>
      if old.state ≠ .online ∨ old.expiresAt ≤ session.expiresAt then
        Function.update sessions session.servingSnId (some session)
      else sessions
  | .revokeServingSession id =>
    match sessions id with
    | none => sessions
    | some old =>
      if now < old.expiresAt then
        Function.update sessions id (some { old with state := .offline, expiresAt := now })
      else sessions

def applyCommittedSessionEntry (m : OwnerMembership) (cp : OwnerControlPlane) (leaderId : P2pId)
    (term : U64) (entry : OwnerSessionEntry) (now : Timestamp) :
    P2pResult (OwnerControlPlane × Nat) :=
  if m.isMember leaderId then
    let log := cp.log ++ [entry]
    .ok ({ currentTerm := max cp.currentTerm term
           leaderId := some leaderId
           committedIndex := log.length
           log := log
           sessions := applyEntry cp.sessions entry now }, log.length)
  else .error notMember

/-- `set_known_leader` touches neither the log nor the committed index. -/
theorem setKnownLeader_log {m : OwnerMembership} {cp cp' : OwnerControlPlane} {l : P2pId} {t : U64}
    (h : setKnownLeader m cp l t = .ok cp') :
    cp'.log = cp.log ∧ cp'.committedIndex = cp.committedIndex := by
  unfold setKnownLeader at h
  split_ifs at h
  cases h
  exact ⟨rfl, rfl⟩

/-- `apply_committed_session_entry` appends exactly its entry, and only for a member. -/
theorem applyCommittedSessionEntry_log {m : OwnerMembership} {cp cp' : OwnerControlPlane}
    {l : P2pId} {t : U64} {e : OwnerSessionEntry} {now : Timestamp} {n : Nat}
    (h : applyCommittedSessionEntry m cp l t e now = .ok (cp', n)) :
    l ∈ m.members ∧ cp'.log = cp.log ++ [e] ∧ cp'.committedIndex = cp.log.length + 1 ∧
      n = cp.log.length + 1 := by
  unfold applyCommittedSessionEntry at h
  split_ifs at h with hm
  cases h
  exact ⟨by simpa using hm, rfl, by simp, by simp⟩

end OwnerControlPlane

end BuckyP2p.Directory
