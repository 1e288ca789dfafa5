import Mathlib.Data.List.Destutter
import Mathlib.Data.List.Sort
import BuckyP2p.Base

/-!
# BuckyP2p.Directory.Membership — the owner membership of `membership.rs`

`OwnerMembership::with_members` sorts the members by id, drops adjacent repetitions and refuses an
empty list.  The structure carries what that establishes: the ids are pairwise different and there
is at least one.  Endpoints, names, `owner_count` and the ttls are not read by the election and the
control plane and are left out here.
-/

namespace BuckyP2p.Directory

structure OwnerMembership where
  members : List P2pId
  nodup : members.Nodup
  ne_nil : members ≠ []

namespace OwnerMembership

/-- `sort_by` the id, then `dedup_by` the id. -/
def sortDedup (ids : List P2pId) : List P2pId :=
  (ids.insertionSort (· ≤ ·)).destutter (· ≠ ·)

theorem sortDedup_nodup (ids : List P2pId) : (sortDedup ids).Nodup := by
  have h := List.pairwise_insertionSort (· ≤ ·) ids
  rw [sortDedup, h.destutter_eq_dedup]
  exact List.nodup_dedup _

def withMembers (ids : List P2pId) : P2pResult OwnerMembership :=
  if h : sortDedup ids = [] then
    .error ⟨.invalidParam, "owner membership must contain at least one SN"⟩
  else .ok ⟨sortDedup ids, sortDedup_nodup ids, h⟩

/-- `member(sn_id).is_some()`. -/
def isMember (m : OwnerMembership) (id : P2pId) : Bool := m.members.contains id

@[simp] theorem isMember_iff (m : OwnerMembership) (id : P2pId) :
    m.isMember id = true ↔ id ∈ m.members := by
  simp [isMember]

/-- `members().len() / 2 + 1`. -/
def quorumSize (m : OwnerMembership) : Nat := m.members.length / 2 + 1

theorem mem_sortDedup {ids : List P2pId} {id : P2pId} : id ∈ sortDedup ids ↔ id ∈ ids := by
  have h := List.pairwise_insertionSort (· ≤ ·) ids
  rw [sortDedup, h.destutter_eq_dedup, List.mem_dedup]
  exact (List.perm_insertionSort (· ≤ ·) ids).mem_iff

/-- Three owners, for concrete runs. -/
def trio : OwnerMembership := ⟨[[1], [2], [3]], by decide, by decide⟩

end OwnerMembership

end BuckyP2p.Directory
