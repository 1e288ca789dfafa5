import BuckyP2p.Lib.Ranking
import BuckyP2p.Directory.OwnerClient

/-!
# BuckyP2p.Directory.Placement — which members own the leases of a peer

`OwnerMembership::with_options` makes a membership of ids alone, and `OwnerResolver::owner_set`
takes its first members in the order of their scores for the peer.  The order is total whatever the
scores are, so the owners are the `first` members in it (`ownerSet_eq_first`).
-/

namespace BuckyP2p.Directory

open Lib

namespace ServingMembership

/-- The members have no endpoints.  `leaseTtl` is in nanoseconds. -/
def withOptions (ids : List P2pId) (ownerCount leaseTtl : Nat) : P2pResult ServingMembership :=
  (OwnerMembership.withMembers ids).map fun membership =>
    { membership with ownerCount := max ownerCount 1, leaseTtl, hasEndpoint := fun _ => false }

end ServingMembership

structure OwnerResolver where
  membership : Option ServingMembership

namespace OwnerResolver

def new (membership : Option ServingMembership) : OwnerResolver := ⟨membership⟩

def ownerSet (ownerScore : P2pId → P2pId → U64) (resolver : OwnerResolver)
    (peerId localSnId : P2pId) : List P2pId :=
  match resolver.membership with
  | none => [localSnId]
  | some membership => membership.staticOwnerSet ownerScore peerId

end OwnerResolver

/-! ### The order of the members -/

instance : Std.Total ServingMembership.ranked where
  total a b := by
    unfold ServingMembership.ranked
    rcases lt_trichotomy a.1 b.1 with h | h | h
    · exact .inr (.inl h)
    · exact (le_total a.2 b.2).imp (fun hle => .inr ⟨h, hle⟩) fun hle => .inr ⟨h.symm, hle⟩
    · exact .inl (.inl h)

instance : IsTrans (U64 × P2pId) ServingMembership.ranked where
  trans a b c hab hbc := by
    unfold ServingMembership.ranked at hab hbc ⊢
    rcases hab with hab | ⟨hab, hle⟩
    · rcases hbc with hbc | ⟨hbc, -⟩
      · exact .inl (hbc.trans hab)
      · exact .inl (hbc ▸ hab)
    · rcases hbc with hbc | ⟨hbc, hle'⟩
      · exact .inl (hab ▸ hbc)
      · exact .inr ⟨hab.trans hbc, hle.trans hle'⟩

instance : Std.Antisymm ServingMembership.ranked where
  antisymm a b hab hba := by
    unfold ServingMembership.ranked at hab hba
    rcases hab with hab | ⟨hab, hle⟩
    · rcases hba with hba | ⟨hba, -⟩
      · exact absurd hba (lt_asymm hab)
      · exact absurd hba (ne_of_gt hab).symm
    · rcases hba with hba | ⟨-, hle'⟩
      · exact absurd hab (ne_of_gt hba).symm
      · exact Prod.ext hab (le_antisymm hle hle')

/-- The order of the members for one peer. -/
def rankedFor (ownerScore : P2pId → P2pId → U64) (peerId left right : P2pId) : Prop :=
  ServingMembership.ranked (ownerScore peerId left, left) (ownerScore peerId right, right)

section RankedFor

variable (ownerScore : P2pId → P2pId → U64) (peerId : P2pId)

instance : DecidableRel (rankedFor ownerScore peerId) := fun _ _ =>
  inferInstanceAs (Decidable (ServingMembership.ranked _ _))

instance : Std.Total (rankedFor ownerScore peerId) where
  total _ _ := total_of ServingMembership.ranked _ _

instance : IsTrans P2pId (rankedFor ownerScore peerId) where
  trans _ _ _ hab hbc := trans_of ServingMembership.ranked hab hbc

instance : Std.Antisymm (rankedFor ownerScore peerId) where
  antisymm _ _ hab hba := congrArg Prod.snd (antisymm_of ServingMembership.ranked hab hba)

end RankedFor

/-! ### The members and the owners -/

section Members

variable {ids ids' : List P2pId} {ownerCount leaseTtl : Nat} {m : ServingMembership}

theorem sortDedup_perm_dedup (ids : List P2pId) :
    (OwnerMembership.sortDedup ids).Perm ids.dedup :=
  (List.perm_ext_iff_of_nodup (OwnerMembership.sortDedup_nodup ids) ids.nodup_dedup).mpr fun id => by
    rw [OwnerMembership.mem_sortDedup, List.mem_dedup]

theorem withOptions_eq (h : ServingMembership.withOptions ids ownerCount leaseTtl = .ok m) :
    m.members = OwnerMembership.sortDedup ids ∧ m.ownerCount = max ownerCount 1 := by
  unfold ServingMembership.withOptions OwnerMembership.withMembers at h
  split_ifs at h with hnil
  · cases h
  · cases h
    exact ⟨rfl, rfl⟩

theorem withOptions_of_ne_nil (h : ids ≠ []) (ownerCount leaseTtl : Nat) :
    ∃ m, ServingMembership.withOptions ids ownerCount leaseTtl = .ok m := by
  obtain ⟨id, hid⟩ := List.exists_mem_of_ne_nil ids h
  have hne : OwnerMembership.sortDedup ids ≠ [] :=
    List.ne_nil_of_mem (OwnerMembership.mem_sortDedup.mpr hid)
  unfold ServingMembership.withOptions OwnerMembership.withMembers
  rw [dif_neg hne]
  exact ⟨_, rfl⟩

/-- The owners of a peer are the first members in the order for the peer. -/
theorem ownerSet_eq_first (h : ServingMembership.withOptions ids ownerCount leaseTtl = .ok m)
    (ownerScore : P2pId → P2pId → U64) (peerId localSnId : P2pId) :
    (OwnerResolver.new (some m)).ownerSet ownerScore peerId localSnId =
      first (rankedFor ownerScore peerId) (max ownerCount 1) ids.dedup := by
  obtain ⟨hmembers, hcount⟩ := withOptions_eq h
  have hsort := List.map_insertionSort (rankedFor ownerScore peerId) ServingMembership.ranked
    (fun id => (ownerScore peerId id, id)) m.members fun _ _ _ _ => Iff.rfl
  show m.staticOwnerSet ownerScore peerId = _
  rw [ServingMembership.staticOwnerSet, ← hsort, ← List.map_take, List.map_map]
  show ((m.members.insertionSort _).take _).map id = _
  rw [List.map_id, hmembers, hcount, ← first_perm _ _ (sortDedup_perm_dedup ids), first]
  have hmax : max (max ownerCount 1) 1 = max ownerCount 1 := by omega
  rw [hmax, List.take_eq_take_iff, List.length_insertionSort]
  omega

theorem perm_of_mem_iff (h : ∀ id, id ∈ ids' ↔ id ∈ ids) : ids'.dedup.Perm ids.dedup :=
  (List.perm_ext_iff_of_nodup ids'.nodup_dedup ids.nodup_dedup).mpr fun id => by
    rw [List.mem_dedup, List.mem_dedup, h]

theorem perm_erase_of_mem_iff {removed : P2pId} (h : ∀ id, id ∈ ids' ↔ id ∈ ids ∧ id ≠ removed) :
    ids'.dedup.Perm (ids.dedup.erase removed) :=
  (List.perm_ext_iff_of_nodup ids'.nodup_dedup (ids.nodup_dedup.erase removed)).mpr fun id => by
    rw [List.mem_dedup, h, ids.nodup_dedup.mem_erase_iff, List.mem_dedup, and_comm]

end Members

/-- The owners of a peer are different members, as many as asked for while there are so many, the
same for every order and repetition of the ids and on every SN; and without one member they are the
same, or the others with at most one new owner behind them. -/
theorem owner_set_placement (ownerScore : P2pId → P2pId → U64) {ids : List P2pId} (hids : ids ≠ [])
    (ownerCount leaseTtl : Nat) (peerId : P2pId) :
    ∃ m owners, ServingMembership.withOptions ids ownerCount leaseTtl = .ok m ∧
      (∀ localSnId, (OwnerResolver.new (some m)).ownerSet ownerScore peerId localSnId = owners) ∧
      owners.Nodup ∧ (∀ id ∈ owners, id ∈ ids) ∧
      owners.length = min (max ownerCount 1) ids.dedup.length ∧
      ∀ ids' m', ServingMembership.withOptions ids' ownerCount leaseTtl = .ok m' → ∀ localSnId,
        ((∀ id, id ∈ ids' ↔ id ∈ ids) →
          (OwnerResolver.new (some m')).ownerSet ownerScore peerId localSnId = owners) ∧
        ∀ removed, (∀ id, id ∈ ids' ↔ id ∈ ids ∧ id ≠ removed) →
          (removed ∉ owners →
            (OwnerResolver.new (some m')).ownerSet ownerScore peerId localSnId = owners) ∧
          (removed ∈ owners → ∃ added : List P2pId, added.length ≤ 1 ∧ (∀ id ∈ added, id ∉ owners) ∧
            (OwnerResolver.new (some m')).ownerSet ownerScore peerId localSnId =
              owners.erase removed ++ added) := by
  obtain ⟨m, hm⟩ := withOptions_of_ne_nil hids ownerCount leaseTtl
  have hnodup := nodup_first (rankedFor ownerScore peerId) (max ownerCount 1) ids.nodup_dedup
  refine ⟨m, first (rankedFor ownerScore peerId) (max ownerCount 1) ids.dedup, hm,
    ownerSet_eq_first hm ownerScore peerId, hnodup, fun id hid => ?_, length_first _ _ _,
    fun ids' m' hm' localSnId => ⟨fun hsame => ?_, fun removed hremoved => ⟨fun hout => ?_, fun hin => ?_⟩⟩⟩
  · exact List.mem_dedup.mp (first_subset _ _ hid)
  · rw [ownerSet_eq_first hm', first_perm _ _ (perm_of_mem_iff hsame)]
  · rw [ownerSet_eq_first hm', first_perm _ _ (perm_erase_of_mem_iff hremoved),
      first_erase_of_not_mem _ _ hout]
  · obtain ⟨added, hlength, hadded⟩ := first_erase_of_mem _ _ hin
    rw [← first_perm _ _ (perm_erase_of_mem_iff hremoved)] at hadded
    have hnodup' := nodup_first (rankedFor ownerScore peerId) (max ownerCount 1) ids'.nodup_dedup
    refine ⟨added, hlength, fun id hid howner => ?_, by rw [ownerSet_eq_first hm', hadded]⟩
    rw [hadded] at hnodup'
    have hmember : id ∈ ids' := by
      have hfirst := List.mem_append_right ((first (rankedFor ownerScore peerId) (max ownerCount 1)
        ids.dedup).erase removed) hid
      rw [← hadded] at hfirst
      exact List.mem_dedup.mp (first_subset _ _ hfirst)
    have hne : id ≠ removed := ((hremoved id).mp hmember).2
    have hold := (List.mem_erase_of_ne hne).mpr howner
    exact (List.disjoint_of_nodup_append hnodup') hold hid

theorem owner_set_placement_equal_scores :
    ∃ m owners, ServingMembership.withOptions [[2], [1], [2], [3]] 2 30 = .ok m ∧
      (∀ localSnId, (OwnerResolver.new (some m)).ownerSet (fun _ _ => 7) [9] localSnId = owners) ∧
      owners.length = 2 := by
  obtain ⟨m, owners, hm, howners, -, -, hlength, -⟩ :=
    owner_set_placement (fun _ _ => 7)
      (show ([[2], [1], [2], [3]] : List P2pId) ≠ [] by simp) 2 30 [9]
  exact ⟨m, owners, hm, howners, hlength.trans (by decide)⟩

end BuckyP2p.Directory
