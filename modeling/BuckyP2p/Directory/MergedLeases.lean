import BuckyP2p.Lib.Merging
import BuckyP2p.Directory.Placement

/-!
# BuckyP2p.Directory.MergedLeases — what a client makes of the answers of the owners

`query_serving_leases` puts the leases of all owners into one list, sorts it by the sequence
downwards and the serving SN, and drops neighbours of one serving SN.  By their keys, the sequence
and the serving SN, the leases are a `merge` of those that were reported.
-/

namespace BuckyP2p.Directory

open Lib StaticOwnerDirectoryClient

namespace ServingLease

/-- What the leases are sorted by. -/
def key (lease : ServingLease) : U64 × P2pId := (lease.sequence, lease.servingSnId)

end ServingLease

/-- A lease of another serving SN lies between two of one. -/
def Interleaved (reported : List ServingLease) : Prop :=
  ∃ x ∈ reported, ∃ y ∈ reported, ∃ z ∈ reported, newer x y ∧ newer y z ∧
    x.servingSnId = z.servingSnId ∧ y.servingSnId ≠ x.servingSnId

/-- One lease for every serving SN that was reported, with its greatest sequence, in descending
order of the sequences. -/
structure Merged (reported leases : List ServingLease) : Prop where
  once : (leases.map ServingLease.servingSnId).Nodup
  every : ∀ snId, snId ∈ leases.map ServingLease.servingSnId ↔
    snId ∈ reported.map ServingLease.servingSnId
  told : ∀ lease ∈ leases, lease ∈ reported
  greatest : ∀ lease ∈ leases, ∀ other ∈ reported, other.servingSnId = lease.servingSnId →
    other.sequence ≤ lease.sequence
  descending : leases.Pairwise fun left right => right.sequence ≤ left.sequence

/-- The sort and the removal of `query_serving_leases`. -/
def mergeLeases (reported : List ServingLease) : List ServingLease :=
  (reported.insertionSort newer).destutter fun left right => left.servingSnId ≠ right.servingSnId

section

variable {reported : List ServingLease}

theorem map_key_mergeLeases (reported : List ServingLease) :
    (mergeLeases reported).map ServingLease.key =
      merge ServingMembership.ranked Prod.snd (reported.map ServingLease.key) := by
  rw [mergeLeases, merge, heads]
  rw [← List.map_insertionSort newer ServingMembership.ranked ServingLease.key reported
    fun _ _ _ _ => Iff.rfl]
  exact List.map_destutter fun _ _ _ _ => Iff.rfl

theorem map_servingSnId (leases : List ServingLease) :
    leases.map ServingLease.servingSnId = (leases.map ServingLease.key).map Prod.snd := by
  rw [List.map_map]
  rfl

/-- The order of the reports does not matter. -/
theorem mergeLeases_perm {reported' : List ServingLease} (h : reported'.Perm reported) :
    (mergeLeases reported').map ServingLease.key = (mergeLeases reported).map ServingLease.key := by
  rw [map_key_mergeLeases, map_key_mergeLeases, merge_perm (h.map _)]

theorem once_iff : ((mergeLeases reported).map ServingLease.servingSnId).Nodup ↔
    ¬ Interleaved reported := by
  rw [map_servingSnId, map_key_mergeLeases, nodup_merge_iff]
  constructor
  · rintro h ⟨x, hx, y, hy, z, hz, hxy, hyz, hxz, hne⟩
    exact hne (h _ (List.mem_map_of_mem hx) _ (List.mem_map_of_mem hy) _ (List.mem_map_of_mem hz)
      hxy hyz hxz)
  · intro h
    simp only [List.forall_mem_map]
    intro x hx y hy z hz hxy hyz hxz
    by_contra hne
    exact h ⟨x, hx, y, hy, z, hz, hxy, hyz, hxz, hne⟩

theorem merged_iff : Merged reported (mergeLeases reported) ↔ ¬ Interleaved reported := by
  constructor
  · exact fun h => once_iff.mp h.once
  · intro h
    have honce := once_iff.mpr h
    refine ⟨honce, fun snId => ?_, fun lease hlease => ?_, fun lease hlease other hother hsame => ?_, ?_⟩
    · rw [map_servingSnId, map_key_mergeLeases, mem_merge_kind, ← map_servingSnId]
    · have hsorted := (List.destutter_sublist _ _).subset hlease
      exact (List.mem_insertionSort newer).mp hsorted
    · rw [map_servingSnId, map_key_mergeLeases] at honce
      have hkey : lease.key ∈ merge ServingMembership.ranked Prod.snd (reported.map ServingLease.key) := by
        rw [← map_key_mergeLeases]
        exact List.mem_map_of_mem hlease
      have hrel := rel_of_mem_merge honce hkey (List.mem_map_of_mem hother) hsame
      rcases hrel with hlt | ⟨heq, -⟩
      · exact le_of_lt hlt
      · exact heq.ge
    · have hkeys : (merge ServingMembership.ranked Prod.snd
          (reported.map ServingLease.key)).Pairwise ServingMembership.ranked := pairwise_merge
      rw [← map_key_mergeLeases, List.pairwise_map] at hkeys
      refine hkeys.imp fun hrel => ?_
      rcases hrel with hlt | ⟨heq, -⟩
      · exact le_of_lt hlt
      · exact heq.ge

end

namespace StaticOwnerDirectoryClient

/-- What the owners reported that answered. -/
def reports (ownerScore : P2pId → P2pId → U64) (c : StaticOwnerDirectoryClient) (s : ClientState)
    (localSnId peerId : P2pId) (contacts : P2pId → Contact) : List (List ServingLease) :=
  (c.askOwners (c.queryOwner peerId) contacts s (c.ownerSet ownerScore s peerId localSnId)).2

end StaticOwnerDirectoryClient

/-- The result is merged exactly if no lease of another serving SN lies between two of one; and its
serving SNs and sequences do not depend on who reported what, and in which order. -/
theorem query_serving_leases_merged_iff (ownerScore : P2pId → P2pId → U64)
    (c : StaticOwnerDirectoryClient) (s : ClientState) (localSnId peerId : P2pId)
    (contacts : P2pId → Contact) :
    ∃ leases, (c.queryServingLeases ownerScore s localSnId peerId contacts).2 = .ok leases ∧
      (Merged (c.reports ownerScore s localSnId peerId contacts).flatten leases ↔
        ¬ Interleaved (c.reports ownerScore s localSnId peerId contacts).flatten) ∧
      ∀ (c' : StaticOwnerDirectoryClient) (s' : ClientState) (localSnId' peerId' : P2pId)
        (contacts' : P2pId → Contact) (leases' : List ServingLease),
        (c'.queryServingLeases ownerScore s' localSnId' peerId' contacts').2 = .ok leases' →
        (c'.reports ownerScore s' localSnId' peerId' contacts').flatten.Perm
          (c.reports ownerScore s localSnId peerId contacts).flatten →
        leases'.map ServingLease.key = leases.map ServingLease.key := by
  refine ⟨mergeLeases (c.reports ownerScore s localSnId peerId contacts).flatten, rfl, merged_iff,
    fun c' s' localSnId' peerId' contacts' leases' hleases hperm => ?_⟩
  have heq : leases' = mergeLeases (c'.reports ownerScore s' localSnId' peerId' contacts').flatten :=
    (Except.ok.inj hleases).symm
  rw [heq, mergeLeases_perm hperm]

namespace StaticOwnerDirectoryClient

/-- Two owners know different leases of the serving SN `[7]`, and one knows one of `[8]`. -/
def splitReports : P2pId → Contact
  | [1] => ⟨0, .ok (.leases [⟨[5], [7], 5, 100⟩, ⟨[5], [8], 3, 100⟩])⟩
  | [2] => ⟨0, .ok (.leases [⟨[5], [7], 2, 100⟩])⟩
  | _ => ⟨0, .error ⟨.timeout, ""⟩⟩

theorem split_reports_are_not_merged :
    ∃ leases, (trioClient.queryServingLeases evenScore (trioClient.new 0) [9] [5] splitReports).2 =
        .ok leases ∧ leases.map ServingLease.key = [(5, [7]), (3, [8]), (2, [7])] ∧
      ¬ Merged (trioClient.reports evenScore (trioClient.new 0) [9] [5] splitReports).flatten
        leases := by
  refine ⟨_, rfl, by decide +kernel, fun h => ?_⟩
  exact absurd h.once (by decide +kernel)

end StaticOwnerDirectoryClient

end BuckyP2p.Directory
