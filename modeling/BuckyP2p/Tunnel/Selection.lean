import Mathlib.Data.Prod.Lex
import BuckyP2p.Lib.Best
import BuckyP2p.Tunnel.Manager

/-!
# BuckyP2p.Tunnel.Selection — which tunnel `get_tunnel` returns

`select_preferred_tunnel_entry` compares entries by pairs, once among the published entries and, if
there is none, among all.  `rank` is one key for all of it, in a lexicographic order: published, not
a proxy, with activity, and the time of the activity or else of the update.
-/

namespace BuckyP2p.Tunnel.TunnelManager

open Lib

section Order

variable (m : TunnelManager)

/-- `latest_business_activity_at` of the tunnel of an entry. -/
def activityAt (entry : TunnelEntry) : Option Nat := m.activity.lookup entry.tunnel.handle

/-- The order in which tunnels are preferred. -/
inductive StrictlyPreferred (x y : TunnelEntry) : Prop
  | published (hx : x.published = true) (hy : y.published = false)
  | nonProxy (hpublished : x.published = y.published) (hx : isProxy x = false)
    (hy : isProxy y = true)
  | hasActivity (hpublished : x.published = y.published) (hproxy : isProxy x = isProxy y)
    (hx : (m.activityAt x).isSome = true) (hy : m.activityAt y = none)
  | laterActivity (hpublished : x.published = y.published) (hproxy : isProxy x = isProxy y)
    {a b : Nat} (hx : m.activityAt x = some a) (hy : m.activityAt y = some b) (hlater : b < a)
  | laterUpdate (hpublished : x.published = y.published) (hproxy : isProxy x = isProxy y)
    (hx : m.activityAt x = none) (hy : m.activityAt y = none)
    (hlater : y.updatedAt < x.updatedAt)

/-- Neither is preferred. -/
def Tied (x y : TunnelEntry) : Prop := ¬ m.StrictlyPreferred x y ∧ ¬ m.StrictlyPreferred y x

def recency (entry : TunnelEntry) : Bool ×ₗ Nat :=
  toLex ((m.activityAt entry).isSome, (m.activityAt entry).getD entry.updatedAt)

/-- The key by which the published entries are compared, and the others. -/
def kindRank (entry : TunnelEntry) : Bool ×ₗ Bool ×ₗ Nat := toLex (!isProxy entry, m.recency entry)

def rank (entry : TunnelEntry) : Bool ×ₗ Bool ×ₗ Bool ×ₗ Nat :=
  toLex (entry.published, m.kindRank entry)

variable {m} {x y : TunnelEntry}

theorem recency_lt_iff : m.recency y < m.recency x ↔
    ((m.activityAt x).isSome = true ∧ m.activityAt y = none) ∨
    (∃ a b, m.activityAt x = some a ∧ m.activityAt y = some b ∧ b < a) ∨
    (m.activityAt x = none ∧ m.activityAt y = none ∧ y.updatedAt < x.updatedAt) := by
  unfold recency
  rw [Prod.Lex.toLex_lt_toLex]
  cases m.activityAt x with
  | none =>
    cases m.activityAt y with
    | none => simp
    | some b => simp
  | some a =>
    cases m.activityAt y with
    | none => simp
    | some b => simp

theorem preferredTunnelEntry_iff :
    m.preferredTunnelEntry x y = true ↔ m.recency y < m.recency x := by
  rw [recency_lt_iff]
  unfold preferredTunnelEntry activityAt
  cases m.activity.lookup x.tunnel.handle with
  | none =>
    cases m.activity.lookup y.tunnel.handle with
    | none => simp
    | some b => simp
  | some a =>
    cases m.activity.lookup y.tunnel.handle with
    | none => simp
    | some b => simp

theorem strictlyPreferred_iff : m.StrictlyPreferred x y ↔ m.rank y < m.rank x := by
  unfold rank kindRank
  rw [Prod.Lex.toLex_lt_toLex, Prod.Lex.toLex_lt_toLex, recency_lt_iff, Bool.lt_iff, Bool.lt_iff]
  constructor
  · rintro (⟨hx, hy⟩ | ⟨hp, hx, hy⟩ | ⟨hp, hk, hx, hy⟩ | ⟨hp, hk, hx, hy, hlater⟩ |
      ⟨hp, hk, hx, hy, hlater⟩)
    · exact .inl ⟨hy, hx⟩
    · exact .inr ⟨hp.symm, .inl ⟨by simp [hy], by simp [hx]⟩⟩
    · exact .inr ⟨hp.symm, .inr ⟨by simp [hk], .inl ⟨hx, hy⟩⟩⟩
    · exact .inr ⟨hp.symm, .inr ⟨by simp [hk], .inr (.inl ⟨_, _, hx, hy, hlater⟩)⟩⟩
    · exact .inr ⟨hp.symm, .inr ⟨by simp [hk], .inr (.inr ⟨hx, hy, hlater⟩)⟩⟩
  · rintro (⟨hy, hx⟩ | ⟨hp, ⟨hy, hx⟩ | ⟨hk, ⟨hx, hy⟩ | ⟨a, b, hx, hy, hlater⟩ | ⟨hx, hy, hlater⟩⟩⟩)
    · exact .published hx hy
    · exact .nonProxy hp.symm (by simpa using hx) (by simpa using hy)
    · exact .hasActivity hp.symm (by simpa using hk.symm) hx hy
    · exact .laterActivity hp.symm (by simpa using hk.symm) hx hy hlater
    · exact .laterUpdate hp.symm (by simpa using hk.symm) hx hy hlater

theorem tied_iff : m.Tied x y ↔ m.rank x = m.rank y := by
  unfold Tied
  rw [strictlyPreferred_iff, strictlyPreferred_iff, not_lt, not_lt]
  exact le_antisymm_iff.symm

end Order

/-! ## The selected entry -/

variable {m : TunnelManager} {entries : List TunnelEntry} {entry : TunnelEntry}

/-- The non-proxy slot comes first. -/
theorem selectPreferredTunnelEntry_eq (m : TunnelManager) (entries : List TunnelEntry) :
    m.selectPreferredTunnelEntry entries =
      (best m.preferredTunnelEntry (entries.filter (!isProxy ·))).or
        (best m.preferredTunnelEntry (entries.filter isProxy)) :=
  congrArg (fun slots : Option TunnelEntry × Option TunnelEntry => slots.1.or slots.2)
    (foldl_slots isProxy entries)

theorem selectPreferredTunnelEntry_none :
    m.selectPreferredTunnelEntry entries = none ↔ entries = [] := by
  rw [selectPreferredTunnelEntry_eq, Option.or_eq_none_iff, best_eq_none_iff, best_eq_none_iff]
  constructor
  · rintro ⟨hdirect, hproxy⟩
    refine List.eq_nil_iff_forall_not_mem.mpr fun entry hentry => ?_
    cases hkind : isProxy entry with
    | true => exact List.filter_eq_nil_iff.mp hproxy entry hentry hkind
    | false => exact List.filter_eq_nil_iff.mp hdirect entry hentry (by simp [hkind])
  · rintro rfl
    exact ⟨rfl, rfl⟩

/-- The best of one kind is best among all if there is none of a better kind. -/
theorem isBest_of_kind (kind : Bool)
    (h : IsBest m.recency (entries.filter fun x => isProxy x = kind) entry)
    (hother : ∀ x ∈ entries, isProxy x ≠ kind → isProxy x = true) :
    IsBest m.kindRank entries entry := by
  obtain ⟨hmem, hmax⟩ := h
  obtain ⟨hentry, hkind⟩ := List.mem_filter.mp hmem
  refine ⟨hentry, fun x hx => ?_⟩
  unfold kindRank
  rw [Prod.Lex.toLex_le_toLex]
  by_cases hsame : isProxy x = kind
  · exact .inr ⟨by rw [hsame, of_decide_eq_true hkind],
      hmax x (List.mem_filter.mpr ⟨hx, decide_eq_true hsame⟩)⟩
  · have hx := hother x hx hsame
    have hk : isProxy entry = false := by
      rw [of_decide_eq_true hkind]
      exact Bool.eq_false_iff.mpr fun hk => hsame (hx.trans hk.symm)
    exact .inl (by simp [hx, hk])

/-- Where the published flag does not differ, the selected entry is a maximum. -/
theorem isBest_of_selectPreferred (h : m.selectPreferredTunnelEntry entries = some entry) :
    IsBest m.kindRank entries entry := by
  have hbetter (x y : TunnelEntry) : m.preferredTunnelEntry x y = true ↔ m.recency y < m.recency x :=
    preferredTunnelEntry_iff
  rw [selectPreferredTunnelEntry_eq, Option.or_eq_some_iff] at h
  rcases h with hdirect | ⟨hnone, hproxy⟩
  · have hbest := isBest_of_best hbetter hdirect
    refine isBest_of_kind false ?_ fun x _ hx => by simpa using hx
    simpa using hbest
  · have hbest := isBest_of_best hbetter hproxy
    refine isBest_of_kind true ?_ fun x hx hne => ?_
    · simpa using hbest
    · have hdirect := List.filter_eq_nil_iff.mp (best_eq_none_iff.mp hnone) x hx
      simpa using hdirect

/-- The entry that `get_tunnel` selects among the available ones. -/
def chosenEntry (m : TunnelManager) (entries : List TunnelEntry) : Option TunnelEntry :=
  (m.selectPreferredTunnelEntry (entries.filter TunnelEntry.published)).or
    (m.selectPreferredTunnelEntry entries)

theorem chosenEntry_none : m.chosenEntry entries = none ↔ entries = [] := by
  unfold chosenEntry
  rw [Option.or_eq_none_iff, selectPreferredTunnelEntry_none, selectPreferredTunnelEntry_none]
  constructor
  · exact fun h => h.2
  · rintro rfl
    exact ⟨rfl, rfl⟩

theorem isBest_of_chosen (h : m.chosenEntry entries = some entry) :
    IsBest m.rank entries entry := by
  unfold chosenEntry at h
  rw [Option.or_eq_some_iff] at h
  rcases h with hpublished | ⟨hnone, hhidden⟩
  · obtain ⟨hmem, hmax⟩ := isBest_of_selectPreferred hpublished
    obtain ⟨hentry, hp⟩ := List.mem_filter.mp hmem
    refine ⟨hentry, fun x hx => ?_⟩
    unfold rank
    rw [Prod.Lex.toLex_le_toLex, hp]
    cases hxp : x.published with
    | true => exact .inr ⟨rfl, hmax x (List.mem_filter.mpr ⟨hx, hxp⟩)⟩
    | false => exact .inl Bool.false_lt_true
  · obtain ⟨hentry, hmax⟩ := isBest_of_selectPreferred hhidden
    have hall (x : TunnelEntry) (hx : x ∈ entries) : x.published = false := by
      have hno := List.filter_eq_nil_iff.mp (selectPreferredTunnelEntry_none.mp hnone) x hx
      simpa using hno
    refine ⟨hentry, fun x hx => ?_⟩
    unfold rank
    rw [Prod.Lex.toLex_le_toLex, hall x hx, hall entry hentry]
    exact .inr ⟨rfl, hmax x hx⟩

/-! ## `get_tunnel` -/

/-- The entries of a peer. -/
def candidates (m : TunnelManager) (remoteId : P2pId) : List TunnelEntry :=
  (m.tunnels.lookup remoteId).getD []

/-- The tunnel is that of an available entry, and no available entry is strictly preferred to it. -/
def Preferred (m : TunnelManager) (entries : List TunnelEntry) (entry : TunnelEntry) : Prop :=
  entry ∈ m.available entries ∧ ∀ other ∈ m.available entries, ¬ m.StrictlyPreferred other entry

theorem getTunnel_eq (m : TunnelManager) (now : Nat) (remoteId : P2pId) (closing : List Nat) :
    (m.getTunnel now remoteId closing).1 =
      (m.chosenEntry (m.available (m.candidates remoteId))).map TunnelEntry.tunnel := by
  unfold getTunnel getTunnelWithFilter candidates chosenEntry
  cases m.tunnels.lookup remoteId with
  | none => rfl
  | some entries => simp

/-- For every list of entries of a peer, and every other manager in which they are permuted. -/
theorem getTunnel_maximum (m m' : TunnelManager) (now now' : Nat) (remoteId : P2pId)
    (closing closing' : List Nat) (hdown : m'.down = m.down) (hactivity : m'.activity = m.activity)
    (hperm : (m.candidates remoteId).Perm (m'.candidates remoteId)) :
    ((m.getTunnel now remoteId closing).1 = none ↔ m.available (m.candidates remoteId) = []) ∧
    ((m'.getTunnel now' remoteId closing').1 = none ↔
      (m.getTunnel now remoteId closing).1 = none) ∧
    ∀ tunnel, (m.getTunnel now remoteId closing).1 = some tunnel →
      ∃ entry, entry.tunnel = tunnel ∧ m.Preferred (m.candidates remoteId) entry ∧
        ∀ tunnel', (m'.getTunnel now' remoteId closing').1 = some tunnel' →
          ∃ entry', entry'.tunnel = tunnel' ∧ m.Preferred (m.candidates remoteId) entry' ∧
            m.Tied entry entry' := by
  have hrank : m'.rank = m.rank := by
    funext entry
    simp only [rank, kindRank, recency, activityAt, hactivity]
  have havailable : m'.available = m.available := by
    funext entries
    simp only [available, isTunnelAvailable, hdown]
  have hsame : (m.available (m.candidates remoteId)).Perm (m'.available (m'.candidates remoteId)) :=
    havailable ▸ hperm.filter _
  have hpreferred {entry : TunnelEntry}
      (h : IsBest m.rank (m.available (m.candidates remoteId)) entry) :
      m.Preferred (m.candidates remoteId) entry :=
    ⟨h.1, fun other hother hlt => (h.2 other hother).not_gt (strictlyPreferred_iff.mp hlt)⟩
  rw [getTunnel_eq, getTunnel_eq, Option.map_eq_none_iff, Option.map_eq_none_iff, chosenEntry_none,
    chosenEntry_none]
  refine ⟨Iff.rfl, ?_, fun tunnel h => ?_⟩
  · rw [← List.length_eq_zero_iff, ← List.length_eq_zero_iff, hsame.length_eq]
  · obtain ⟨entry, hentry, rfl⟩ := Option.map_eq_some_iff.mp h
    have hbest := isBest_of_chosen hentry
    refine ⟨entry, rfl, hpreferred hbest, fun tunnel' h' => ?_⟩
    obtain ⟨entry', hentry', rfl⟩ := Option.map_eq_some_iff.mp h'
    have hbest' := (isBest_of_chosen hentry').perm hsame.symm
    rw [hrank] at hbest'
    exact ⟨entry', rfl, hpreferred hbest', tied_iff.mpr (hbest.key_eq hbest')⟩

/-- Two direct tunnels in either order, of which the second has carried traffic. -/
theorem getTunnel_maximum_two :
    let used : TunnelRef := ⟨2, [7], 2, 2, .passive, false⟩
    let entries : List TunnelEntry := [⟨⟨1, [7], 1, 1, .active, false⟩, 50, true⟩, ⟨used, 40, true⟩]
    let m : TunnelManager :=
      { new 0 with
        tunnels := AList.singleton [7] entries
        activity := AList.singleton 2 45 }
    let m' : TunnelManager := { m with tunnels := AList.singleton [7] entries.reverse }
    (m.getTunnel 60 [7] []).1 = some used ∧ (m'.getTunnel 60 [7] []).1 = some used ∧
    ∃ entry entry', entry.tunnel = used ∧ entry'.tunnel = used ∧ m.Preferred entries entry ∧
      m.Tied entry entry' := by
  intro used entries m m'
  have hfirst : (m.getTunnel 60 [7] []).1 = some used := by decide +kernel
  have hsecond : (m'.getTunnel 60 [7] []).1 = some used := by decide +kernel
  refine ⟨hfirst, hsecond, ?_⟩
  obtain ⟨-, -, hmax⟩ := getTunnel_maximum m m' 60 60 [7] [] [] rfl rfl
    (List.reverse_perm entries).symm
  obtain ⟨entry, hentry, hpreferred, htied⟩ := hmax used hfirst
  obtain ⟨entry', hentry', -, htie⟩ := htied used hsecond
  exact ⟨entry, entry', hentry, hentry', hpreferred, htie⟩

end BuckyP2p.Tunnel.TunnelManager
