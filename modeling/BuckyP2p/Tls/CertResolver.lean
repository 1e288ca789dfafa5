import BuckyP2p.Lib.Runs
import BuckyP2p.Lib.Table
import BuckyP2p.Tls.Verifiers

/-!
# BuckyP2p.Tls.CertResolver — the identities of a node (`tls/server_cert_resolver.rs`)

`DefaultTlsServerCertResolver` has one map for ids and names: an identity is put under its name and
under the text of its id, and is taken out under both when one of its keys is removed.

`registered` is a book that the code does not keep: by its id, the identity that was added last and
was not removed since.  A removal removes the identity that its key resolves to.
-/

namespace BuckyP2p.Tls

open Lib

structure DefaultTlsServerCertResolver where
  deviceCache : Table Name P2pIdentity
  registered : Table Name P2pIdentity

namespace DefaultTlsServerCertResolver

def new : DefaultTlsServerCertResolver := ⟨∅, ∅⟩

/-- `get_server_identity`, which `resolve` asks too. -/
def resolver (r : DefaultTlsServerCertResolver) : TlsServerCertResolver :=
  fun deviceId => r.deviceCache.lookup deviceId

/- `Display for P2pId`. -/
variable (toBase36 : P2pId → Name)

def addServerIdentity (r : DefaultTlsServerCertResolver) (id : P2pIdentity) :
    DefaultTlsServerCertResolver where
  deviceCache := (r.deviceCache.insert id.getName id).insert (toBase36 id.getId) id
  registered := r.registered.insert (toBase36 id.getId) id

def removeServerIdentity (r : DefaultTlsServerCertResolver) (deviceId : Name) :
    DefaultTlsServerCertResolver :=
  match r.deviceCache.lookup deviceId with
  | some device =>
    { deviceCache := ((r.deviceCache.erase deviceId).erase (toBase36 device.getId)).erase
        device.getName
      registered := r.registered.erase (toBase36 device.getId) }
  | none => { r with deviceCache := r.deviceCache.erase deviceId }

inductive Event
  | add (id : P2pIdentity)
  | remove (deviceId : Name)

def step (r : DefaultTlsServerCertResolver) : Event → DefaultTlsServerCertResolver
  | .add id => r.addServerIdentity toBase36 id
  | .remove deviceId => r.removeServerIdentity toBase36 deviceId

/-- A registered identity is found by its id, only registered ones are found, and whatever is removed
next is found no more and leaves the others. -/
structure InOrder (r : DefaultTlsServerCertResolver) : Prop where
  found : ∀ i x, r.registered.lookup i = some x → r.resolver.getServerIdentity i = some x
  known : ∀ key x, r.resolver.getServerIdentity key = some x →
    ∃ y, r.registered.lookup (toBase36 x.getId) = some y
  gone : ∀ i x, r.registered.lookup i = some x → ∀ key y,
    (r.removeServerIdentity toBase36 i).resolver.getServerIdentity key = some y →
      toBase36 y.getId ≠ i
  spared : ∀ i x key, r.registered.lookup i = some x →
    (∀ d, r.resolver.getServerIdentity key = some d → toBase36 d.getId ≠ i) →
      (r.removeServerIdentity toBase36 key).resolver.getServerIdentity i = some x

/-- No registered identity has the name of the new one for its id, or the id of the new one for its
name; where the identity itself is registered, its old name does not go on to resolve to it. -/
def Apart (r : DefaultTlsServerCertResolver) : Event → Prop
  | .add id => (∀ i x, r.registered.lookup i = some x → i ≠ toBase36 id.getId →
      i ≠ id.getName ∧ x.getName ≠ toBase36 id.getId) ∧
    ∀ x y, r.registered.lookup (toBase36 id.getId) = some x →
      r.resolver.getServerIdentity x.getName = some y → toBase36 y.getId = toBase36 id.getId →
      x.getName = id.getName ∨ x.getName = toBase36 id.getId
  | .remove _ => True

/-! ## Lookups -/

section Lookups

variable {toBase36} {r : DefaultTlsServerCertResolver} {x d : P2pIdentity} {i key : Name}

theorem resolve_add (id : P2pIdentity) (key : Name) :
    (r.addServerIdentity toBase36 id).resolver.getServerIdentity key =
      if key = toBase36 id.getId ∨ key = id.getName then some id
      else r.resolver.getServerIdentity key := by
  unfold resolver TlsServerCertResolver.getServerIdentity addServerIdentity
  dsimp only
  by_cases hid : key = toBase36 id.getId
  · rw [if_pos (.inl hid), hid, AList.lookup_insert]
  · rw [AList.lookup_insert_ne hid]
    by_cases hname : key = id.getName
    · rw [if_pos (.inr hname), hname, AList.lookup_insert]
    · rw [if_neg (not_or.mpr ⟨hid, hname⟩), AList.lookup_insert_ne hname]

theorem registered_add {id : P2pIdentity} :
    (r.addServerIdentity toBase36 id).registered.lookup i = some x ↔
      i = toBase36 id.getId ∧ id = x ∨ i ≠ toBase36 id.getId ∧ r.registered.lookup i = some x :=
  Table.lookup_insert_some

section
variable (hd : r.resolver.getServerIdentity key = some d)
include hd

theorem resolve_remove {key' : Name} :
    (r.removeServerIdentity toBase36 key).resolver.getServerIdentity key' = some x ↔
      key' ≠ d.getName ∧ key' ≠ toBase36 d.getId ∧ key' ≠ key ∧
        r.resolver.getServerIdentity key' = some x := by
  unfold removeServerIdentity
  rw [show r.deviceCache.lookup key = some d from hd]
  show AList.lookup key' (((r.deviceCache.erase key).erase (toBase36 d.getId)).erase d.getName) =
    some x ↔ _
  rw [Table.lookup_erase_some, Table.lookup_erase_some, Table.lookup_erase_some]
  rfl

theorem registered_remove :
    (r.removeServerIdentity toBase36 key).registered.lookup i = some x ↔
      i ≠ toBase36 d.getId ∧ r.registered.lookup i = some x := by
  unfold removeServerIdentity
  rw [show r.deviceCache.lookup key = some d from hd]
  exact Table.lookup_erase_some

end

/-- The removal of a key that is not there. -/
theorem removeServerIdentity_none (hnone : r.resolver.getServerIdentity key = none) :
    r.removeServerIdentity toBase36 key = r := by
  have hlookup : r.deviceCache.lookup key = none := hnone
  unfold removeServerIdentity
  rw [hlookup]
  dsimp only
  have hsame : r.deviceCache.erase key = r.deviceCache := by
    refine AList.ext ?_
    exact List.kerase_of_notMem_keys (AList.lookup_eq_none.mp hlookup)
  rw [hsame]

end Lookups

/-! ## The invariant -/

structure Inv (r : DefaultTlsServerCertResolver) : Prop where
  byId : ∀ i x, r.registered.lookup i = some x →
    toBase36 x.getId = i ∧ r.resolver.getServerIdentity i = some x
  keys : ∀ key d, r.resolver.getServerIdentity key = some d →
    r.registered.lookup (toBase36 d.getId) = some d ∧ (key = toBase36 d.getId ∨ key = d.getName)
  names : ∀ i j x y, r.registered.lookup i = some x → r.registered.lookup j = some y → i ≠ j →
    x.getName ≠ j

variable {toBase36} {r : DefaultTlsServerCertResolver}

theorem inv_new : Inv toBase36 new where
  byId _ _ h := by cases h
  keys _ _ h := by cases h
  names _ _ _ _ h := by cases h

/-- A registered identity that the key is not of keeps its id. -/
theorem Inv.resolve_remove_other (h : Inv toBase36 r) {i key : Name} {x : P2pIdentity}
    (hx : r.registered.lookup i = some x)
    (hother : ∀ d, r.resolver.getServerIdentity key = some d → toBase36 d.getId ≠ i) :
    (r.removeServerIdentity toBase36 key).resolver.getServerIdentity i = some x := by
  obtain ⟨-, hfound⟩ := h.byId i x hx
  cases hd : r.resolver.getServerIdentity key with
  | none => rwa [removeServerIdentity_none hd]
  | some d =>
    have hne := hother d hd
    refine (resolve_remove hd).mpr ⟨?_, Ne.symm hne, ?_, hfound⟩
    · exact Ne.symm (h.names _ i d x (h.keys key d hd).1 hx hne)
    · rintro rfl
      cases hd.symm.trans hfound
      exact hne (h.byId i x hx).1

theorem Inv.remove (h : Inv toBase36 r) (key : Name) :
    Inv toBase36 (r.removeServerIdentity toBase36 key) := by
  cases hd : r.resolver.getServerIdentity key with
  | none => rwa [removeServerIdentity_none hd]
  | some d =>
    refine ⟨fun i x hx => ?_, fun k e he => ?_, fun i j x y hx hy hij => ?_⟩
    · obtain ⟨hne, hold⟩ := (registered_remove hd).mp hx
      refine ⟨(h.byId i x hold).1, h.resolve_remove_other hold fun d' hd' => ?_⟩
      cases hd.symm.trans hd'
      exact Ne.symm hne
    · obtain ⟨hname, hid, -, hold⟩ := (resolve_remove hd).mp he
      obtain ⟨hreg, hkey⟩ := h.keys k e hold
      refine ⟨(registered_remove hd).mpr ⟨fun heq => ?_, hreg⟩, hkey⟩
      -- an entry of the identity that goes is under one of its two keys
      rw [heq, (h.keys key d hd).1] at hreg
      cases hreg
      exact hkey.elim hid hname
    · exact h.names i j x y ((registered_remove hd).mp hx).2 ((registered_remove hd).mp hy).2 hij

theorem Inv.add (h : Inv toBase36 r) {id : P2pIdentity} (hapart : Apart toBase36 r (.add id)) :
    Inv toBase36 (r.addServerIdentity toBase36 id) := by
  obtain ⟨hothers, hold⟩ := hapart
  refine ⟨fun i x hx => ?_, fun key d hd => ?_, fun i j x y hx hy hij => ?_⟩
  · rw [resolve_add]
    rcases registered_add.mp hx with ⟨rfl, rfl⟩ | ⟨hne, hx⟩
    · exact ⟨rfl, if_pos (.inl rfl)⟩
    · rw [if_neg (not_or.mpr ⟨hne, (hothers i x hx hne).1⟩)]
      exact h.byId i x hx
  · rw [resolve_add] at hd
    split_ifs at hd with hkey
    · cases hd
      exact ⟨registered_add.mpr (.inl ⟨rfl, rfl⟩), hkey⟩
    · obtain ⟨hreg, hwhere⟩ := h.keys key d hd
      obtain ⟨hid, hname⟩ := not_or.mp hkey
      refine ⟨registered_add.mpr (.inr ⟨fun heq => ?_, hreg⟩), hwhere⟩
      -- the identity itself, under the name that it had
      rcases hwhere with rfl | rfl
      · exact hid heq
      · rw [heq] at hreg
        exact (hold d d hreg hd heq).elim hname hid
  · rcases registered_add.mp hx with ⟨rfl, rfl⟩ | ⟨hi, hx⟩
    · rcases registered_add.mp hy with ⟨rfl, -⟩ | ⟨hj, hy⟩
      · exact absurd rfl hij
      · exact Ne.symm (hothers j y hy hj).1
    · rcases registered_add.mp hy with ⟨rfl, rfl⟩ | ⟨hj, hy⟩
      · exact (hothers i x hx hi).2
      · exact h.names i j x y hx hy hij

theorem Inv.step (r : DefaultTlsServerCertResolver) (ev : Event) (h : Inv toBase36 r)
    (hapart : Apart toBase36 r ev) : Inv toBase36 (step toBase36 r ev) := by
  cases ev with
  | add id => exact h.add hapart
  | remove key => exact h.remove key

theorem Inv.inOrder (h : Inv toBase36 r) : InOrder toBase36 r where
  found i x hx := (h.byId i x hx).2
  known key x hx := ⟨x, (h.keys key x hx).1⟩
  gone i x hx key y hy heq := by
    obtain ⟨hid, hfound⟩ := h.byId i x hx
    obtain ⟨hname, hne, -, hold⟩ := (resolve_remove hfound).mp hy
    obtain ⟨hreg, hkey⟩ := h.keys key y hold
    rw [heq, hx] at hreg
    cases hreg
    exact hkey.elim hne hname
  spared _ _ _ hx hother := h.resolve_remove_other hx hother

/-- What is not apart is found out by the next removal, if it is not at once. -/
theorem Inv.disordered (h : Inv toBase36 r) {ev : Event} (hapart : ¬ Apart toBase36 r ev) :
    ¬ InOrder toBase36 (DefaultTlsServerCertResolver.step toBase36 r ev) := by
  cases ev with
  | remove key => exact absurd trivial hapart
  | add id =>
    intro horder
    replace horder : InOrder toBase36 (r.addServerIdentity toBase36 id) := horder
    have hself : (r.addServerIdentity toBase36 id).registered.lookup (toBase36 id.getId) =
        some id := registered_add.mpr (.inl ⟨rfl, rfl⟩)
    refine hapart ⟨fun i x hx hne => ?_, fun x y hx hy hid => ?_⟩
    · have hkept : (r.addServerIdentity toBase36 id).registered.lookup i = some x :=
        registered_add.mpr (.inr ⟨hne, hx⟩)
      have hfound := horder.found i x hkept
      have hname : i ≠ id.getName := by
        rintro rfl
        rw [resolve_add, if_pos (.inr rfl)] at hfound
        cases hfound
        exact hne (h.byId _ _ hx).1.symm
      refine ⟨hname, fun heq => ?_⟩
      -- the removal of `x` takes the id of `id` out
      have hleft := horder.spared (toBase36 id.getId) id i hself fun d hd => by
        cases hfound.symm.trans hd
        rw [(h.byId i _ hx).1]
        exact hne
      exact ((resolve_remove hfound).mp hleft).1 heq.symm
    · by_contra hstale
      obtain ⟨hname, hother⟩ := not_or.mp hstale
      have hold : (r.addServerIdentity toBase36 id).resolver.getServerIdentity x.getName =
          some y := by
        rw [resolve_add, if_neg (not_or.mpr ⟨hother, hname⟩)]
        exact hy
      have hfound := horder.found _ _ hself
      refine horder.gone _ _ hself x.getName y ?_ hid
      exact (resolve_remove hfound).mpr ⟨hname, hother, hother, hold⟩

/-- **Registry.**  It is in order in every state of a run exactly when all that is added is apart from
what is registered. -/
theorem inOrder_iff (toBase36 : P2pId → Name) (evs : List Event) :
    Along (step toBase36) (Apart toBase36) new evs ↔
      ∀ pre, pre <+: evs → InOrder toBase36 (exec (step toBase36) new pre) :=
  along_iff (I := Inv toBase36) Inv.step (fun _ h => h.inOrder) (fun _ _ h hapart => h.disordered hapart)
    inv_new evs

/-- Two histories: an identity is named like the id of another one, and an identity is added again
under a new name and removed. -/
theorem renamed_disordered :
    let text : P2pId → Name := fun id => id.map fun byte => Nat.digitChar byte.val
    let named := exec (step text) new [.add ⟨[1], ['a'], .ok [], .ok []⟩, .add ⟨[2], ['1'], .ok [], .ok []⟩]
    let renamed := exec (step text) new [.add ⟨[1], ['a'], .ok [], .ok []⟩,
      .add ⟨[1], ['b'], .ok [], .ok []⟩, .remove ['1']]
    (named.resolver.getServerIdentity ['1']).map (·.getId) = some [2] ∧ ¬ InOrder text named ∧
      (renamed.resolver.getServerIdentity ['a']).map (·.getId) = some [1] ∧
      ¬ InOrder text renamed := by
  intro text named renamed
  have htaken : (named.resolver.getServerIdentity ['1']).map (·.getId) = some [2] := by decide
  have hstale : (renamed.resolver.getServerIdentity ['a']).map (·.getId) = some [1] := by decide
  refine ⟨htaken, fun horder => ?_, hstale, fun horder => ?_⟩
  · have hfound := horder.found ['1'] _ rfl
    rw [hfound] at htaken
    cases htaken
  · obtain ⟨x, hx, hid⟩ := Option.map_eq_some_iff.mp hstale
    obtain ⟨y, hy⟩ := horder.known ['a'] x hx
    rw [hid] at hy
    cases hy

end DefaultTlsServerCertResolver

end BuckyP2p.Tls
