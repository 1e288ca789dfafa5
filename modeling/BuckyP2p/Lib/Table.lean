import Mathlib.Data.List.AList

/-!
# BuckyP2p.Lib.Table — finite maps and what is kept in their values

`Table α β` is a finite map.  `retain` keeps the entries that pass a test, as `HashMap::retain`
does.  `collect f t` lists what `f` finds in all the values; the lemmas say how it is divided when
an entry is taken out, put back or filtered away, so that something that is in the values of a
table can be followed from one operation to the next.
-/

namespace Lib

abbrev Table (α β : Type*) : Type _ := AList fun _ : α => β

namespace Table

variable {α β γ : Type*}

/-- The entries that pass the test. -/
def retain (p : α → β → Bool) (t : Table α β) : Table α β :=
  ⟨t.entries.filter fun x => p x.1 x.2, t.nodupKeys.sublist List.filter_sublist⟩

/-- The same keys with new values. -/
def mapValues {δ : Type*} (g : β → δ) (t : Table α β) : Table α δ :=
  ⟨t.entries.map fun x => ⟨x.1, g x.2⟩, by
    have h := t.nodupKeys
    unfold List.NodupKeys List.keys at h ⊢
    rwa [List.map_map]⟩

/-- The same keys with new values, which depend on the key too. -/
def mapEntries {δ : Type*} (g : α → β → δ) (t : Table α β) : Table α δ :=
  ⟨t.entries.map fun x => ⟨x.1, g x.1 x.2⟩, by
    have h := t.nodupKeys
    unfold List.NodupKeys List.keys at h ⊢
    rwa [List.map_map]⟩

/-- What `f` finds in the values. -/
def collect (f : β → List γ) (t : Table α β) : List γ := t.entries.flatMap fun x => f x.2

/-- What is in the table is what is retained and what is not. -/
theorem collect_retain (f : β → List γ) (p : α → β → Bool) (t : Table α β) :
    (collect f t).Perm
      (collect f (retain p t) ++ collect f (retain (fun a b => !p a b) t)) := by
  unfold collect retain
  rw [← List.flatMap_append]
  exact (List.filter_append_perm (fun x => p x.1 x.2) t.entries).symm.flatMap_right _

/-- The number of entries that pass the test. -/
def count (p : α → β → Bool) (t : Table α β) : Nat := t.entries.countP fun x => p x.1 x.2

theorem count_retain_le (p q : α → β → Bool) (t : Table α β) :
    count p (retain q t) ≤ count p t := List.filter_sublist.countP_le

theorem count_mapValues {δ : Type*} (p : α → δ → Bool) (g : β → δ) (t : Table α β) :
    count p (mapValues g t) = count (fun a b => p a (g b)) t := List.countP_map

theorem length_keys (t : Table α β) : t.keys.length = t.entries.length := List.length_map _

variable [DecidableEq α]

theorem mem_entries_iff {t : Table α β} {a : α} {b : β} :
    ⟨a, b⟩ ∈ t.entries ↔ t.lookup a = some b := AList.mem_lookup_iff.symm

theorem eq_empty_of_lookup {t : Table α β} (h : ∀ a b, t.lookup a ≠ some b) : t = ∅ := by
  refine AList.ext ?_
  rw [show (∅ : Table α β).entries = [] from rfl, List.eq_nil_iff_forall_not_mem]
  rintro ⟨a, b⟩ hmem
  exact h a b (mem_entries_iff.mp hmem)

theorem length_insert_of_isSome {t : Table α β} {a : α} (b : β) (h : (t.lookup a).isSome = true) :
    (t.insert a b).entries.length = t.entries.length := by
  have hmem : a ∈ t.keys := AList.lookup_isSome.mp h
  have hpos : 0 < t.keys.length := List.length_pos_of_mem hmem
  have hinsert := congrArg List.length (AList.keys_insert (a := a) (b := b) t)
  rw [List.length_cons, List.length_erase_of_mem hmem, length_keys, length_keys] at hinsert
  rw [length_keys] at hpos
  omega

theorem length_insert_of_none {t : Table α β} {a : α} (b : β) (h : t.lookup a = none) :
    (t.insert a b).entries.length = t.entries.length + 1 := by
  rw [AList.entries_insert_of_notMem (AList.lookup_eq_none.mp h)]
  rfl

theorem lookup_retain {p : α → β → Bool} {t : Table α β} {a : α} {b : β} :
    (retain p t).lookup a = some b ↔ t.lookup a = some b ∧ p a b = true := by
  rw [← mem_entries_iff, ← mem_entries_iff, retain, List.mem_filter]

theorem lookup_erase_some {t : Table α β} {a a' : α} {b : β} :
    (t.erase a).lookup a' = some b ↔ a' ≠ a ∧ t.lookup a' = some b := by
  by_cases ha : a' = a
  · rw [ha, AList.lookup_erase]
    simp
  · rw [AList.lookup_erase_ne ha]
    exact (and_iff_right ha).symm

theorem lookup_insert_some {t : Table α β} {a a' : α} {b c : β} :
    (t.insert a b).lookup a' = some c ↔ a' = a ∧ b = c ∨ a' ≠ a ∧ t.lookup a' = some c := by
  by_cases ha : a' = a
  · rw [ha, AList.lookup_insert]
    simp
  · rw [AList.lookup_insert_ne ha]
    simp [ha]

theorem lookup_mapValues {δ : Type*} {g : β → δ} {t : Table α β} {a : α} {d : δ} :
    (mapValues g t).lookup a = some d ↔ ∃ b, t.lookup a = some b ∧ g b = d := by
  rw [← mem_entries_iff, mapValues, List.mem_map]
  constructor
  · rintro ⟨⟨a', b⟩, hmem, heq⟩
    cases heq
    exact ⟨b, mem_entries_iff.mp hmem, rfl⟩
  · rintro ⟨b, hl, rfl⟩
    exact ⟨⟨a, b⟩, mem_entries_iff.mpr hl, rfl⟩

theorem lookup_mapEntries {δ : Type*} {g : α → β → δ} {t : Table α β} {a : α} {d : δ} :
    (mapEntries g t).lookup a = some d ↔ ∃ b, t.lookup a = some b ∧ g a b = d := by
  rw [← mem_entries_iff, mapEntries, List.mem_map]
  constructor
  · rintro ⟨⟨a', b⟩, hmem, heq⟩
    cases heq
    exact ⟨b, mem_entries_iff.mp hmem, rfl⟩
  · rintro ⟨b, hl, rfl⟩
    exact ⟨⟨a, b⟩, mem_entries_iff.mpr hl, rfl⟩

theorem mem_collect {f : β → List γ} {t : Table α β} {x : γ} :
    x ∈ collect f t ↔ ∃ a b, t.lookup a = some b ∧ x ∈ f b := by
  rw [collect, List.mem_flatMap]
  constructor
  · rintro ⟨⟨a, b⟩, hmem, hx⟩
    exact ⟨a, b, mem_entries_iff.mp hmem, hx⟩
  · rintro ⟨a, b, hl, hx⟩
    exact ⟨⟨a, b⟩, mem_entries_iff.mpr hl, hx⟩

/-- The entries are the one at a key and the others. -/
theorem entries_perm_erase {t : Table α β} {a : α} {b : β} (h : t.lookup a = some b) :
    t.entries.Perm (⟨a, b⟩ :: (t.erase a).entries) := by
  refine (List.perm_ext_iff_of_nodup (List.NodupKeys.nodup t.nodupKeys) ?_).mpr ?_
  · refine List.nodup_cons.mpr ⟨?_, List.NodupKeys.nodup (t.erase a).nodupKeys⟩
    intro hmem
    rw [mem_entries_iff, AList.lookup_erase] at hmem
    cases hmem
  · rintro ⟨a', b'⟩
    rw [List.mem_cons, mem_entries_iff, mem_entries_iff]
    by_cases ha : a' = a
    · subst ha
      rw [AList.lookup_erase, h]
      constructor
      · intro heq
        cases heq
        exact .inl rfl
      · rintro (heq | heq)
        · cases heq
          rfl
        · cases heq
    · rw [AList.lookup_erase_ne ha]
      exact ⟨.inr, fun h => h.resolve_left fun heq => ha (congrArg Sigma.fst heq)⟩

/-- What is in the table is what is at one key and what is at the others. -/
theorem collect_erase {f : β → List γ} {t : Table α β} {a : α} {b : β} (h : t.lookup a = some b) :
    (collect f t).Perm (f b ++ collect f (t.erase a)) :=
  (entries_perm_erase h).flatMap_right _

/-! ### Counting entries -/

theorem count_erase_le (p : α → β → Bool) (t : Table α β) (a : α) :
    count p (t.erase a) ≤ count p t := (List.kerase_sublist a t.entries).countP_le

theorem count_insert (p : α → β → Bool) (t : Table α β) (a : α) (b : β) :
    count p (t.insert a b) = count p (t.erase a) + if p a b = true then 1 else 0 :=
  List.countP_cons

theorem count_insert_le (p : α → β → Bool) (t : Table α β) (a : α) (b : β) :
    count p (t.insert a b) ≤ count p t + if p a b = true then 1 else 0 := by
  rw [count_insert]
  exact Nat.add_le_add_right (count_erase_le p t a) _

/-- A new value that passes the test only if the old one did. -/
theorem count_insert_le_of_imp {p : α → β → Bool} {t : Table α β} {a : α} {b b' : β}
    (h : t.lookup a = some b) (hp : p a b' = true → p a b = true) :
    count p (t.insert a b') ≤ count p t := by
  have hsplit : count p t = count p (t.erase a) + if p a b = true then 1 else 0 :=
    ((entries_perm_erase h).countP_eq _).trans List.countP_cons
  rw [count_insert, hsplit]
  by_cases hb' : p a b' = true
  · rw [if_pos hb', if_pos (hp hb')]
  · rw [if_neg hb']
    omega

/-- A new value at a key that had one. -/
theorem collect_insert {f : β → List γ} {t : Table α β} {a : α} {b b' : β}
    (h : t.lookup a = some b) :
    (f b ++ collect f (t.insert a b')).Perm (f b' ++ collect f t) := by
  have hins := collect_erase (f := f) (AList.lookup_insert (a := a) (b := b') t)
  have herase : (t.insert a b').erase a = t.erase a := by
    refine AList.ext ?_
    show List.kerase a (List.kinsert a b' t.entries) = List.kerase a t.entries
    simp [List.kinsert]
  rw [herase] at hins
  have hswap : (f b ++ collect f (t.insert a b')).Perm (f b' ++ (f b ++ collect f (t.erase a))) :=
    (hins.append_left _).trans (List.perm_append_comm_assoc ..)
  exact hswap.trans ((collect_erase h).symm.append_left _)

/-- A value at a new key. -/
theorem collect_insert_new {f : β → List γ} {t : Table α β} {a : α} (b : β)
    (h : t.lookup a = none) : collect f (t.insert a b) = f b ++ collect f t := by
  rw [collect, AList.entries_insert_of_notMem (AList.lookup_eq_none.mp h)]
  rfl

/-- What is found once in all the values is found at one key. -/
theorem eq_of_count_le_one [DecidableEq γ] {f : β → List γ} {t : Table α β} {x : γ}
    (h : (collect f t).count x ≤ 1) {a a' : α} {b b' : β} (ha : t.lookup a = some b) (hx : x ∈ f b)
    (ha' : t.lookup a' = some b') (hx' : x ∈ f b') : a' = a := by
  by_contra hne
  have hrest : x ∈ collect f (t.erase a) :=
    mem_collect.mpr ⟨a', b', (AList.lookup_erase_ne hne).trans ha', hx'⟩
  have hsplit := (collect_erase (f := f) ha).count_eq x
  rw [List.count_append] at hsplit
  have hone := List.count_pos_iff.mpr hx
  have hmore := List.count_pos_iff.mpr hrest
  omega

end Table

end Lib
