import BuckyP2p.Tcp.Lease

/-!
# BuckyP2p.Tcp.Regions — what the regions of a lease leave as it is

A call that works on a lease does so in regions under its lock.  No region changes what the lease is
for (`Later`), and only the drop of a handle releases a half (`Intact`).
-/

namespace BuckyP2p.Tcp

namespace LeaseContext

/-- A lease after some of its regions: it is for the same, and if it was retired it still is. -/
structure Later (c c' : LeaseContext) : Prop where
  leaseSeq : c'.leaseSeq = c.leaseSeq
  channelId : c'.channelId = c.channelId
  kind : c'.kind = c.kind
  purpose : c'.purpose = c.purpose
  localInitiator : c'.localInitiator = c.localInitiator
  noReuse : c'.noReuse = c.noReuse
  retired : c.retired = true → c'.retired = true

/-- A lease after regions that release none of its halves. -/
structure Intact (c c' : LeaseContext) : Prop extends Later c c' where
  readReleased : c'.readReleased = c.readReleased
  writeReleased : c'.writeReleased = c.writeReleased

theorem Later.refl (c : LeaseContext) : c.Later c := ⟨rfl, rfl, rfl, rfl, rfl, rfl, id⟩

theorem Intact.refl (c : LeaseContext) : c.Intact c := ⟨.refl c, rfl, rfl⟩

theorem Intact.trans {c c' c'' : LeaseContext} (h : c.Intact c') (h' : c'.Intact c'') :
    c.Intact c'' where
  leaseSeq := h'.leaseSeq.trans h.leaseSeq
  channelId := h'.channelId.trans h.channelId
  kind := h'.kind.trans h.kind
  purpose := h'.purpose.trans h.purpose
  localInitiator := h'.localInitiator.trans h.localInitiator
  noReuse := h'.noReuse.trans h.noReuse
  retired hretired := h'.retired (h.retired hretired)
  readReleased := h'.readReleased.trans h.readReleased
  writeReleased := h'.writeReleased.trans h.writeReleased

theorem afterRead_intact (c : LeaseContext) (n : Nat) (eof : Bool) :
    c.Intact (c.afterRead n eof).1 := by
  unfold afterRead
  dsimp only
  repeat' split
  all_goals exact { Intact.refl c with }

theorem observeStart_intact {c c' : LeaseContext} {todo : List Todo}
    (h : c.observeStart = (some c', todo)) : c.Intact c' := by
  unfold observeStart at h
  split_ifs at h
  · cases h
  · cases h
    exact { Intact.refl c with }
  · cases h

theorem observeEnd_intact (c : LeaseContext) (result : ObservedRead) :
    c.Intact (c.observeEnd result).1 := by
  unfold observeEnd
  dsimp only
  repeat' split
  all_goals exact { Intact.refl c with }

theorem releaseReadHalf_later (c : LeaseContext) : c.Later c.releaseReadHalf.1 := by
  unfold releaseReadHalf
  dsimp only
  repeat' split
  all_goals exact { Later.refl c with }

theorem releaseWriteHalf_later (c : LeaseContext) : c.Later c.releaseWriteHalf.1 := by
  unfold releaseWriteHalf
  dsimp only
  repeat' split
  all_goals exact { Later.refl c with }

theorem sendWriteFin_intact (c : LeaseContext) : c.Intact c.sendWriteFin.1 := by
  unfold sendWriteFin
  dsimp only
  repeat' split
  all_goals exact { Intact.refl c with }

theorem sendReadDone_intact (c : LeaseContext) : c.Intact c.sendReadDone.1 := by
  unfold sendReadDone
  split
  all_goals exact { Intact.refl c with }

theorem receiveWriteFin_intact (c : LeaseContext) (n : U64) :
    c.Intact (c.receiveWriteFin n).1 := by
  unfold receiveWriteFin
  dsimp only
  split
  all_goals exact { Intact.refl c with }

theorem handleWriteFin_intact (c : LeaseContext) (fin : WriteFin) :
    c.Intact (c.handleWriteFin fin).1 := by
  have hset := c.receiveWriteFin_intact fin.finalTxBytes
  unfold handleWriteFin
  split_ifs
  · exact .refl c
  · exact .refl c
  · exact .refl c
  · exact .refl c
  · exact .refl c
  · dsimp only
    split_ifs
    · exact hset
    · exact hset
    · exact hset

theorem handleReadDone_intact (c : LeaseContext) (done : ReadDone) :
    c.Intact (c.handleReadDone done).1 := by
  unfold handleReadDone
  repeat' split
  all_goals exact { Intact.refl c with }

theorem maybeFinalizeLease_intact (c : LeaseContext) : c.Intact c.maybeFinalizeLease.1 := by
  unfold maybeFinalizeLease
  split_ifs
  · exact .refl c
  · exact { Intact.refl c with }
  · exact { Intact.refl c with retired := fun _ => rfl }
  · exact .refl c

theorem retireLease_intact (c : LeaseContext) : c.Intact c.retireLease.1 := by
  unfold retireLease
  split_ifs
  · exact .refl c
  · exact { Intact.refl c with retired := fun _ => rfl }

theorem absorbFin_intact (c : LeaseContext) (fin : Option WriteFin) :
    c.Intact (c.absorbFin fin).1 := by
  unfold absorbFin
  split
  · split
    · exact c.receiveWriteFin_intact _
    · exact .refl c
  · exact .refl c

theorem absorbDone_intact (c : LeaseContext) (done : Option ReadDone) :
    c.Intact (c.absorbDone done).1 := by
  unfold absorbDone
  repeat' split
  all_goals exact { Intact.refl c with }

theorem absorbDrainFin_intact (c : LeaseContext) (fin : Option WriteFin) :
    c.Intact (c.absorbDrainFin fin).1 := by
  unfold absorbDrainFin
  split
  · split
    · exact .refl c
    · exact c.receiveWriteFin_intact _
  · exact .refl c

theorem absorbDrainDone_intact (c : LeaseContext) (done : Option ReadDone) :
    c.Intact (c.absorbDrainDone done).1 := by
  unfold absorbDrainDone
  repeat' split
  all_goals exact { Intact.refl c with }

theorem absorb_intact (c : LeaseContext) (pendingFin : Option WriteFin)
    (pendingReadDone : Option ReadDone) (pendingDrain : PendingDrainFacts) :
    c.Intact (c.absorb pendingFin pendingReadDone pendingDrain).1 :=
  (c.absorbFin_intact _).trans <| (absorbDone_intact _ _).trans <|
    (absorbDrainFin_intact _ _).trans (absorbDrainDone_intact _ _)

end LeaseContext

end BuckyP2p.Tcp
