import BuckyP2p.Quic.Answers

/-!
# BuckyP2p.Quic.Agreement — an open has one answer, and both ends agree on it (`quic/tunnel.rs`)

`Sound` is what every step keeps.  An entry of `pending_open_requests` is that of a call that has not
got its answer and cleans up behind it (`Waits`); what `close_with_error` has drained is not in the
table any more; an answer on its way is one that the handler of the call with its id has written.
Request ids of one end are those of different calls, so that the answer for an id is for its call.
-/

namespace BuckyP2p.Quic.Answers

open Lib
open ControlStream (TunnelCommandResult)
open Tcp (TunnelPurpose)

/-- The call has no entry yet. -/
def Phase.early : Phase → Bool
  | .opening | .numbering | .inserting => true
  | _ => false

/-- The call has seen a success. -/
def Phase.fine : Phase → Bool
  | .completing | .promoting | .returned (.ok ()) => true
  | _ => false

def Phase.isReturned : Phase → Bool
  | .returned _ => true
  | _ => false

/-- The handler of the call has read its id and its purpose, and has answered `Success`. -/
def Call.Agreed (x : Call) : Prop :=
  ∃ requestId, x.requestId = some requestId ∧
    x.handler.req = some ⟨requestId, x.kind, x.purpose⟩ ∧ x.handler.answered = some .success

/-- The sender of the call is in use, and the call removes its entry before it returns. -/
structure Call.Waits (x : Call) : Prop where
  phase : x.phase = .writing ∨ x.phase = .waiting
  answer : x.answer = .none
  sends : x.sends = 0

/-- The drained entries whose senders `close_with_error` has not used. -/
def QuicTunnel.left (t : QuicTunnel) : List (Nat × Nat) :=
  match t.closing with
  | .sending left => left
  | _ => []

structure Handler.Fits (h : Handler) (retired : Bool) : Prop where
  unread : h.phase = .idle ∨ h.phase = .reading → h.req = none
  answered : ∀ result, h.answered = some result →
    h.req ≠ none ∧ (h.phase = .promoting ∨ h.phase = .ended)
  promoting : h.phase = .promoting → h.answered = some .success
  handed : h.handed ≠ 0 → h.handed = 1 ∧ h.phase = .ended ∧ h.answered = some .success
  success : h.answered = some .success → h.phase = .promoting ∨ h.handed = 1 ∨ retired = true

structure Call.Fits (x : Call) (tunnels : Side → QuicTunnel) : Prop where
  number : ∀ r, x.requestId = some r → r < (tunnels x.side).nextRequestId
  unnumbered : x.phase = .opening ∨ x.phase = .numbering → x.requestId = none
  early : x.phase.early = true → x.answer = .none ∧ x.sends = 0
  inserting : x.phase = .inserting → x.kind = .datagram
  req : ∀ q, x.handler.req = some q →
    x.requestId = some q.requestId ∧ q.kind = x.kind ∧ q.purpose = x.purpose
  answer : x.answer = .sent (.ok ()) → x.Agreed
  back : ∀ resp, x.back = some resp → x.handler.req ≠ none ∧ x.handler.answered = some resp.result
  fine : x.phase.fine = true → x.Agreed
  sends : x.sends ≤ 1
  handler : x.handler.Fits (tunnels (!x.side)).retired

namespace Handler.Fits

variable {h : Handler} {retired : Bool}

theorem mono {retired' : Bool} (hf : h.Fits retired) (hr : retired = true → retired' = true) :
    h.Fits retired' where
  unread := hf.unread
  answered := hf.answered
  promoting := hf.promoting
  handed := hf.handed
  success hs := (hf.success hs).imp_right fun hor => hor.imp_right hr

/-- The handler has not answered. -/
theorem unanswered (hf : h.Fits retired) (hp : h.phase ≠ .promoting ∧ h.phase ≠ .ended) :
    h.answered = none ∧ h.handed = 0 := by
  constructor
  · cases ha : h.answered with
    | none => rfl
    | some result =>
      rcases (hf.answered result ha).2 with hpp | hpe
      · exact absurd hpp hp.1
      · exact absurd hpe hp.2
  · by_contra hne
    exact hp.2 (hf.handed hne).2.1

/-- A step before the answer. -/
theorem move (hf : h.Fits retired) (hp : h.phase ≠ .promoting ∧ h.phase ≠ .ended)
    {phase : HandlerPhase} (hphase : phase ≠ .promoting)
    (hread : phase = .idle ∨ phase = .reading → h.phase = .idle ∨ h.phase = .reading) :
    Handler.Fits { h with phase := phase } retired := by
  obtain ⟨hnone, hzero⟩ := hf.unanswered hp
  refine ⟨fun hidle => hf.unread (hread hidle), ?_, fun heq => absurd heq hphase,
    fun hne => absurd hzero hne, ?_⟩
  · intro result hresult
    rw [show h.answered = some result from hresult] at hnone
    cases hnone
  · intro hresult
    rw [show h.answered = some .success from hresult] at hnone
    cases hnone

theorem respond (hf : h.Fits retired) {result : TunnelCommandResult} {req : TunnelOpenChannelReq}
    (hp : h.phase = .responding result) (hreq : h.req = some req) (result' : TunnelCommandResult) :
    Handler.Fits { h with
      answered := some result'
      phase := if result' = .success then .promoting else .ended } retired := by
  obtain ⟨-, hzero⟩ := hf.unanswered ⟨by rw [hp]; simp, by rw [hp]; simp⟩
  refine ⟨?_, ?_, ?_, fun hne => absurd hzero hne, ?_⟩
  · intro hphase
    dsimp only at hphase
    split_ifs at hphase
    · simp at hphase
    · simp at hphase
  · intro result'' hresult
    refine ⟨by simp [hreq], ?_⟩
    dsimp only
    split_ifs
    · exact .inl rfl
    · exact .inr rfl
  · intro hphase
    dsimp only at hphase ⊢
    split_ifs at hphase with hs
    · rw [hs]
  · intro hs
    cases hs
    exact .inl rfl

/-- The channel is given to the callback, or the tunnel is retired. -/
theorem promote (hf : h.Fits retired) (hp : h.phase = .promoting) {handed halves : Nat}
    (hhanded : handed = 1 ∨ handed = 0 ∧ retired = true) :
    Handler.Fits { h with phase := .ended, handed := handed, halves := halves } retired := by
  have hs := hf.promoting hp
  refine ⟨by simp, fun result hr => ⟨(hf.answered result hr).1, .inr rfl⟩, by simp, ?_, ?_⟩
  · intro hne
    rcases hhanded with hone | ⟨hzero, -⟩
    · exact ⟨hone, rfl, hs⟩
    · exact absurd hzero hne
  · intro _
    rcases hhanded with hone | ⟨-, hretired⟩
    · exact .inr (.inl hone)
    · exact .inr (.inr hretired)

theorem zero (hf : h.Fits retired) (hp : h.phase = .promoting) : h.handed = 0 := by
  by_contra hne
  have hended := (hf.handed hne).2.1
  rw [hp] at hended
  cases hended

end Handler.Fits

namespace Call.Fits

variable {x : Call} {tunnels : Side → QuicTunnel}

theorem mono {tunnels' : Side → QuicTunnel} (hf : x.Fits tunnels)
    (hnext : ∀ a, (tunnels a).nextRequestId ≤ (tunnels' a).nextRequestId)
    (hretired : ∀ a, (tunnels a).retired = true → (tunnels' a).retired = true) : x.Fits tunnels' where
  number r hr := Nat.lt_of_lt_of_le (hf.number r hr) (hnext x.side)
  unnumbered := hf.unnumbered
  early := hf.early
  inserting := hf.inserting
  req := hf.req
  answer := hf.answer
  back := hf.back
  fine := hf.fine
  sends := hf.sends
  handler := hf.handler.mono (hretired (!x.side))

theorem agreed (hf : x.Fits tunnels) (hreq : x.handler.req ≠ none)
    (hanswered : x.handler.answered = some .success) : x.Agreed := by
  obtain ⟨q, hq⟩ := Option.ne_none_iff_exists'.mp hreq
  obtain ⟨hid, hkind, hpurpose⟩ := hf.req q hq
  exact ⟨q.requestId, hid, by rw [hq, ← hkind, ← hpurpose], hanswered⟩

/-- A step of the call; the one before the stream is open is `numbering`. -/
theorem advance (hf : x.Fits tunnels) {phase : Phase} {sent : Bool} {halves : Nat}
    (hearly : phase.early = true → phase = .numbering ∧ x.phase = .opening)
    (hfine : phase.fine = true → x.Agreed) :
    Call.Fits { x with phase := phase, sent := sent, halves := halves } tunnels where
  number := hf.number
  unnumbered h := by
    have he : phase.early = true := by
      rcases (show phase = .opening ∨ phase = .numbering from h) with rfl | rfl
      · rfl
      · rfl
    exact hf.unnumbered (.inl (hearly he).2)
  early h := hf.early (by rw [(hearly h).2]; rfl)
  inserting h := by
    obtain rfl : phase = .inserting := h
    cases (hearly rfl).1
  req := hf.req
  answer := hf.answer
  back := hf.back
  fine := hfine
  sends := hf.sends
  handler := hf.handler

/-- A step of the handler, which has what it had of the request and of the answer. -/
theorem handle (hf : x.Fits tunnels) {h : Handler} {back : Option TunnelOpenChannelResp}
    (hh : h.Fits (tunnels (!x.side)).retired)
    (hreq : ∀ q, h.req = some q →
      x.requestId = some q.requestId ∧ q.kind = x.kind ∧ q.purpose = x.purpose)
    (hkept : ∀ q, x.handler.req = some q → h.req = some q)
    (hanswered : ∀ result, x.handler.answered = some result → h.answered = some result)
    (hback : ∀ resp, back = some resp → h.req ≠ none ∧ h.answered = some resp.result) :
    Call.Fits { x with handler := h, back := back } tunnels := by
  have hagreed : x.Agreed → Call.Agreed { x with handler := h, back := back } := by
    rintro ⟨r, hid, hq, hs⟩
    exact ⟨r, hid, hkept _ hq, hanswered _ hs⟩
  exact ⟨hf.number, hf.unnumbered, hf.early, hf.inserting, hreq, fun ha => hagreed (hf.answer ha), hback,
    fun hp => hagreed (hf.fine hp), hf.sends, hh⟩

end Call.Fits

/-- A tunnel after a step that adds no entry. -/
structure QuicTunnel.Grows (t t' : QuicTunnel) : Prop where
  next : t.nextRequestId ≤ t'.nextRequestId
  retired : t.retired = true → t'.retired = true
  pending : ∀ r k, t'.pendingOpenRequests.lookup r = some k → t.pendingOpenRequests.lookup r = some k
  left : t'.left.Sublist t.left

namespace QuicTunnel

variable (t : QuicTunnel)

theorem Grows.refl : t.Grows t := ⟨le_rfl, id, fun _ _ h => h, List.Sublist.refl _⟩

theorem grows_beginPending : t.Grows t.beginPending := ⟨le_rfl, id, fun _ _ h => h, List.Sublist.refl _⟩

theorem Grows.dropPending {t t' : QuicTunnel} (h : t.Grows t') : t.Grows t'.dropPending :=
  ⟨h.next, h.retired, h.pending, h.left⟩

theorem grows_promoted (kind : TunnelChannelKind) : t.Grows (t.promoted kind) :=
  ⟨le_rfl, id, fun _ _ h => h, List.Sublist.refl _⟩

theorem grows_dropWork : t.Grows t.dropWork := ⟨le_rfl, id, fun _ _ h => h, List.Sublist.refl _⟩

theorem grows_removePending (requestId : Nat) : t.Grows (t.removePending requestId) := by
  refine ⟨le_rfl, id, ?_, List.Sublist.refl _⟩
  intro r k h
  by_cases hr : r = requestId
  · subst hr
    cases (AList.lookup_erase _ _).symm.trans h
  · exact (AList.lookup_erase_ne hr).symm.trans h

theorem removePending_lookup {requestId r k : Nat}
    (h : (t.removePending requestId).pendingOpenRequests.lookup r = some k) : r ≠ requestId := by
  rintro rfl
  cases (AList.lookup_erase _ _).symm.trans h

theorem grows_setListener (kind : TunnelChannelKind) (l : Listener) : t.Grows (t.setListener kind l) :=
  ⟨le_rfl, id, fun _ _ h => h, List.Sublist.refl _⟩

theorem grows_tryRetireIdle (elapsed : Bool) : t.Grows (t.tryRetireIdle elapsed) := by
  unfold tryRetireIdle
  split_ifs
  · exact ⟨le_rfl, fun _ => rfl, fun _ _ h => h, List.Sublist.refl _⟩
  · exact .refl t

end QuicTunnel

/-- The call has kept what others know of it. -/
structure Call.Keeps (x x' : Call) : Prop where
  side : x'.side = x.side
  kind : x'.kind = x.kind
  requestId : ∀ r, x.requestId = some r → x'.requestId = some r
  answer : x'.answer = x.answer
  sends : x'.sends = x.sends
  early : x.phase.early = false → x'.phase.early = false
  req : x.handler.req ≠ none → x'.handler.req ≠ none
  answered : ∀ result, x.handler.answered = some result → x'.handler.answered = some result

namespace Connection

structure Sound (s : Connection) : Prop where
  calls : ∀ (k : Nat) x, s.calls[k]? = some x → x.Fits s.tunnels
  distinct : ∀ (k k' : Nat) x x' r, s.calls[k]? = some x → s.calls[k']? = some x' → x.side = x'.side →
    x.requestId = some r → x'.requestId = some r → k = k'
  pending : ∀ a r k, (s.tunnels a).pendingOpenRequests.lookup r = some k →
    ∃ x, s.calls[k]? = some x ∧ x.side = a ∧ x.kind = .datagram ∧ x.requestId = some r ∧ x.Waits
  left : ∀ a r k, (r, k) ∈ (s.tunnels a).left →
    (s.tunnels a).pendingOpenRequests.lookup r = none ∧
      ∃ x, s.calls[k]? = some x ∧ x.side = a ∧ x.requestId = some r ∧ x.phase.early = false ∧
        x.answer = .none ∧ x.sends = 0
  nodup : ∀ a, ((s.tunnels a).left.map Prod.fst).Nodup
  commands : ∀ a resp, resp ∈ s.commands a →
    ∃ (k : Nat) (x : Call), s.calls[k]? = some x ∧ x.side = a ∧
      x.requestId = some resp.requestId ∧ x.handler.req ≠ none ∧ x.handler.answered = some resp.result

variable {s : Connection} {k : Nat} {x : Call} {a : Side} {t : QuicTunnel}

theorem sound_init : init.Sound where
  calls k x h := by cases h
  distinct k k' x x' r h := by cases h
  pending a r k h := by cases h
  left a r k h := by cases h
  nodup a := List.nodup_nil
  commands a resp h := by cases h

/-- The tunnel that a step changes, and the others. -/
theorem update_cases {P : Side → QuicTunnel → Prop} (ht : P a t) (hs : ∀ b, P b (s.tunnels b)) (b : Side) :
    P b (Function.update s.tunnels a t b) := by
  by_cases hb : b = a
  · subst hb
    rw [Function.update_self]
    exact ht
  · rw [Function.update_of_ne hb]
    exact hs b

theorem grows_update (hg : (s.tunnels a).Grows t) (b : Side) :
    (s.tunnels b).Grows (Function.update s.tunnels a t b) :=
  update_cases (P := fun b t' => (s.tunnels b).Grows t') hg (fun _ => .refl _) b

/-- The calls do not look at the tables of a tunnel. -/
theorem Sound.fits_update (h : s.Sound) (hnext : t.nextRequestId = (s.tunnels a).nextRequestId)
    (hretired : t.retired = (s.tunnels a).retired) {j : Nat} {y : Call}
    (hy : s.calls[j]? = some y) : y.Fits (Function.update s.tunnels a t) := by
  refine (h.calls j y hy).mono ?_ ?_
  · exact update_cases (P := fun b t' => (s.tunnels b).nextRequestId ≤ t'.nextRequestId) hnext.ge
      fun _ => le_rfl
  · exact update_cases (P := fun b t' => (s.tunnels b).retired = true → t'.retired = true)
      hretired.trans fun _ => id

/-- A step of the call `k` or of its handler. -/
theorem Sound.put (h : s.Sound) (hx : s.calls[k]? = some x) {x' : Call} (hk : x.Keeps x')
    (hg : (s.tunnels a).Grows t) (hfits : x'.Fits (Function.update s.tunnels a t))
    (hnew : ∀ r, x'.requestId = some r →
      x.requestId = some r ∨ (s.tunnels x.side).nextRequestId ≤ r)
    (hwaits : ∀ r, (Function.update s.tunnels a t x.side).pendingOpenRequests.lookup r = some k →
      x.requestId = some r → x.Waits → x'.Waits) : (s.put k x' a t).Sound := by
  have hgrow := grows_update hg
  have hself : (s.calls.set k x')[k]? = some x' :=
    List.getElem?_set_self (List.getElem?_eq_some_iff.mp hx).1
  have hother : ∀ {j : Nat} {y}, j ≠ k → s.calls[j]? = some y → (s.calls.set k x')[j]? = some y :=
    fun hne hy => (List.getElem?_set_ne (Ne.symm hne)).trans hy
  -- a number of the call that is new is not that of another call
  have hfresh : ∀ (j : Nat) y r, j ≠ k → s.calls[j]? = some y → y.side = x.side → y.requestId = some r →
      x'.requestId ≠ some r := by
    intro j y r hne hy hside hr hr'
    rcases hnew r hr' with hold | hle
    · exact hne (h.distinct j k y x r hy hx hside hr hold)
    · have hlt := (h.calls j y hy).number r hr
      rw [hside] at hlt
      omega
  refine ⟨?_, ?_, ?_, ?_, ?_, ?_⟩
  · intro j y hy
    rcases getElem?_set_cases hx hy with ⟨rfl, rfl⟩ | ⟨-, hold⟩
    · exact hfits
    · exact (h.calls j y hold).mono (fun b => (hgrow b).next) fun b => (hgrow b).retired
  · intro i j y z r hy hz hside hyr hzr
    rcases getElem?_set_cases hx hy with ⟨rfl, rfl⟩ | ⟨hi, hyold⟩
    · rcases getElem?_set_cases hx hz with ⟨rfl, -⟩ | ⟨hj, hzold⟩
      · rfl
      · exact absurd hyr (hfresh j z r hj hzold (hside.symm.trans hk.side) hzr)
    · rcases getElem?_set_cases hx hz with ⟨rfl, rfl⟩ | ⟨hj, hzold⟩
      · exact absurd hzr (hfresh i y r hi hyold (hside.trans hk.side) hyr)
      · exact h.distinct i j y z r hyold hzold hside hyr hzr
  · intro b r j hlookup
    obtain ⟨y, hy, hside, hkind, hid, hwait⟩ := h.pending b r j ((hgrow b).pending r j hlookup)
    by_cases hj : j = k
    · subst hj
      cases hx.symm.trans hy
      subst hside
      exact ⟨x', hself, hk.side, hk.kind.trans hkind, hk.requestId r hid, hwaits r hlookup hid hwait⟩
    · exact ⟨y, hother hj hy, hside, hkind, hid, hwait⟩
  · intro b r j hmem
    obtain ⟨hnone, y, hy, hside, hid, hearly, hanswer, hsends⟩ :=
      h.left b r j ((hgrow b).left.mem hmem)
    refine ⟨?_, ?_⟩
    · rw [Option.eq_none_iff_forall_ne_some]
      intro j' hj'
      rw [(hgrow b).pending r j' hj'] at hnone
      cases hnone
    · by_cases hj : j = k
      · subst hj
        cases hx.symm.trans hy
        exact ⟨x', hself, hk.side.trans hside, hk.requestId r hid, hk.early hearly,
          hk.answer.trans hanswer, hk.sends.trans hsends⟩
      · exact ⟨y, hother hj hy, hside, hid, hearly, hanswer, hsends⟩
  · intro b
    exact (h.nodup b).sublist ((hgrow b).left.map Prod.fst)
  · intro b resp hresp
    obtain ⟨j, y, hy, hside, hid, hreq, hanswered⟩ := h.commands b resp hresp
    by_cases hj : j = k
    · subst hj
      cases hx.symm.trans hy
      exact ⟨j, x', hself, hk.side.trans hside, hk.requestId _ hid, hk.req hreq,
        hk.answered _ hanswered⟩
    · exact ⟨j, y, hother hj hy, hside, hid, hreq, hanswered⟩

/-- A step of a tunnel alone. -/
theorem Sound.tunnel (h : s.Sound) (hg : (s.tunnels a).Grows t) : (s.setTunnel a t).Sound := by
  have hgrow := grows_update hg
  refine ⟨?_, h.distinct, ?_, ?_, ?_, h.commands⟩
  · intro j y hy
    exact (h.calls j y hy).mono (fun b => (hgrow b).next) fun b => (hgrow b).retired
  · intro b r j hlookup
    exact h.pending b r j ((hgrow b).pending r j hlookup)
  · intro b r j hmem
    obtain ⟨hnone, hcall⟩ := h.left b r j ((hgrow b).left.mem hmem)
    refine ⟨?_, hcall⟩
    rw [Option.eq_none_iff_forall_ne_some]
    intro j' hj'
    rw [(hgrow b).pending r j' hj'] at hnone
    cases hnone
  · intro b
    exact (h.nodup b).sublist ((hgrow b).left.map Prod.fst)

/-- The sender of a call is used that is neither in the table nor drained. -/
theorem Sound.finish (h : s.Sound) (hx : s.calls[k]? = some x) (hearly : x.phase.early = false)
    (hsends : x.sends = 0) {result : Result} (hok : result = .ok () → x.Agreed)
    (hpending : ∀ a r, (s.tunnels a).pendingOpenRequests.lookup r ≠ some k)
    (hleft : ∀ a r, (r, k) ∉ (s.tunnels a).left) : (s.finish k result).Sound := by
  let x' : Call := { x with answer := .sent result, sends := x.sends + 1 }
  have hself : (s.finish k result).calls[k]? = some x' := getElem?_modify_of_eq_some hx
  have hother : ∀ {j : Nat} {y}, j ≠ k → s.calls[j]? = some y → (s.finish k result).calls[j]? = some y :=
    fun hne hy => (getElem?_modify_of_ne hne).trans hy
  have hfits := h.calls k x hx
  have hcases : ∀ {j : Nat} {y}, (s.finish k result).calls[j]? = some y →
      (j = k ∧ y = x') ∨ (j ≠ k ∧ s.calls[j]? = some y) := fun hy => getElem?_modify_cases hx hy
  refine ⟨?_, ?_, ?_, ?_, h.nodup, ?_⟩
  · intro j y hy
    rcases hcases hy with ⟨rfl, rfl⟩ | ⟨-, hold⟩
    · refine ⟨hfits.number, hfits.unnumbered, ?_, hfits.inserting, hfits.req, ?_, hfits.back, hfits.fine, ?_,
        hfits.handler⟩
      · intro he
        cases hearly.symm.trans he
      · intro ha
        cases ha
        exact hok rfl
      · show x.sends + 1 ≤ 1
        omega
    · exact h.calls j y hold
  · intro i j y z r hy hz hside hyr hzr
    rcases hcases hy with ⟨rfl, rfl⟩ | ⟨-, hyold⟩
    · rcases hcases hz with ⟨rfl, -⟩ | ⟨-, hzold⟩
      · rfl
      · exact h.distinct _ j x z r hx hzold hside hyr hzr
    · rcases hcases hz with ⟨rfl, rfl⟩ | ⟨-, hzold⟩
      · exact h.distinct i _ y x r hyold hx hside hyr hzr
      · exact h.distinct i j y z r hyold hzold hside hyr hzr
  · intro b r j hlookup
    obtain ⟨y, hy, hrest⟩ := h.pending b r j hlookup
    have hj : j ≠ k := by
      rintro rfl
      exact hpending b r hlookup
    exact ⟨y, hother hj hy, hrest⟩
  · intro b r j hmem
    obtain ⟨hnone, y, hy, hrest⟩ := h.left b r j hmem
    have hj : j ≠ k := by
      rintro rfl
      exact hleft b r hmem
    exact ⟨hnone, y, hother hj hy, hrest⟩
  · intro b resp hresp
    obtain ⟨j, y, hy, hside, hid, hreq, hanswered⟩ := h.commands b resp hresp
    by_cases hj : j = k
    · subst hj
      cases hx.symm.trans hy
      exact ⟨j, x', hself, hside, hid, hreq, hanswered⟩
    · exact ⟨j, y, hother hj hy, hside, hid, hreq, hanswered⟩

/-- A step of the call itself, to the phase `phase`. -/
theorem Sound.advance (h : s.Sound) (hx : s.calls[k]? = some x) {phase : Phase} {sent : Bool}
    {halves : Nat} (hg : (s.tunnels x.side).Grows t)
    (hearly : phase.early = true → phase = .numbering ∧ x.phase = .opening)
    (hfine : phase.fine = true → x.Agreed)
    (hwaits : ∀ r, t.pendingOpenRequests.lookup r = some k → x.requestId = some r → x.Waits →
      phase = .writing ∨ phase = .waiting) :
    (s.put k { x with phase := phase, sent := sent, halves := halves } x.side t).Sound := by
  have hlate : x.phase.early = false → phase.early = false := by
    intro hl
    by_contra hne
    rw [(hearly (Bool.eq_true_of_not_eq_false hne)).2] at hl
    cases hl
  refine h.put hx ⟨rfl, rfl, fun _ hr => hr, rfl, rfl, hlate, fun hr => hr, fun _ hr => hr⟩ hg ?_
    (fun _ hr => .inl hr) ?_
  · have hfits : Call.Fits { x with phase := phase, sent := sent, halves := halves } s.tunnels :=
      (h.calls k x hx).advance hearly hfine
    exact hfits.mono (fun b => (grows_update hg b).next) fun b => (grows_update hg b).retired
  · intro r hlookup hid hwait
    rw [Function.update_self] at hlookup
    exact ⟨hwaits r hlookup hid hwait, hwait.answer, hwait.sends⟩

theorem Sound.fail (h : s.Sound) (hx : s.calls[k]? = some x) (hg : (s.tunnels x.side).Grows t)
    (hfree : ∀ r, t.pendingOpenRequests.lookup r = some k → x.requestId = some r → ¬x.Waits)
    (code : P2pErrorCode) : (s.fail k x t code).Sound :=
  h.advance hx hg.dropPending (fun he => by simp [Phase.early] at he)
    (fun hf => by simp [Phase.fine] at hf) fun r hl hid hw => absurd hw (hfree r hl hid)

/-- A step that leaves the tunnels as they are. -/
theorem Sound.move (h : s.Sound) (hx : s.calls[k]? = some x) {phase : Phase}
    (hearly : phase.early = true → phase = .numbering ∧ x.phase = .opening)
    (hfine : phase.fine = true → x.Agreed)
    (hwaits : ∀ r, (s.tunnels x.side).pendingOpenRequests.lookup r = some k → x.Waits →
      phase = .writing ∨ phase = .waiting) : (s.move k x phase).Sound :=
  h.advance hx (.refl _) hearly hfine fun r hl _ hw => hwaits r hl hw

theorem not_waits_of_phase (hp : x.phase ≠ .writing ∧ x.phase ≠ .waiting) : ¬x.Waits := by
  rintro ⟨hw | hw, -, -⟩
  · exact hp.1 hw
  · exact hp.2 hw

theorem not_waits_of_answer (ha : x.answer ≠ .none) : ¬x.Waits := fun hw => ha hw.answer

/-- The entries of a stream channel and of a call of another phase are none. -/
theorem Sound.kind_of_pending (h : s.Sound) (hx : s.calls[k]? = some x) {r : Nat}
    (hl : (s.tunnels a).pendingOpenRequests.lookup r = some k) :
    x.side = a ∧ x.kind = .datagram ∧ x.requestId = some r ∧ x.Waits := by
  obtain ⟨y, hy, hrest⟩ := h.pending a r k hl
  cases hx.symm.trans hy
  exact hrest

theorem Sound.number (h : s.Sound) (hx : s.calls[k]? = some x) (hp : x.phase = .numbering) :
    (s.put k { x with
      requestId := some (s.tunnels x.side).nextRequestId
      phase := if x.kind = .stream then .writing else .inserting } x.side
        { s.tunnels x.side with nextRequestId := (s.tunnels x.side).nextRequestId + 1 }).Sound := by
  have hfits := h.calls k x hx
  have hnone := hfits.unnumbered (.inr hp)
  have hunread : x.handler.req = none := by
    cases hq : x.handler.req with
    | none => rfl
    | some q =>
      rw [(hfits.req q hq).1] at hnone
      cases hnone
  have hnot : ¬x.Agreed := by
    rintro ⟨r, hid, -⟩
    rw [hnone] at hid
    cases hid
  have hg : (s.tunnels x.side).Grows
      { s.tunnels x.side with nextRequestId := (s.tunnels x.side).nextRequestId + 1 } :=
    ⟨Nat.le_succ _, id, fun _ _ hl => hl, List.Sublist.refl _⟩
  refine h.put hx ⟨rfl, rfl, ?_, rfl, rfl, ?_, fun hr => hr, fun _ hr => hr⟩ hg ?_ ?_ ?_
  · intro r hr
    rw [hnone] at hr
    cases hr
  · intro he
    rw [hp] at he
    cases he
  · have hquiet := hfits.early (by rw [hp]; rfl)
    refine ⟨?_, ?_, fun _ => hquiet, ?_, ?_, ?_, hfits.back, ?_, hfits.sends, ?_⟩
    · intro r hr
      cases hr
      dsimp only
      rw [Function.update_self]
      exact Nat.lt_succ_self _
    · intro hphase
      dsimp only at hphase
      split_ifs at hphase
      · simp at hphase
      · simp at hphase
    · intro hphase
      dsimp only at hphase ⊢
      split_ifs at hphase with hstream
      cases hkind : x.kind with
      | stream => exact absurd hkind hstream
      | datagram => rfl
    · intro q hq
      rw [show x.handler.req = some q from hq] at hunread
      cases hunread
    · intro ha
      exact absurd (hfits.answer ha) hnot
    · intro hf
      dsimp only at hf
      split_ifs at hf
      · simp [Phase.fine] at hf
      · simp [Phase.fine] at hf
    · exact hfits.handler.mono (grows_update hg (!x.side)).retired
  · intro r hr
    cases hr
    exact .inr le_rfl
  · intro r _ hid
    rw [hnone] at hid
    cases hid

/-- The entry of a call gets into the table, where there is none for its id. -/
theorem Sound.pend (h : s.Sound) (hx : s.calls[k]? = some x) (hkind : x.kind = .datagram) {r : Nat}
    (hid : x.requestId = some r) (hw : x.Waits) (hleft : ∀ j, (r, j) ∉ (s.tunnels x.side).left) :
    (s.setTunnel x.side { s.tunnels x.side with
      pendingOpenRequests := (s.tunnels x.side).pendingOpenRequests.insert r k }).Sound := by
  let t : QuicTunnel := { s.tunnels x.side with
    pendingOpenRequests := (s.tunnels x.side).pendingOpenRequests.insert r k }
  have hsame : ∀ b, (Function.update s.tunnels x.side t b).left = (s.tunnels b).left :=
    update_cases (P := fun b t' => t'.left = (s.tunnels b).left) rfl fun _ => rfl
  have hlookup : ∀ b r' j, (Function.update s.tunnels x.side t b).pendingOpenRequests.lookup r' = some j →
      (b = x.side ∧ r' = r ∧ j = k) ∨ (s.tunnels b).pendingOpenRequests.lookup r' = some j := by
    refine update_cases (P := fun b t' => ∀ r' j, t'.pendingOpenRequests.lookup r' = some j →
      (b = x.side ∧ r' = r ∧ j = k) ∨ (s.tunnels b).pendingOpenRequests.lookup r' = some j) ?_ ?_
    · intro r' j hl
      by_cases hr : r' = r
      · subst hr
        cases (AList.lookup_insert _).symm.trans hl
        exact .inl ⟨rfl, rfl, rfl⟩
      · exact .inr ((AList.lookup_insert_ne hr).symm.trans hl)
    · exact fun b r' j hl => .inr hl
  refine ⟨?_, h.distinct, ?_, ?_, ?_, h.commands⟩
  · exact fun j y hy => h.fits_update (a := x.side) (t := t) rfl rfl hy
  · intro b r' j hl
    rcases hlookup b r' j hl with ⟨rfl, rfl, rfl⟩ | hold
    · exact ⟨x, hx, rfl, hkind, hid, hw⟩
    · exact h.pending b r' j hold
  · intro b r' j hmem
    rw [show (s.setTunnel x.side t).tunnels = Function.update s.tunnels x.side t from rfl, hsame] at hmem
    obtain ⟨hnone, hcall⟩ := h.left b r' j hmem
    refine ⟨?_, hcall⟩
    rw [Option.eq_none_iff_forall_ne_some]
    intro j' hj'
    rcases hlookup b r' j' hj' with ⟨rfl, rfl, -⟩ | hold
    · exact hleft j hmem
    · rw [hold] at hnone
      cases hnone
  · intro b
    rw [show (s.setTunnel x.side t).tunnels = Function.update s.tunnels x.side t from rfl, hsame]
    exact h.nodup b

/-- The entry of the call, which it has had none before. -/
theorem Sound.insert (h : s.Sound) (hx : s.calls[k]? = some x) (hp : x.phase = .inserting) {r : Nat}
    (hid : x.requestId = some r) :
    (s.tunnels x.side).pendingOpenRequests.lookup r = none ∧
      (s.put k { x with phase := .writing } x.side { s.tunnels x.side with
        pendingOpenRequests := (s.tunnels x.side).pendingOpenRequests.insert r k }).Sound := by
  have hfits := h.calls k x hx
  obtain ⟨hanswer, hsends⟩ := hfits.early (by rw [hp]; rfl)
  have hnot : ¬x.Waits := not_waits_of_phase ⟨by rw [hp]; simp, by rw [hp]; simp⟩
  -- the only call of this id is `k`
  have hown : ∀ {j : Nat} {y}, s.calls[j]? = some y → y.side = x.side → y.requestId = some r → j = k :=
    fun hy hside hr => h.distinct _ k _ x r hy hx hside hr hid
  have hnone : (s.tunnels x.side).pendingOpenRequests.lookup r = none := by
    rw [Option.eq_none_iff_forall_ne_some]
    intro j hj
    obtain ⟨y, hy, hside, -, hr, hw⟩ := h.pending x.side r j hj
    cases hown hy hside hr
    cases hx.symm.trans hy
    exact hnot hw
  refine ⟨hnone, ?_⟩
  have hmove : (s.move k x .writing).Sound :=
    h.move hx (by simp [Phase.early]) (by simp [Phase.fine]) fun _ _ _ => .inl rfl
  have hself : (s.move k x .writing).calls[k]? = some { x with phase := .writing } :=
    List.getElem?_set_self (List.getElem?_eq_some_iff.mp hx).1
  have hpend := hmove.pend hself (hfits.inserting hp) hid ⟨.inl rfl, hanswer, hsends⟩ ?_
  · simpa [Connection.move, Connection.put, setTunnel] using hpend
  · intro j hmem
    have hmem' : (r, j) ∈ (s.tunnels x.side).left := by
      simpa [Connection.move, Connection.put] using hmem
    obtain ⟨-, y, hy, hside, hr, hearly, -⟩ := h.left x.side r j hmem'
    cases hown hy hside hr
    cases hx.symm.trans hy
    rw [hp] at hearly
    cases hearly

theorem Sound.runCall (h : s.Sound) (hx : s.calls[k]? = some x) (ev : Event) :
    (s.runCall k x ev).Sound := by
  have hfits := h.calls k x hx
  cases ev with
  | streamOpened j ok =>
    simp only [Connection.runCall]
    split_ifs with hp hok
    · refine h.move hx (fun _ => ⟨rfl, hp⟩) (by simp [Phase.fine]) fun _ _ hw => ?_
      exact absurd hw (not_waits_of_phase ⟨by rw [hp]; simp, by rw [hp]; simp⟩)
    · exact h.fail hx (.refl _)
        (fun _ _ _ => not_waits_of_phase ⟨by rw [hp]; simp, by rw [hp]; simp⟩) _
    · exact h
  | number j =>
    simp only [Connection.runCall]
    by_cases hp : x.phase = .numbering
    · rw [if_pos hp]
      exact h.number hx hp
    · rw [if_neg hp]
      exact h
  | insert j =>
    simp only [Connection.runCall]
    split
    · rename_i r hp hid
      obtain ⟨hnone, hsound⟩ := h.insert hx hp hid
      rw [hnone]
      exact hsound
    · exact h
  | send j =>
    simp only [Connection.runCall]
    split_ifs with hp
    · refine h.advance hx (.refl _) ?_ (fun hf => hfits.fine hf) fun _ _ _ hw => hw.phase
      intro he
      rw [hp.1] at he
      cases he
    · exact h
  | wrote j ok =>
    simp only [Connection.runCall]
    split
    · rename_i r hp hid
      split_ifs
      · exact h.move hx (by simp [Phase.early]) (by simp [Phase.fine]) fun _ _ _ => .inr rfl
      · exact h
      · refine h.fail hx (QuicTunnel.grows_removePending _ r) ?_ _
        intro r' hl hid' _
        exact QuicTunnel.removePending_lookup _ hl (Option.some.inj (hid'.symm.trans hid))
    · exact h
  | answered j =>
    simp only [Connection.runCall]
    split
    · rename_i r hp hid
      cases hkind : x.kind with
      | datagram =>
        dsimp only
        split
        · exact h
        · rename_i ha
          exact h.fail hx (QuicTunnel.grows_removePending _ r)
            (fun _ _ _ => not_waits_of_answer (by rw [ha]; simp)) _
        · rename_i code ha
          exact h.fail hx (.refl _) (fun _ _ _ => not_waits_of_answer (by rw [ha]; simp)) _
        · rename_i ha
          refine h.move hx (by simp [Phase.early]) (fun _ => hfits.answer ha) fun _ _ hw => ?_
          exact absurd hw (not_waits_of_answer (by rw [ha]; simp))
      | stream =>
        dsimp only
        -- a stream channel has no entry
        have hfree : ∀ r', (s.tunnels x.side).pendingOpenRequests.lookup r' = some k →
            x.requestId = some r' → ¬x.Waits := by
          intro r' hl _ _
          have hdatagram := (h.kind_of_pending hx hl).2.1
          rw [hkind] at hdatagram
          cases hdatagram
        split
        · exact h
        · rename_i resp hback
          split_ifs with hother
          · exact h.fail hx (.refl _) hfree _
          · split
            · exact h.fail hx (.refl _) hfree _
            · rename_i hsuccess
              obtain ⟨hreq, hanswered⟩ := hfits.back resp hback
              have hres : resp.result = .success := by
                cases hr : resp.result <;> simp_all [resultOf]
              refine h.move hx (by simp [Phase.early])
                (fun _ => hfits.agreed hreq (hres ▸ hanswered)) fun r' hl hw => ?_
              exact absurd hw (hfree r' hl (h.kind_of_pending hx hl).2.2.1)
    · exact h
  | readFailed j =>
    simp only [Connection.runCall]
    split_ifs with hp
    · refine h.fail hx (.refl _) ?_ _
      intro r' hl _ _
      have hdatagram := (h.kind_of_pending hx hl).2.1
      rw [hp.2] at hdatagram
      cases hdatagram
    · exact h
  | complete j =>
    simp only [Connection.runCall]
    split
    · rename_i r hp hid
      refine h.advance hx (QuicTunnel.grows_removePending _ r) (by simp [Phase.early])
        (fun _ => hfits.fine (by rw [hp]; rfl)) fun _ _ _ hw => ?_
      exact absurd hw (not_waits_of_phase ⟨by rw [hp]; simp, by rw [hp]; simp⟩)
    · exact h
  | promote j =>
    simp only [Connection.runCall]
    split_ifs with hp hretired
    · exact h.fail hx (.refl _)
        (fun _ _ _ => not_waits_of_phase ⟨by rw [hp]; simp, by rw [hp]; simp⟩) _
    · refine h.advance hx (QuicTunnel.grows_promoted _ _) (by simp [Phase.early])
        (fun _ => hfits.fine (by rw [hp]; rfl)) fun _ _ _ hw => ?_
      exact absurd hw (not_waits_of_phase ⟨by rw [hp]; simp, by rw [hp]; simp⟩)
    · exact h
  | dropHalf j =>
    simp only [Connection.runCall]
    split_ifs
    · exact h
    · refine h.put hx ⟨rfl, rfl, fun _ hr => hr, rfl, rfl, fun he => he, fun hr => hr,
        fun _ hr => hr⟩ (QuicTunnel.grows_dropWork _) ?_ (fun _ hr => .inl hr)
        fun _ _ _ hw => ⟨hw.phase, hw.answer, hw.sends⟩
      have hg := QuicTunnel.grows_dropWork (s.tunnels x.side)
      exact Call.Fits.mono ⟨hfits.number, hfits.unnumbered, hfits.early, hfits.inserting, hfits.req,
        hfits.answer, hfits.back, hfits.fine, hfits.sends, hfits.handler⟩
        (fun b => (grows_update hg b).next) fun b => (grows_update hg b).retired
  | _ => exact h

/-- A step of the handler, which has what it had of the request and of the answer. -/
theorem Sound.handle (h : s.Sound) (hx : s.calls[k]? = some x) {hd : Handler}
    {back : Option TunnelOpenChannelResp} (hg : (s.tunnels (!x.side)).Grows t)
    (hh : hd.Fits t.retired)
    (hreq : ∀ q, hd.req = some q →
      x.requestId = some q.requestId ∧ q.kind = x.kind ∧ q.purpose = x.purpose)
    (hkept : ∀ q, x.handler.req = some q → hd.req = some q)
    (hanswered : ∀ result, x.handler.answered = some result → hd.answered = some result)
    (hback : ∀ resp, back = some resp → hd.req ≠ none ∧ hd.answered = some resp.result) :
    (s.put k { x with handler := hd, back := back } (!x.side) t).Sound := by
  refine h.put hx ⟨rfl, rfl, fun _ hr => hr, rfl, rfl, fun he => he, ?_, hanswered⟩ hg ?_
    (fun _ hr => .inl hr) fun _ _ _ hw => ⟨hw.phase, hw.answer, hw.sends⟩
  · intro hne
    obtain ⟨q, hq⟩ := Option.ne_none_iff_exists'.mp hne
    rw [hkept q hq]
    simp
  · have hgrow := grows_update hg
    have hfits := (h.calls k x hx).mono (fun b => (hgrow b).next) fun b => (hgrow b).retired
    refine hfits.handle ?_ hreq hkept hanswered hback
    rw [Function.update_self]
    exact hh

/-- A step of the handler before its answer. -/
theorem Sound.moveHandler (h : s.Sound) (hx : s.calls[k]? = some x) {phase : HandlerPhase}
    (hg : (s.tunnels (!x.side)).Grows t)
    (hp : x.handler.phase ≠ .promoting ∧ x.handler.phase ≠ .ended) (hphase : phase ≠ .promoting)
    (hread : phase = .idle ∨ phase = .reading → x.handler.phase = .idle ∨ x.handler.phase = .reading) :
    (s.setHandler k x { x.handler with phase := phase } t).Sound := by
  have hfits := h.calls k x hx
  exact h.handle hx hg ((hfits.handler.move hp hphase hread).mono hg.retired) hfits.req
    (fun _ hq => hq) (fun _ hr => hr) hfits.back

theorem Sound.leave (h : s.Sound) (hx : s.calls[k]? = some x) (result : TunnelCommandResult)
    (hp : x.handler.phase ≠ .promoting ∧ x.handler.phase ≠ .ended) : (s.leave k x result).Sound := by
  simp only [Connection.leave]
  split_ifs
  · exact h.moveHandler hx (QuicTunnel.Grows.refl _).dropPending hp (by simp) (by simp)
  · exact h.moveHandler hx (.refl _) hp (by simp) (by simp)

/-- The answer that the handler has written is on its way. -/
theorem Sound.send (h : s.Sound) (hx : s.calls[k]? = some x) (resp : TunnelOpenChannelResp)
    (hid : x.requestId = some resp.requestId) (hreq : x.handler.req ≠ none)
    (hanswered : x.handler.answered = some resp.result) :
    Sound { s with commands := Function.update s.commands x.side (s.commands x.side ++ [resp]) } := by
  refine ⟨h.calls, h.distinct, h.pending, h.left, h.nodup, ?_⟩
  intro b resp' hmem
  by_cases hb : b = x.side
  · subst hb
    dsimp only at hmem
    rw [Function.update_self] at hmem
    rcases List.mem_append.mp hmem with hold | hnew
    · exact h.commands x.side resp' hold
    · cases List.mem_singleton.mp hnew
      exact ⟨k, x, hx, rfl, hid, hreq, hanswered⟩
  · dsimp only at hmem
    rw [Function.update_of_ne hb] at hmem
    exact h.commands b resp' hmem

theorem Sound.deliver (h : s.Sound) (hx : s.calls[k]? = some x) {result : TunnelCommandResult}
    {req : TunnelOpenChannelReq} (hp : x.handler.phase = .responding result)
    (hreq : x.handler.req = some req) : (s.deliver k x ⟨req.requestId, result⟩).Sound := by
  have hfits := h.calls k x hx
  have hhandler := hfits.handler.respond hp hreq result
  obtain ⟨hnone, -⟩ := hfits.handler.unanswered ⟨by rw [hp]; simp, by rw [hp]; simp⟩
  have hfresh : ∀ result', x.handler.answered = some result' → some result = some result' := by
    intro result' hr
    rw [hr] at hnone
    cases hnone
  cases hkind : x.kind with
  | stream =>
    have heq : s.deliver k x ⟨req.requestId, result⟩ = s.put k { x with
        handler := { x.handler with
          answered := some result
          phase := if result = .success then .promoting else .ended }
        back := some ⟨req.requestId, result⟩ } (!x.side) (s.tunnels (!x.side)) := by
      unfold Connection.deliver
      rw [hkind]
    rw [heq]
    refine h.handle hx (.refl _) hhandler hfits.req (fun _ hq => hq) hfresh ?_
    intro resp hresp
    cases hresp
    exact ⟨by simp [hreq], rfl⟩
  | datagram =>
    have heq : s.deliver k x ⟨req.requestId, result⟩ = { s.setHandler k x { x.handler with
        answered := some result
        phase := if result = .success then .promoting else .ended } (s.tunnels (!x.side)) with
        commands := Function.update s.commands x.side
          (s.commands x.side ++ [⟨req.requestId, result⟩]) } := by
      unfold Connection.deliver
      rw [hkind]
    have hset : (s.setHandler k x { x.handler with
        answered := some result
        phase := if result = .success then .promoting else .ended } (s.tunnels (!x.side))).Sound := by
      refine h.handle hx (.refl _) hhandler hfits.req (fun _ hq => hq) hfresh ?_
      intro resp hresp
      have hold := (hfits.back resp hresp).2
      rw [hnone] at hold
      cases hold
    rw [heq]
    refine Sound.send hset (List.getElem?_set_self (List.getElem?_eq_some_iff.mp hx).1)
      ⟨req.requestId, result⟩ (hfits.req req hreq).1 ?_ rfl
    show x.handler.req ≠ none
    simp [hreq]

theorem Sound.runHandler (h : s.Sound) (hx : s.calls[k]? = some x) (ev : Event) :
    (s.runHandler k x ev).Sound := by
  have hfits := h.calls k x hx
  cases ev with
  | accept j =>
    simp only [Connection.runHandler]
    split_ifs with hp
    · exact h.moveHandler hx (.refl _) ⟨by rw [hp.1]; simp, by rw [hp.1]; simp⟩ (by simp)
        fun _ => .inl hp.1
    · exact h
  | read j =>
    simp only [Connection.runHandler]
    split
    · rename_i r hp hid
      split_ifs
      · have hunread := hfits.handler.unread (.inr hp)
        obtain ⟨hnone, hzero⟩ := hfits.handler.unanswered ⟨by rw [hp]; simp, by rw [hp]; simp⟩
        have hfresh : ∀ {α : Prop} result, x.handler.answered = some result → α := by
          intro α result hr
          rw [hr] at hnone
          cases hnone
        refine h.handle hx (.refl _) ⟨by simp, fun _ hr => hfresh _ hr, by simp,
          fun hne => absurd hzero hne, fun hr => hfresh _ hr⟩ ?_ ?_ (fun _ hr => hfresh _ hr) ?_
        · intro q hq
          cases hq
          exact ⟨hid, rfl, rfl⟩
        · intro q hq
          rw [hunread] at hq
          cases hq
        · intro resp hresp
          exact absurd hunread (hfits.back resp hresp).1
      · exact h
    · exact h
  | readRequestFailed j =>
    simp only [Connection.runHandler]
    split_ifs with hp
    · exact h.moveHandler hx (.refl _) ⟨by rw [hp]; simp, by rw [hp]; simp⟩ (by simp) (by simp)
    · exact h
  | decide j =>
    simp only [Connection.runHandler]
    split
    · rename_i req hp hreq
      split_ifs
      · exact h.moveHandler hx (.refl _) ⟨by rw [hp]; simp, by rw [hp]; simp⟩ (by simp) (by simp)
      · exact h.moveHandler hx (.refl _) ⟨by rw [hp]; simp, by rw [hp]; simp⟩ (by simp) (by simp)
    · exact h
  | check j =>
    simp only [Connection.runHandler]
    split_ifs with hp
    · exact h.moveHandler hx (.refl _) ⟨by rw [hp]; simp, by rw [hp]; simp⟩ (by simp) (by simp)
    · exact h.moveHandler hx (.refl _) ⟨by rw [hp]; simp, by rw [hp]; simp⟩ (by simp) (by simp)
    · exact h
  | take j =>
    simp only [Connection.runHandler]
    split_ifs with hp
    · exact h.moveHandler hx (.refl _) ⟨by rw [hp]; simp, by rw [hp]; simp⟩ (by simp) (by simp)
    · exact h.moveHandler hx (.refl _) ⟨by rw [hp]; simp, by rw [hp]; simp⟩ (by simp) (by simp)
    · exact h
  | begin j =>
    simp only [Connection.runHandler]
    split_ifs with hp
    · exact h.moveHandler hx (.refl _) ⟨by rw [hp]; simp, by rw [hp]; simp⟩ (by simp) (by simp)
    · exact h.moveHandler hx (QuicTunnel.grows_beginPending _) ⟨by rw [hp]; simp, by rw [hp]; simp⟩
        (by simp) (by simp)
    · exact h
  | respond j =>
    simp only [Connection.runHandler]
    split
    · rename_i result hp
      split_ifs
      · exact h.leave hx result ⟨by rw [hp]; simp, by rw [hp]; simp⟩
      · exact h.moveHandler hx (.refl _) ⟨by rw [hp]; simp, by rw [hp]; simp⟩ (by simp) (by simp)
    · exact h
  | responded j ok =>
    simp only [Connection.runHandler]
    split
    · rename_i result req hp hreq
      split_ifs
      · exact h.deliver hx hp hreq
      · exact h.leave hx result ⟨by rw [hp]; simp, by rw [hp]; simp⟩
    · exact h
  | promotePeer j =>
    simp only [Connection.runHandler]
    by_cases hp : x.handler.phase = .promoting
    · rw [if_pos hp]
      have hzero := hfits.handler.zero hp
      split_ifs with hretired
      · exact h.handle hx (QuicTunnel.Grows.refl _).dropPending
          (hfits.handler.promote hp (.inr ⟨hzero, hretired⟩)) hfits.req (fun _ hq => hq)
          (fun _ hr => hr) hfits.back
      · exact h.handle hx (QuicTunnel.grows_promoted _ _)
          (hfits.handler.promote hp (.inl (by rw [hzero]))) hfits.req (fun _ hq => hq)
          (fun _ hr => hr) hfits.back
    · rw [if_neg hp]
      exact h
  | dropPeerHalf j =>
    simp only [Connection.runHandler]
    split_ifs
    · exact h
    · exact h.handle hx (QuicTunnel.grows_dropWork _) ⟨hfits.handler.unread, hfits.handler.answered,
        hfits.handler.promoting, hfits.handler.handed, hfits.handler.success⟩ hfits.req
        (fun _ hq => hq) (fun _ hr => hr) hfits.back
  | _ => exact h

/-- The pending call with the id of the answer gets it. -/
theorem Sound.receive (h : s.Sound) {resp : TunnelOpenChannelResp}
    {rest : List TunnelOpenChannelResp} (hcommands : s.commands a = resp :: rest) :
    (s.receive a resp rest).Sound := by
  have htaken : Sound { s with commands := Function.update s.commands a rest } := by
    refine ⟨h.calls, h.distinct, h.pending, h.left, h.nodup, ?_⟩
    intro b resp' hmem
    by_cases hb : b = a
    · subst hb
      dsimp only at hmem
      rw [Function.update_self] at hmem
      exact h.commands b resp' (by rw [hcommands]; exact List.mem_cons_of_mem _ hmem)
    · dsimp only at hmem
      rw [Function.update_of_ne hb] at hmem
      exact h.commands b resp' hmem
  unfold Connection.receive
  dsimp only
  split
  · rename_i k hlookup
    obtain ⟨x, hx, hside, hkind, hid, hw⟩ := h.pending a resp.requestId k hlookup
    have hg := QuicTunnel.grows_removePending (s.tunnels a) resp.requestId
    -- the answer is of the handler of this call, whose id no other call of this end has
    obtain ⟨k', x', hx', hside', hid', hreq, hanswered⟩ :=
      h.commands a resp (by rw [hcommands]; exact List.mem_cons_self)
    cases h.distinct k k' x x' _ hx hx' (hside.trans hside'.symm) hid hid'
    cases hx.symm.trans hx'
    refine Sound.finish (htaken.tunnel hg) hx ?_ hw.sends ?_ ?_ ?_
    · rcases hw.phase with hp | hp
      · rw [hp]
        rfl
      · rw [hp]
        rfl
    · intro hok
      have hres : resp.result = .success := by
        cases hr : resp.result <;> simp_all [resultOf]
      exact (h.calls k x hx).agreed hreq (hres ▸ hanswered)
    · intro b r hl
      obtain ⟨hb, -, hr, -⟩ := h.kind_of_pending hx ((grows_update hg b).pending r k hl)
      cases hside.symm.trans hb
      have hl' : ((s.tunnels a).removePending resp.requestId).pendingOpenRequests.lookup r = some k := by
        have hself : Function.update s.tunnels a ((s.tunnels a).removePending resp.requestId) a =
            (s.tunnels a).removePending resp.requestId := Function.update_self ..
        rw [← hself]
        exact hl
      exact QuicTunnel.removePending_lookup _ hl' (Option.some.inj (hr.symm.trans hid))
    · intro b r hmem
      obtain ⟨hnone, y, hy, hb, hr, -⟩ := h.left b r k ((grows_update hg b).left.mem hmem)
      cases hx.symm.trans hy
      cases hside.symm.trans hb
      cases hid.symm.trans hr
      rw [hlookup] at hnone
      cases hnone
  · exact htaken

/-- `close_with_error` takes all entries. -/
theorem Sound.drain (h : s.Sound) (hclosing : (s.tunnels a).closing = .drain) :
    (s.setTunnel a { s.tunnels a with
      closing := .sending ((s.tunnels a).pendingOpenRequests.entries.map fun x => (x.1, x.2))
      pendingOpenRequests := ∅ }).Sound := by
  let t : QuicTunnel := { s.tunnels a with
    closing := .sending ((s.tunnels a).pendingOpenRequests.entries.map fun x => (x.1, x.2))
    pendingOpenRequests := ∅ }
  have hleft : (s.tunnels a).left = [] := by
    rw [QuicTunnel.left, hclosing]
  have hempty : ∀ r, t.pendingOpenRequests.lookup r = none := fun r => rfl
  refine ⟨?_, h.distinct, ?_, ?_, ?_, h.commands⟩
  · exact fun j y hy => h.fits_update (a := a) (t := t) rfl rfl hy
  · refine update_cases (P := fun b t' => ∀ r j, t'.pendingOpenRequests.lookup r = some j →
      ∃ x, s.calls[j]? = some x ∧ x.side = b ∧ x.kind = .datagram ∧ x.requestId = some r ∧ x.Waits) ?_
      h.pending
    intro r j hl
    cases (hempty r).symm.trans hl
  · refine update_cases (P := fun b t' => ∀ r j, (r, j) ∈ t'.left →
      t'.pendingOpenRequests.lookup r = none ∧ ∃ x, s.calls[j]? = some x ∧ x.side = b ∧
        x.requestId = some r ∧ x.phase.early = false ∧ x.answer = .none ∧ x.sends = 0) ?_ h.left
    intro r j hmem
    obtain ⟨⟨r', j'⟩, hentry, heq⟩ := List.mem_map.mp hmem
    cases heq
    obtain ⟨x, hx, hside, -, hid, hw⟩ := h.pending a r' j' (Table.mem_entries_iff.mp hentry)
    refine ⟨hempty r', x, hx, hside, hid, ?_, hw.answer, hw.sends⟩
    rcases hw.phase with hp | hp
    · rw [hp]
      rfl
    · rw [hp]
      rfl
  · refine update_cases (P := fun _ t' => (t'.left.map Prod.fst).Nodup) ?_ h.nodup
    show ((((s.tunnels a).pendingOpenRequests.entries.map fun x => (x.1, x.2))).map Prod.fst).Nodup
    rw [List.map_map]
    exact (s.tunnels a).pendingOpenRequests.keys_nodup

theorem Sound.sendError (h : s.Sound) {r j : Nat} {left : List (Nat × Nat)}
    (hclosing : (s.tunnels a).closing = .sending ((r, j) :: left)) (code : P2pErrorCode) :
    ((s.setTunnel a { s.tunnels a with closing := .sending left }).finish j (.error code)).Sound := by
  have hleft : (s.tunnels a).left = (r, j) :: left := by
    rw [QuicTunnel.left, hclosing]
  have hg : (s.tunnels a).Grows { s.tunnels a with closing := .sending left } := by
    refine ⟨le_rfl, id, fun _ _ hl => hl, ?_⟩
    rw [hleft]
    exact List.sublist_cons_self _ _
  obtain ⟨hnone, x, hx, hside, hid, hearly, -, hsends⟩ :=
    h.left a r j (by rw [hleft]; exact List.mem_cons_self)
  refine Sound.finish (h.tunnel hg) hx hearly hsends (fun hok => by cases hok) ?_ ?_
  · intro b r' hl
    obtain ⟨hb, -, hr, -⟩ := h.kind_of_pending hx ((grows_update hg b).pending r' j hl)
    cases hside.symm.trans hb
    cases hid.symm.trans hr
    rw [(grows_update hg a).pending r j hl] at hnone
    cases hnone
  · intro b r' hmem
    obtain ⟨-, y, hy, hb, hr, -⟩ := h.left b r' j ((grows_update hg b).left.mem hmem)
    cases hx.symm.trans hy
    cases hside.symm.trans hb
    cases hid.symm.trans hr
    -- the ids that are left are different
    have hnodup := h.nodup a
    rw [hleft, List.map_cons, List.nodup_cons] at hnodup
    have hmem' : (r, j) ∈ left := by
      have hself : (Function.update s.tunnels a { s.tunnels a with closing := .sending left } a).left =
          left := by
        rw [Function.update_self]
        rfl
      rw [← hself]
      exact hmem
    exact hnodup.1 (List.mem_map_of_mem hmem')

theorem Sound.runTunnel (h : s.Sound) (a : Side) (ev : Event) :
    (s.runTunnel a (s.tunnels a) ev).Sound := by
  cases ev with
  | recv b =>
    simp only [Connection.runTunnel]
    split
    · rename_i resp rest hcommands
      exact h.receive hcommands
    · exact h
  | listen b kind purposes =>
    simp only [Connection.runTunnel]
    split_ifs
    · exact h
    · exact h.tunnel (QuicTunnel.grows_setListener _ _ _)
  | listenCallback b kind => exact h.tunnel (QuicTunnel.grows_setListener _ _ _)
  | purposes b kind purposes => exact h.tunnel (QuicTunnel.grows_setListener _ _ _)
  | tryRetireIdle b elapsed => exact h.tunnel (QuicTunnel.grows_tryRetireIdle _ _)
  | retire b => exact h.tunnel ⟨le_rfl, fun _ => rfl, fun _ _ hl => hl, List.Sublist.refl _⟩
  | swap b code =>
    simp only [Connection.runTunnel]
    split_ifs
    · exact h.tunnel ⟨le_rfl, id, fun _ _ hl => hl, List.nil_sublist _⟩
    · exact h
  | clearCallbacks b =>
    simp only [Connection.runTunnel]
    split_ifs
    · exact h.tunnel ⟨le_rfl, id, fun _ _ hl => hl, List.nil_sublist _⟩
    · exact h
  | closeSocket b =>
    simp only [Connection.runTunnel]
    split_ifs
    · exact h.tunnel ⟨le_rfl, id, fun _ _ hl => hl, List.nil_sublist _⟩
    · exact h
  | drain b =>
    simp only [Connection.runTunnel]
    split_ifs with hclosing
    · exact h.drain hclosing
    · exact h
  | sendError b =>
    simp only [Connection.runTunnel]
    split
    · rename_i r j left hclosing
      exact h.sendError hclosing _
    · exact h.tunnel ⟨le_rfl, id, fun _ _ hl => hl, List.nil_sublist _⟩
    · exact h
  | lose b =>
    simp only [Connection.runTunnel]
    split_ifs
    · exact h.tunnel ⟨le_rfl, id, fun _ _ hl => hl, List.Sublist.refl _⟩
    · exact h
  | _ => exact h

/-- A call that has done nothing yet. -/
theorem Sound.push (h : s.Sound) {x : Call} (hid : x.requestId = none) (hanswer : x.answer = .none)
    (hsends : x.sends = 0) (hback : x.back = none) (hhandler : x.handler = ⟨.idle, none, none, 0, 0⟩)
    (hphase : x.phase.fine = false ∧ x.phase ≠ .inserting) :
    Sound { s with calls := s.calls ++ [x] } := by
  have hkeep : ∀ {j : Nat} {y}, s.calls[j]? = some y → (s.calls ++ [x])[j]? = some y :=
    fun hy => getElem?_append_of_eq_some hy
  refine ⟨?_, ?_, ?_, ?_, h.nodup, ?_⟩
  · intro j y hy
    rcases getElem?_push_cases hy with hold | ⟨-, rfl⟩
    · exact h.calls j y hold
    · refine ⟨by simp [hid], fun _ => hid, fun _ => ⟨hanswer, hsends⟩, fun hp => absurd hp hphase.2,
        by simp [hhandler], by simp [hanswer], by simp [hback], by simp [hphase.1], by omega, ?_⟩
      rw [hhandler]
      exact ⟨fun _ => rfl, by simp, by simp, by simp, by simp⟩
  · intro i j y z r hy hz hside hyr hzr
    rcases getElem?_push_cases hy with hyold | ⟨-, rfl⟩
    · rcases getElem?_push_cases hz with hzold | ⟨-, rfl⟩
      · exact h.distinct i j y z r hyold hzold hside hyr hzr
      · rw [hid] at hzr
        cases hzr
    · rw [hid] at hyr
      cases hyr
  · intro b r j hl
    obtain ⟨y, hy, hrest⟩ := h.pending b r j hl
    exact ⟨y, hkeep hy, hrest⟩
  · intro b r j hmem
    obtain ⟨hnone, y, hy, hrest⟩ := h.left b r j hmem
    exact ⟨hnone, y, hkeep hy, hrest⟩
  · intro b resp hmem
    obtain ⟨j, y, hy, hrest⟩ := h.commands b resp hmem
    exact ⟨j, y, hkeep hy, hrest⟩

theorem Sound.step (h : s.Sound) (ev : Event) : (s.step ev).Sound := by
  have hcall : ∀ k s', (s.calls[k]? = none → s' = s) →
      (∀ x, s.calls[k]? = some x → s' = s.runCall k x ev) → s'.Sound := by
    intro k s' hnone hsome
    cases hx : s.calls[k]? with
    | none =>
      rw [hnone hx]
      exact h
    | some x =>
      rw [hsome x hx]
      exact h.runCall hx ev
  have hhandler : ∀ k s', (s.calls[k]? = none → s' = s) →
      (∀ x, s.calls[k]? = some x → s' = s.runHandler k x ev) → s'.Sound := by
    intro k s' hnone hsome
    cases hx : s.calls[k]? with
    | none =>
      rw [hnone hx]
      exact h
    | some x =>
      rw [hsome x hx]
      exact h.runHandler hx ev
  have htunnel : ∀ a, (s.runTunnel a (s.tunnels a) ev).Sound := fun a => h.runTunnel a ev
  cases ev with
  | call side kind purpose =>
    simp only [Connection.step, Connection.begins]
    split_ifs
    · exact h.push rfl rfl rfl rfl rfl ⟨rfl, by simp⟩
    · exact (h.tunnel (QuicTunnel.grows_beginPending _)).push rfl rfl rfl rfl rfl ⟨rfl, by simp⟩
  | streamOpened k _ | number k | insert k | send k | wrote k _ | answered k | readFailed k | complete k
    | promote k | dropHalf k =>
    exact hcall k _ (fun hx => by simp only [Connection.step, hx])
      fun x hx => by simp only [Connection.step, hx]
  | accept k | read k | readRequestFailed k | decide k | check k | take k | begin k | respond k
    | responded k _ | promotePeer k | dropPeerHalf k =>
    exact hhandler k _ (fun hx => by simp only [Connection.step, hx])
      fun x hx => by simp only [Connection.step, hx]
  | recv a | listen a _ _ | listenCallback a _ | purposes a _ _ | tryRetireIdle a _ | retire a
    | swap a _ | clearCallbacks a | closeSocket a | drain a | sendError a | lose a =>
    exact htunnel a

theorem sound_run (evs : List Event) : (exec step init evs).Sound :=
  exec_inv_all (I := Sound) (fun _ ev h => h.step ev) sound_init evs

/-- In every state of a run: a call that has returned `Ok` has the handler's `Success` for its id and
its purpose; a sender is used at most once; a handler that has answered `Success` has given the
channel to its callback once, is about to, or its tunnel is retired; and when all calls of an end have
returned, no entry is left there, whether `close_with_error` has returned or has not run. -/
theorem opens_agree (evs : List Event) :
    (∀ (k : Nat) x, (exec step init evs).calls[k]? = some x →
      (x.phase = .returned (.ok ()) → x.Agreed) ∧ x.sends ≤ 1 ∧ x.handler.handed ≤ 1 ∧
        (x.handler.handed = 1 → x.handler.answered = some .success) ∧
        (x.handler.answered = some .success → x.handler.phase = .promoting ∨ x.handler.handed = 1 ∨
          ((exec step init evs).tunnels (!x.side)).retired = true)) ∧
    ∀ a, (∀ x ∈ (exec step init evs).calls, x.side = a → x.phase.isReturned = true) →
      ((exec step init evs).tunnels a).pendingOpenRequests = ∅ := by
  have hsound := sound_run evs
  refine ⟨?_, ?_⟩
  · intro k x hx
    have hfits := hsound.calls k x hx
    refine ⟨fun hok => hfits.fine (by rw [hok]; rfl), hfits.sends, ?_, ?_, hfits.handler.success⟩
    · by_contra hlt
      have hone := (hfits.handler.handed (by omega)).1
      omega
    · intro hone
      exact (hfits.handler.handed (by omega)).2.2
  · intro a hreturned
    refine Table.eq_empty_of_lookup fun r k hl => ?_
    obtain ⟨x, hx, hside, -, -, hw⟩ := hsound.pending a r k hl
    have hret := hreturned x (List.mem_of_getElem? hx) hside
    rcases hw.phase with hp | hp
    · rw [hp] at hret
      cases hret
    · rw [hp] at hret
      cases hret

/-- Two ends open a channel each; one gets its `Success`, the other is closed while it waits. -/
example :
    let s := exec step init [.listen true .datagram [[7]], .listenCallback true .datagram,
      .call false .datagram [7], .call true .stream [8], .streamOpened 0 true, .number 0, .insert 0,
      .send 0, .accept 0, .read 0, .decide 0, .check 0, .take 0, .begin 0, .respond 0, .responded 0 true,
      .promotePeer 0, .recv false, .wrote 0 true, .answered 0, .complete 0, .promote 0,
      .streamOpened 1 true, .number 1, .send 1, .wrote 1 true, .retire true, .swap true .interrupted,
      .clearCallbacks true, .closeSocket true, .drain true, .sendError true, .readFailed 1]
    s.calls.map (fun x => (x.phase, x.handler.handed)) =
        [(.returned (.ok ()), 1), (.returned (.error .ioError), 0)] ∧
      (s.tunnels true).closing = .done := by
  decide +kernel

end Connection

end BuckyP2p.Quic.Answers
