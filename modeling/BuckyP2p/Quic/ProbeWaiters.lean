import BuckyP2p.Lib.Lists
import BuckyP2p.Lib.Table
import BuckyP2p.NatProbe.Signing

/-!
# BuckyP2p.Quic.ProbeWaiters — who waits for a NAT probe response (`quic/listener.rs`)

`register` enters a waiter under its token; `dispatch` looks the waiter of a response up, lets go of
the lock to verify the signature, and takes the waiter out only if it is still the same one.  The
receiver of a registration takes its waiter out when it is dropped, if it is still its own.

* Registrations are numbered as they come, and the `owner` of a waiter is the number of its
  registration; so is its `sender`.  An `Arc` is compared only while somebody holds it, so that no
  two registrations have the same one.
* Calls of `dispatch` have numbers too.  Their lookup, their look at the signature, their removal
  and their `send` are steps of their own; so are the two parts of the drop of a receiver.
* `arrived`, `received`, `answered` and `cleared` are a history, which no step reads: the calls of
  `dispatch`, what was put into the channels, whose waiter was taken out by a `dispatch`, and how
  many registrations there were at the last `clear`.
-/

namespace BuckyP2p.Quic.ProbeWaiters

open Lib NatProbe

/-- `P2pIdentityCertRef`, as far as a response asks it. -/
structure Signer where
  id : P2pId
  verifies : List U8 → List U8 → Bool

structure PendingNatProbeResponse where
  expectedSource : SocketAddr
  expectedSigner : Signer
  owner : Nat

structure Registration where
  token : NatProbeToken
  expectedSource : SocketAddr
  expectedSigner : Signer

/-- The receiver is dropped first, then the registration. -/
inductive ReceiverPhase
  | live | closing | dropped
  deriving DecidableEq

/-- What a call of `dispatch` has in hand after its lookup. -/
structure Dispatch where
  response : DecodedNatProbeResponse
  source : SocketAddr
  expectedSigner : Signer
  owner : Nat

inductive DispatchPhase
  | uncalled
  | verifying (x : Dispatch)
  | removing (x : Dispatch)
  | sending (x : Dispatch)
  | returned

structure NatProbeResponseWaiters where
  pending : Table NatProbeToken PendingNatProbeResponse
  registrations : List Registration
  receivers : Nat → ReceiverPhase
  dispatches : Nat → DispatchPhase
  arrived : List (DecodedNatProbeResponse × SocketAddr)
  received : List (Nat × SocketAddr)
  answered : List Nat
  cleared : Nat

inductive Event
  | register (token : NatProbeToken) (expectedSource : SocketAddr) (expectedSigner : Signer)
  | lookup (d : Nat) (response : DecodedNatProbeResponse) (source : SocketAddr)
  | verify (d : Nat)
  | remove (d : Nat)
  | send (d : Nat)
  | dropReceiver (o : Nat)
  | dropRegistration (o : Nat)
  | clear

def Dispatch.verify (x : Dispatch) : Bool :=
  x.response.verify x.expectedSigner.id x.expectedSigner.verifies

namespace NatProbeResponseWaiters

def start : NatProbeResponseWaiters where
  pending := ∅
  registrations := []
  receivers := fun _ => .live
  dispatches := fun _ => .uncalled
  arrived := []
  received := []
  answered := []
  cleared := 0

variable (s : NatProbeResponseWaiters)

def setDispatch (d : Nat) (phase : DispatchPhase) : NatProbeResponseWaiters :=
  { s with dispatches := Function.update s.dispatches d phase }

/-- The result is the number of the registration. -/
def register (token : NatProbeToken) (expectedSource : SocketAddr) (expectedSigner : Signer) :
    NatProbeResponseWaiters × P2pResult Nat :=
  if (s.pending.lookup token).isSome then (s, .error ⟨.alreadyExists, "duplicate NAT probe token"⟩)
  else
    ({ s with
        pending := s.pending.insert token ⟨expectedSource, expectedSigner, s.registrations.length⟩
        registrations := s.registrations ++ [⟨token, expectedSource, expectedSigner⟩] },
      .ok s.registrations.length)

/-- What the lookup of a `dispatch` leads to. -/
def found (response : DecodedNatProbeResponse) (source : SocketAddr) : DispatchPhase :=
  match s.pending.lookup response.token with
  | none => .returned
  | some waiter =>
    if source ≠ waiter.expectedSource then .returned
    else .verifying ⟨response, source, waiter.expectedSigner, waiter.owner⟩

def remove (d : Nat) (x : Dispatch) : NatProbeResponseWaiters :=
  match s.pending.lookup x.response.token with
  | none => s.setDispatch d .returned
  | some waiter =>
    if waiter.owner ≠ x.owner then s.setDispatch d .returned
    else
      { s.setDispatch d (.sending x) with
        pending := s.pending.erase x.response.token, answered := x.owner :: s.answered }

/-- The value is lost if the receiver is gone. -/
def send (d : Nat) (x : Dispatch) : NatProbeResponseWaiters :=
  { s.setDispatch d .returned with
    received :=
      if s.receivers x.owner = .live then (x.owner, x.response.observed) :: s.received
      else s.received }

/-- `Drop for NatProbeResponseRegistration`. -/
def dropRegistration (o : Nat) (registration : Registration) : NatProbeResponseWaiters :=
  { s with
    receivers := Function.update s.receivers o .dropped
    pending :=
      if (s.pending.lookup registration.token).any fun waiter => waiter.owner = o then
        s.pending.erase registration.token
      else s.pending }

def step (s : NatProbeResponseWaiters) : Event → NatProbeResponseWaiters
  | .register token expectedSource expectedSigner =>
    (s.register token expectedSource expectedSigner).1
  | .lookup d response source =>
    match s.dispatches d with
    | .uncalled =>
      { s.setDispatch d (s.found response source) with arrived := (response, source) :: s.arrived }
    | _ => s
  | .verify d =>
    match s.dispatches d with
    | .verifying x => s.setDispatch d (if x.verify then .removing x else .returned)
    | _ => s
  | .remove d =>
    match s.dispatches d with
    | .removing x => s.remove d x
    | _ => s
  | .send d =>
    match s.dispatches d with
    | .sending x => s.send d x
    | _ => s
  | .dropReceiver o =>
    if o < s.registrations.length ∧ s.receivers o = .live then
      { s with receivers := Function.update s.receivers o .closing }
    else s
  | .dropRegistration o =>
    match s.registrations[o]?, s.receivers o with
    | some registration, .closing => s.dropRegistration o registration
    | _, _ => s
  | .clear => { s with pending := ∅, cleared := s.registrations.length }

/-! ## What is pending -/

/-- The registration is there, and neither dropped, nor answered, nor cleared. -/
def Waits (o : Nat) (registration : Registration) : Prop :=
  s.registrations[o]? = some registration ∧ s.receivers o ≠ .dropped ∧ o ∉ s.answered ∧ s.cleared ≤ o

/-- The call was made with this response, and has found this registration. -/
def Found (x : Dispatch) : Prop :=
  (x.response, x.source) ∈ s.arrived ∧
    s.registrations[x.owner]? = some ⟨x.response.token, x.source, x.expectedSigner⟩

/-- A response that arrived answers the registration with this value. -/
def Answers (o : Nat) (observed : SocketAddr) : Prop :=
  ∃ response registration, s.registrations[o]? = some registration ∧
    (response, registration.expectedSource) ∈ s.arrived ∧ response.token = registration.token ∧
    response.verify registration.expectedSigner.id registration.expectedSigner.verifies = true ∧
    response.observed = observed

structure Inv : Prop where
  pending : ∀ token waiter, s.pending.lookup token = some waiter ↔
    s.Waits waiter.owner ⟨token, waiter.expectedSource, waiter.expectedSigner⟩
  fresh : ∀ o, s.registrations.length ≤ o → s.receivers o = .live
  answered : ∀ o ∈ s.answered, o < s.registrations.length
  cleared : s.cleared ≤ s.registrations.length
  verifying : ∀ d x, s.dispatches d = .verifying x → s.Found x
  removing : ∀ d x, s.dispatches d = .removing x → s.Found x ∧ x.verify = true
  sending : ∀ d x, s.dispatches d = .sending x → s.Found x ∧ x.verify = true ∧ x.owner ∈ s.answered ∧
    x.owner ∉ s.received.map Prod.fst
  sendsOnce : ∀ d d' x x', s.dispatches d = .sending x → s.dispatches d' = .sending x' →
    x.owner = x'.owner → d = d'
  received : ∀ o observed, (o, observed) ∈ s.received → o ∈ s.answered ∧ s.Answers o observed
  once : (s.received.map Prod.fst).Nodup

variable {s}

theorem inv_start : start.Inv where
  pending := by simp [start, Waits]
  fresh := fun _ _ => rfl
  answered := by simp [start]
  cleared := le_rfl
  verifying := by simp [start]
  removing := by simp [start]
  sending := by simp [start]
  sendsOnce := by simp [start]
  received := by simp [start]
  once := List.nodup_nil

/-- Nothing of the history is forgotten. -/
structure Extends (s t : NatProbeResponseWaiters) : Prop where
  arrived : s.arrived ⊆ t.arrived
  registrations : ∀ {o : Nat} {registration}, s.registrations[o]? = some registration →
    t.registrations[o]? = some registration

theorem Found.mono {t : NatProbeResponseWaiters} {x : Dispatch} (h : s.Found x) (hext : s.Extends t) :
    t.Found x :=
  ⟨hext.arrived h.1, hext.registrations h.2⟩

theorem Answers.mono {t : NatProbeResponseWaiters} {o : Nat} {observed : SocketAddr}
    (h : s.Answers o observed) (hext : s.Extends t) : t.Answers o observed := by
  obtain ⟨response, registration, hregistration, hmem, hrest⟩ := h
  exact ⟨response, registration, hext.registrations hregistration, hext.arrived hmem, hrest⟩

/-- An answer for the registration that the call has found. -/
theorem Found.answers {x : Dispatch} (h : s.Found x) (hverify : x.verify = true) :
    s.Answers x.owner x.response.observed :=
  ⟨x.response, _, h.2, h.1, rfl, hverify, rfl⟩

theorem setDispatch_self (d : Nat) (phase : DispatchPhase) :
    (s.setDispatch d phase).dispatches d = phase := Function.update_self ..

theorem setDispatch_of_ne {d d' : Nat} (hd : d' ≠ d) (phase : DispatchPhase) :
    (s.setDispatch d phase).dispatches d' = s.dispatches d' := Function.update_of_ne hd ..

/-- A call goes on, and not to its `send`. -/
theorem Inv.setDispatch (h : s.Inv) (d : Nat) {phase : DispatchPhase}
    (hverifying : ∀ x, phase = .verifying x → s.Found x)
    (hremoving : ∀ x, phase = .removing x → s.Found x ∧ x.verify = true)
    (hsending : ∀ x, phase ≠ .sending x) : (s.setDispatch d phase).Inv where
  pending := h.pending
  fresh := h.fresh
  answered := h.answered
  cleared := h.cleared
  verifying := by
    intro d' x hx
    by_cases hd : d' = d
    · subst hd
      rw [setDispatch_self] at hx
      exact hverifying x hx
    · rw [setDispatch_of_ne hd] at hx
      exact h.verifying d' x hx
  removing := by
    intro d' x hx
    by_cases hd : d' = d
    · subst hd
      rw [setDispatch_self] at hx
      exact hremoving x hx
    · rw [setDispatch_of_ne hd] at hx
      exact h.removing d' x hx
  sending := by
    intro d' x hx
    by_cases hd : d' = d
    · subst hd
      rw [setDispatch_self] at hx
      exact absurd hx (hsending x)
    · rw [setDispatch_of_ne hd] at hx
      exact h.sending d' x hx
  sendsOnce := by
    intro d₁ d₂ x₁ x₂ h₁ h₂
    by_cases hd₁ : d₁ = d
    · subst hd₁
      rw [setDispatch_self] at h₁
      exact absurd h₁ (hsending x₁)
    · by_cases hd₂ : d₂ = d
      · subst hd₂
        rw [setDispatch_self] at h₂
        exact absurd h₂ (hsending x₂)
      · rw [setDispatch_of_ne hd₁] at h₁
        rw [setDispatch_of_ne hd₂] at h₂
        exact h.sendsOnce d₁ d₂ x₁ x₂ h₁ h₂
  received := h.received
  once := h.once

theorem Inv.returned (h : s.Inv) (d : Nat) : (s.setDispatch d .returned).Inv :=
  h.setDispatch d (by simp) (by simp) (by simp)

/-- Nobody is answered whose waiter is still there. -/
theorem Inv.not_answered (h : s.Inv) {token : NatProbeToken} {waiter : PendingNatProbeResponse}
    (hwaiter : s.pending.lookup token = some waiter) : waiter.owner ∉ s.answered :=
  ((h.pending token waiter).mp hwaiter).2.2.1

/-- A registration has one token. -/
theorem Inv.token_eq (h : s.Inv) {token : NatProbeToken} {waiter : PendingNatProbeResponse}
    (hwaiter : s.pending.lookup token = some waiter) {registration : Registration}
    (hregistration : s.registrations[waiter.owner]? = some registration) :
    token = registration.token := by
  have hown := ((h.pending token waiter).mp hwaiter).1
  rw [hown] at hregistration
  cases hregistration
  rfl

theorem getElem?_registered {o : Nat} {registration last : Registration} :
    (s.registrations ++ [last])[o]? = some registration ↔
      s.registrations[o]? = some registration ∨ o = s.registrations.length ∧ last = registration := by
  rcases Nat.lt_trichotomy o s.registrations.length with ho | rfl | ho
  · rw [List.getElem?_append_left ho]
    exact ⟨.inl, fun h => h.resolve_right fun hlast => absurd hlast.1 ho.ne⟩
  · simp
  · rw [List.getElem?_eq_none (by simpa using Nat.succ_le_of_lt ho), List.getElem?_eq_none ho.le]
    simp [ho.ne']

theorem Inv.register (h : s.Inv) (token : NatProbeToken) (expectedSource : SocketAddr)
    (expectedSigner : Signer) : (s.register token expectedSource expectedSigner).1.Inv := by
  rw [NatProbeResponseWaiters.register]
  split_ifs with hknown
  · exact h
  have hnone : s.pending.lookup token = none := by simpa using hknown
  have hext : s.Extends
      { s with
        pending := s.pending.insert token ⟨expectedSource, expectedSigner, s.registrations.length⟩
        registrations := s.registrations ++ [⟨token, expectedSource, expectedSigner⟩] } :=
    ⟨List.Subset.refl _, fun hregistration => getElem?_registered.mpr (.inl hregistration)⟩
  have hlength : s.registrations.length ≤
      (s.registrations ++ [⟨token, expectedSource, expectedSigner⟩] : List Registration).length := by
    rw [List.length_append]
    exact Nat.le_add_right ..
  refine ⟨fun token' waiter => ?_, fun o ho => h.fresh o (hlength.trans ho),
    fun o ho => (h.answered o ho).trans_le hlength, h.cleared.trans hlength,
    fun d x hx => (h.verifying d x hx).mono hext,
    fun d x hx => (h.removing d x hx).imp_left fun hfound => hfound.mono hext,
    fun d x hx => (h.sending d x hx).imp_left fun hfound => hfound.mono hext, h.sendsOnce,
    fun o observed ho => (h.received o observed ho).imp_right fun hanswers => hanswers.mono hext,
    h.once⟩
  rw [Table.lookup_insert_some, Waits, getElem?_registered]
  constructor
  · rintro (⟨rfl, rfl⟩ | ⟨-, hlookup⟩)
    · refine ⟨.inr ⟨rfl, rfl⟩, ?_, fun hans => ?_, h.cleared⟩
      · simp [h.fresh _ le_rfl]
      · exact absurd (h.answered _ hans) (Nat.lt_irrefl _)
    · exact ((h.pending token' waiter).mp hlookup).imp_left .inl
  · rintro ⟨hregistration | ⟨hlast, heq⟩, hwaits⟩
    · have hlookup := (h.pending token' waiter).mpr ⟨hregistration, hwaits⟩
      refine .inr ⟨?_, hlookup⟩
      rintro rfl
      rw [hnone] at hlookup
      cases hlookup
    · cases heq
      exact .inl ⟨rfl, by cases waiter; cases hlast; rfl⟩

/-- A call of `dispatch` is made. -/
theorem Inv.arrives (h : s.Inv) (response : DecodedNatProbeResponse) (source : SocketAddr) :
    Inv { s with arrived := (response, source) :: s.arrived } := by
  have hext : s.Extends { s with arrived := (response, source) :: s.arrived } :=
    ⟨List.subset_cons_self .., id⟩
  exact ⟨h.pending, h.fresh, h.answered, h.cleared, fun d x hx => (h.verifying d x hx).mono hext,
    fun d x hx => (h.removing d x hx).imp_left fun hfound => hfound.mono hext,
    fun d x hx => (h.sending d x hx).imp_left fun hfound => hfound.mono hext, h.sendsOnce,
    fun o observed ho => (h.received o observed ho).imp_right fun hanswers => hanswers.mono hext,
    h.once⟩

theorem found_cases (response : DecodedNatProbeResponse) (source : SocketAddr) :
    s.found response source = .returned ∨ ∃ waiter,
      s.pending.lookup response.token = some waiter ∧ waiter.expectedSource = source ∧
        s.found response source =
          .verifying ⟨response, source, waiter.expectedSigner, waiter.owner⟩ := by
  rw [found]
  split
  · exact .inl rfl
  · next waiter hwaiter =>
    split_ifs with hsource
    · exact .inl rfl
    · exact .inr ⟨waiter, hwaiter, (not_not.mp hsource).symm, rfl⟩

theorem Inv.lookup (h : s.Inv) (d : Nat) (response : DecodedNatProbeResponse) (source : SocketAddr) :
    Inv { s.setDispatch d (s.found response source) with
      arrived := (response, source) :: s.arrived } := by
  rcases found_cases (s := s) response source with hreturned | ⟨waiter, hwaiter, hsource, hfound⟩
  · rw [hreturned]
    exact (h.arrives response source).returned d
  · rw [hfound]
    refine (h.arrives response source).setDispatch d (fun x hx => ?_) (by simp) (by simp)
    cases hx
    exact ⟨List.mem_cons_self, hsource ▸ ((h.pending _ _).mp hwaiter).1⟩

theorem Inv.verify (h : s.Inv) {d : Nat} {x : Dispatch} (hd : s.dispatches d = .verifying x) :
    (s.setDispatch d (if x.verify then .removing x else .returned)).Inv := by
  split_ifs with hverify
  · refine h.setDispatch d (by simp) (fun y hy => ?_) (by simp)
    cases hy
    exact ⟨h.verifying d x hd, hverify⟩
  · exact h.returned d

/-- The waiter is still the one that was found: it is taken out, and will be sent to. -/
theorem Inv.takes (h : s.Inv) {d : Nat} {x : Dispatch} (hd : s.dispatches d = .removing x)
    {waiter : PendingNatProbeResponse} (hwaiter : s.pending.lookup x.response.token = some waiter)
    (howner : waiter.owner = x.owner) :
    Inv { s.setDispatch d (.sending x) with
      pending := s.pending.erase x.response.token, answered := x.owner :: s.answered } := by
  obtain ⟨hfound, hverify⟩ := h.removing d x hd
  have hfresh : x.owner ∉ s.answered := howner ▸ h.not_answered hwaiter
  have hphase : ∀ {d' : Nat}, d' ≠ d → ∀ phase,
      (s.setDispatch d (.sending x)).dispatches d' = phase → s.dispatches d' = phase :=
    fun hne phase hphase => (setDispatch_of_ne hne _).symm.trans hphase
  refine ⟨fun token waiter' => ?_, h.fresh, ?_, h.cleared, fun d' y hy => ?_, fun d' y hy => ?_,
    fun d' y hy => ?_, fun d₁ d₂ y₁ y₂ h₁ h₂ howners => ?_,
    fun o observed ho => (h.received o observed ho).imp_left (List.mem_cons_of_mem _), h.once⟩
  · rw [Table.lookup_erase_some]
    constructor
    · rintro ⟨hne, hlookup⟩
      obtain ⟨hregistration, hdropped, hanswered, hcleared⟩ := (h.pending token waiter').mp hlookup
      refine ⟨hregistration, hdropped, fun hans => ?_, hcleared⟩
      rcases List.mem_cons.mp hans with hx | hans
      · exact hne (h.token_eq hlookup (hx ▸ hfound.2))
      · exact hanswered hans
    · rintro ⟨hregistration, hdropped, hanswered, hcleared⟩
      have hlookup := (h.pending token waiter').mpr
        ⟨hregistration, hdropped, fun hans => hanswered (List.mem_cons_of_mem _ hans), hcleared⟩
      refine ⟨?_, hlookup⟩
      rintro rfl
      rw [hwaiter] at hlookup
      cases hlookup
      exact hanswered (howner ▸ List.mem_cons_self)
  · exact List.forall_mem_cons.mpr ⟨(List.getElem?_eq_some_iff.mp hfound.2).1, h.answered⟩
  · by_cases hne : d' = d
    · subst hne
      cases (setDispatch_self ..).symm.trans hy
    · exact h.verifying d' y (hphase hne _ hy)
  · by_cases hne : d' = d
    · subst hne
      cases (setDispatch_self ..).symm.trans hy
    · exact h.removing d' y (hphase hne _ hy)
  · by_cases hne : d' = d
    · subst hne
      cases (setDispatch_self ..).symm.trans hy
      refine ⟨hfound, hverify, List.mem_cons_self, fun hreceived => ?_⟩
      obtain ⟨⟨o, observed⟩, hmem, howner⟩ := List.mem_map.mp hreceived
      exact hfresh (howner ▸ (h.received o observed hmem).1)
    · obtain ⟨hfound', hverify', hanswered, hreceived⟩ := h.sending d' y (hphase hne _ hy)
      exact ⟨hfound', hverify', List.mem_cons_of_mem _ hanswered, hreceived⟩
  · by_cases hne₁ : d₁ = d <;> by_cases hne₂ : d₂ = d
    · rw [hne₁, hne₂]
    · subst hne₁
      cases (setDispatch_self ..).symm.trans h₁
      exact absurd (howners ▸ (h.sending d₂ y₂ (hphase hne₂ _ h₂)).2.2.1) hfresh
    · subst hne₂
      cases (setDispatch_self ..).symm.trans h₂
      exact absurd (howners ▸ (h.sending d₁ y₁ (hphase hne₁ _ h₁)).2.2.1) hfresh
    · exact h.sendsOnce d₁ d₂ y₁ y₂ (hphase hne₁ _ h₁) (hphase hne₂ _ h₂) howners

theorem Inv.remove (h : s.Inv) {d : Nat} {x : Dispatch} (hd : s.dispatches d = .removing x) :
    (s.remove d x).Inv := by
  rw [NatProbeResponseWaiters.remove]
  split
  · exact h.returned d
  · next waiter hwaiter =>
    split_ifs with howner
    · exact h.returned d
    · exact h.takes hd hwaiter (not_not.mp howner)

/-- The value goes into the channel, if there is still somebody to receive it. -/
theorem Inv.send (h : s.Inv) {d : Nat} {x : Dispatch} (hd : s.dispatches d = .sending x) :
    (s.send d x).Inv := by
  obtain ⟨hfound, hverify, hanswered, hfirst⟩ := h.sending d x hd
  have hreturned := h.returned d
  have hsub : ∀ y : Dispatch, y.owner ∉ s.received.map Prod.fst → y.owner ≠ x.owner →
      y.owner ∉ (s.send d x).received.map Prod.fst := fun y hy hne => by
    rw [NatProbeResponseWaiters.send]
    dsimp only
    split_ifs
    · simpa [hne] using hy
    · exact hy
  refine ⟨h.pending, h.fresh, h.answered, h.cleared, hreturned.verifying, hreturned.removing,
    fun d' y hy => ?_, hreturned.sendsOnce, ?_, ?_⟩
  · obtain ⟨hfound', hverify', hanswered', hfirst'⟩ := hreturned.sending d' y hy
    refine ⟨hfound', hverify', hanswered', hsub y hfirst' fun howner => ?_⟩
    have hne : d' ≠ d := by
      rintro rfl
      cases (setDispatch_self ..).symm.trans hy
    exact hne (h.sendsOnce d' d y x ((setDispatch_of_ne hne _).symm.trans hy) hd howner)
  · intro o observed ho
    rw [NatProbeResponseWaiters.send] at ho
    dsimp only at ho
    split_ifs at ho
    · rcases List.mem_cons.mp ho with heq | ho
      · cases heq
        exact ⟨hanswered, hfound.answers hverify⟩
      · exact h.received o observed ho
    · exact h.received o observed ho
  · rw [NatProbeResponseWaiters.send]
    dsimp only
    split_ifs
    · exact List.nodup_cons.mpr ⟨hfirst, h.once⟩
    · exact h.once

theorem Inv.dropReceiver (h : s.Inv) {o : Nat} (ho : o < s.registrations.length)
    (hlive : s.receivers o = .live) :
    Inv { s with receivers := Function.update s.receivers o .closing } where
  pending := by
    intro token waiter
    rw [h.pending token waiter]
    unfold Waits
    by_cases howner : waiter.owner = o
    · simp [howner, hlive]
    · simp [howner]
  fresh := fun o' ho' => by
    have hne : o' ≠ o := (ho.trans_le ho').ne'
    exact (Function.update_of_ne hne ..).trans (h.fresh o' ho')
  answered := h.answered
  cleared := h.cleared
  verifying := h.verifying
  removing := h.removing
  sending := h.sending
  sendsOnce := h.sendsOnce
  received := h.received
  once := h.once

/-- The drop of a registration takes out its own waiter, if it is there. -/
theorem lookup_dropRegistration (h : s.Inv) {o : Nat} {registration : Registration}
    (ho : s.registrations[o]? = some registration) {token : NatProbeToken}
    {waiter : PendingNatProbeResponse} :
    (s.dropRegistration o registration).pending.lookup token = some waiter ↔
      s.pending.lookup token = some waiter ∧ waiter.owner ≠ o := by
  have hown : ∀ {token : NatProbeToken} {waiter : PendingNatProbeResponse},
      s.pending.lookup token = some waiter → waiter.owner = o → token = registration.token :=
    fun hlookup howner => h.token_eq hlookup (howner ▸ ho)
  rw [NatProbeResponseWaiters.dropRegistration]
  dsimp only
  split_ifs with hpresent
  · obtain ⟨waiter', hlookup', howner'⟩ := Option.any_eq_true .. |>.mp hpresent
    have howner' : waiter'.owner = o := of_decide_eq_true howner'
    rw [Table.lookup_erase_some]
    constructor
    · exact fun ⟨hne, hlookup⟩ => ⟨hlookup, fun howner => hne (hown hlookup howner)⟩
    · rintro ⟨hlookup, hne⟩
      refine ⟨?_, hlookup⟩
      rintro rfl
      rw [hlookup] at hlookup'
      cases hlookup'
      exact hne howner'
  · refine ⟨fun hlookup => ⟨hlookup, fun howner => hpresent ?_⟩, And.left⟩
    rw [← hown hlookup howner, hlookup]
    exact decide_eq_true howner

theorem Inv.dropRegistration (h : s.Inv) {o : Nat} {registration : Registration}
    (ho : s.registrations[o]? = some registration) :
    (s.dropRegistration o registration).Inv where
  pending := by
    intro token waiter
    rw [lookup_dropRegistration h ho, h.pending token waiter]
    unfold Waits
    by_cases howner : waiter.owner = o
    · simp [NatProbeResponseWaiters.dropRegistration, howner]
    · simp [NatProbeResponseWaiters.dropRegistration, howner]
  fresh := fun o' ho' => by
    have hne : o' ≠ o := ((List.getElem?_eq_some_iff.mp ho).1.trans_le ho').ne'
    exact (Function.update_of_ne hne ..).trans (h.fresh o' ho')
  answered := h.answered
  cleared := h.cleared
  verifying := h.verifying
  removing := h.removing
  sending := h.sending
  sendsOnce := h.sendsOnce
  received := h.received
  once := h.once

theorem Inv.clear (h : s.Inv) : Inv { s with pending := ∅, cleared := s.registrations.length } where
  pending := by
    intro token waiter
    refine iff_of_false (by simp) ?_
    rintro ⟨hregistration, -, -, hcleared⟩
    exact absurd (List.getElem?_eq_some_iff.mp hregistration).1 (Nat.not_lt_of_le hcleared)
  fresh := h.fresh
  answered := h.answered
  cleared := le_rfl
  verifying := h.verifying
  removing := h.removing
  sending := h.sending
  sendsOnce := h.sendsOnce
  received := h.received
  once := h.once

theorem Inv.step (h : s.Inv) (ev : Event) : (s.step ev).Inv := by
  cases ev with
  | register token expectedSource expectedSigner => exact h.register token expectedSource expectedSigner
  | lookup d response source =>
    rw [NatProbeResponseWaiters.step]
    split
    · exact h.lookup d response source
    · exact h
  | verify d =>
    rw [NatProbeResponseWaiters.step]
    split
    · next hd => exact h.verify hd
    · exact h
  | remove d =>
    rw [NatProbeResponseWaiters.step]
    split
    · next hd => exact h.remove hd
    · exact h
  | send d =>
    rw [NatProbeResponseWaiters.step]
    split
    · next hd => exact h.send hd
    · exact h
  | dropReceiver o =>
    rw [NatProbeResponseWaiters.step]
    split_ifs with ho
    · exact h.dropReceiver ho.1 ho.2
    · exact h
  | dropRegistration o =>
    rw [NatProbeResponseWaiters.step]
    split
    · next ho _ => exact h.dropRegistration ho
    · exact h
  | clear => exact h.clear

/-! ## Newer registrations -/

/-- A step takes a waiter out only if it clears, or drops or answers the registration of this very
waiter; and it puts a value into a channel only if it answers the registration of this channel. -/
def Owned (s : NatProbeResponseWaiters) (ev : Event) : Prop :=
  (∀ token waiter, s.pending.lookup token = some waiter →
    (s.step ev).pending.lookup token = some waiter ∨ ev = .clear ∨
      ev = .dropRegistration waiter.owner ∨
        ∃ d x, ev = .remove d ∧ s.dispatches d = .removing x ∧ x.owner = waiter.owner) ∧
  ∀ o observed, (o, observed) ∈ (s.step ev).received → (o, observed) ∈ s.received ∨
    ∃ d x, ev = .send d ∧ s.dispatches d = .sending x ∧ x.owner = o

theorem owned_of_same {ev : Event} (hpending : (s.step ev).pending = s.pending)
    (hreceived : (s.step ev).received = s.received) : s.Owned ev :=
  ⟨fun _ _ hlookup => .inl (hpending ▸ hlookup), fun _ _ ho => .inl (hreceived ▸ ho)⟩

theorem owned_register (token : NatProbeToken) (expectedSource : SocketAddr)
    (expectedSigner : Signer) : s.Owned (.register token expectedSource expectedSigner) := by
  by_cases hknown : (s.pending.lookup token).isSome
  · refine owned_of_same ?_ ?_ <;> simp only [step, register, if_pos hknown]
  · refine ⟨fun token' waiter hlookup => .inl ?_, fun o observed ho => .inl ?_⟩
    · simp only [step, register, if_neg hknown]
      refine Table.lookup_insert_some.mpr (.inr ⟨?_, hlookup⟩)
      rintro rfl
      simp [hlookup] at hknown
    · simpa only [step, register, if_neg hknown] using ho

/-- What is taken out is what the call has found. -/
theorem owned_remove (d : Nat) : s.Owned (.remove d) := by
  cases hd : s.dispatches d with
  | removing x =>
    cases hwaiter : s.pending.lookup x.response.token with
    | none => refine owned_of_same ?_ ?_ <;> simp only [step, hd, remove, hwaiter] <;> rfl
    | some waiter =>
      by_cases howner : waiter.owner = x.owner
      · refine ⟨fun token' waiter' hlookup => ?_, fun o observed ho => .inl ?_⟩
        · by_cases htoken : token' = x.response.token
          · subst htoken
            rw [hwaiter] at hlookup
            cases hlookup
            exact .inr (.inr (.inr ⟨d, x, rfl, hd, howner.symm⟩))
          · refine .inl ?_
            simp only [step, hd, remove, hwaiter, howner, ne_eq, not_true_eq_false, if_false]
            exact Table.lookup_erase_some.mpr ⟨htoken, hlookup⟩
        · simpa [step, hd, remove, hwaiter, howner, setDispatch] using ho
      · refine owned_of_same ?_ ?_ <;> simp [step, hd, remove, hwaiter, howner, setDispatch]
  | _ => refine owned_of_same ?_ ?_ <;> simp only [step, hd]

theorem owned_send (d : Nat) : s.Owned (.send d) := by
  cases hd : s.dispatches d with
  | sending x =>
    refine ⟨fun token' waiter hlookup => .inl ?_, fun o observed ho => ?_⟩
    · simp only [step, hd]
      exact hlookup
    · simp only [step, hd, send] at ho
      split_ifs at ho
      · rcases List.mem_cons.mp ho with heq | ho
        · cases heq
          exact .inr ⟨d, x, rfl, hd, rfl⟩
        · exact .inl ho
      · exact .inl ho
  | _ => refine owned_of_same ?_ ?_ <;> simp only [step, hd]

theorem Inv.owned_dropRegistration (h : s.Inv) (o : Nat) : s.Owned (.dropRegistration o) := by
  refine ⟨fun token waiter hlookup => ?_, fun o' observed ho => .inl ?_⟩
  · rw [NatProbeResponseWaiters.step]
    split
    · next registration ho _ =>
      by_cases howner : waiter.owner = o
      · exact .inr (.inr (.inl (by rw [howner])))
      · exact .inl ((lookup_dropRegistration h ho).mpr ⟨hlookup, howner⟩)
    · exact .inl hlookup
  · rw [NatProbeResponseWaiters.step] at ho
    split at ho <;> exact ho

theorem Inv.owned (h : s.Inv) (ev : Event) : s.Owned ev := by
  cases ev with
  | register token expectedSource expectedSigner => exact owned_register ..
  | lookup d response source =>
    refine owned_of_same ?_ ?_ <;> rw [NatProbeResponseWaiters.step] <;> split <;> rfl
  | verify d => refine owned_of_same ?_ ?_ <;> rw [NatProbeResponseWaiters.step] <;> split <;> rfl
  | remove d => exact owned_remove d
  | send d => exact owned_send d
  | dropReceiver o =>
    refine owned_of_same ?_ ?_ <;> rw [NatProbeResponseWaiters.step] <;> split <;> rfl
  | dropRegistration o => exact h.owned_dropRegistration o
  | clear => exact ⟨fun _ _ _ => .inr (.inl rfl), fun _ _ ho => .inl ho⟩

theorem inv_exec (evs : List Event) : (exec step start evs).Inv :=
  exec_inv_all (I := Inv) (fun _ ev h => h.step ev) inv_start evs

/-- The pending map holds exactly the registrations that are neither dropped nor answered nor cleared;
a receiver gets one value at most, and only that of a response with its token, from its source and
signed by its signer. -/
structure Exact (s : NatProbeResponseWaiters) : Prop where
  pending : ∀ token waiter, s.pending.lookup token = some waiter ↔
    s.Waits waiter.owner ⟨token, waiter.expectedSource, waiter.expectedSigner⟩
  once : (s.received.map Prod.fst).Nodup
  answers : ∀ o observed, (o, observed) ∈ s.received → s.Answers o observed

/-- **NAT probe waiters.**  The state after every run is exact, and no step of it takes out or answers
another registration than its own. -/
theorem waiters_exact (evs : List Event) :
    (exec step start evs).Exact ∧ Along step Owned start evs := by
  refine ⟨?_, ?_⟩
  · have h := inv_exec evs
    exact ⟨h.pending, h.once, fun o observed ho => (h.received o observed ho).2⟩
  · exact along_of_inv (I := Inv) (fun _ ev h _ => h.step ev) (fun _ ev h _ => h.owned ev) inv_start
      (along_true ..)

end NatProbeResponseWaiters

end BuckyP2p.Quic.ProbeWaiters
