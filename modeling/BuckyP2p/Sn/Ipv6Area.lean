import Mathlib.Tactic.IntervalCases
import BuckyP2p.Lib.Prefix
import BuckyP2p.Rendezvous.Message

/-!
# BuckyP2p.Sn.Ipv6Area — the area of a reported IPv6 address (`endpoint.rs`)

`classify_reported_ipv6_area` tests the segments of an address with masks.  The ranges that its
comments name are prefixes of the 128-bit number: `OmittedRange` and `LanRange`.  Two of its tests
take in more than that: `& 0xfff0 == 0x3ff0` is the range 3ff0::/12 and not 3fff::/20, and two
segments 2001:2 are a /32 and not 2001:2::/48.
-/

namespace BuckyP2p

open Lib

abbrev Ipv6Addr : Type := Vector U16 8

namespace Ipv6Addr

variable (ip : Ipv6Addr)

def isLoopback : Bool := ip = #v[0, 0, 0, 0, 0, 0, 0, 1]

def isUnspecified : Bool := ip = #v[0, 0, 0, 0, 0, 0, 0, 0]

def isMulticast : Bool := ip[0].val &&& 0xff00 = 0xff00

def isUniqueLocal : Bool := ip[0].val &&& 0xfe00 = 0xfc00

def isUnicastLinkLocal : Bool := ip[0].val &&& 0xffc0 = 0xfe80

def isIpv4MappedPrefix : Bool := (ip.toList.take 5).all (fun s => s = 0) && ip[5] = 0xffff

def isDocumentationRange : Bool :=
  ip[0] = 0x2001 && ip[1] = 0x0db8 || ip[0].val &&& 0xfff0 = 0x3ff0

def isBenchmarkingRange : Bool := ip[0] = 0x2001 && ip[1] = 0x0002

/-- The address as a number of 128 bits. -/
def value : Nat := number 16 (ip.toList.map Fin.val)

end Ipv6Addr

def classifyReportedIpv6Area : SocketAddr → Option EndpointArea
  | .v4 .. => none
  | .v6 ip .. =>
    if Ipv6Addr.isLoopback ip || Ipv6Addr.isUnspecified ip || Ipv6Addr.isMulticast ip then none
    else if Ipv6Addr.isUniqueLocal ip || Ipv6Addr.isUnicastLinkLocal ip ||
        Ipv6Addr.isIpv4MappedPrefix ip || Ipv6Addr.isDocumentationRange ip ||
        Ipv6Addr.isBenchmarkingRange ip then
      some .lan
    else some .wan

/-! ## The ranges -/

/-- The address is in the range that begins with these segments. -/
def InRange (segments : List Nat) (len value : Nat) : Prop :=
  InPrefix 128 len (number 16 segments) value

instance (segments : List Nat) (len value : Nat) : Decidable (InRange segments len value) :=
  inferInstanceAs (Decidable (InPrefix ..))

/-- Loopback ::1, unspecified :: and multicast ff00::/8. -/
def OmittedRange (value : Nat) : Prop :=
  value = 1 ∨ value = 0 ∨ InRange [0xff00, 0, 0, 0, 0, 0, 0, 0] 8 value

/-- fc00::/7, fe80::/10, ::ffff:0:0/96, 2001:db8::/32, 3fff::/20 and 2001:2::/48. -/
def LanRange (value : Nat) : Prop :=
  InRange [0xfc00, 0, 0, 0, 0, 0, 0, 0] 7 value ∨ InRange [0xfe80, 0, 0, 0, 0, 0, 0, 0] 10 value ∨
    InRange [0, 0, 0, 0, 0, 0xffff, 0, 0] 96 value ∨
    InRange [0x2001, 0x0db8, 0, 0, 0, 0, 0, 0] 32 value ∨
    InRange [0x3fff, 0, 0, 0, 0, 0, 0, 0] 20 value ∨
    InRange [0x2001, 2, 0, 0, 0, 0, 0, 0] 48 value

/-- Outside the documented ranges, but inside the wider ones that are tested. -/
def Swallowed (value : Nat) : Prop :=
  InRange [0x3ff0, 0, 0, 0, 0, 0, 0, 0] 12 value ∧ ¬ InRange [0x3fff, 0, 0, 0, 0, 0, 0, 0] 20 value ∨
    InRange [0x2001, 2, 0, 0, 0, 0, 0, 0] 32 value ∧
      ¬ InRange [0x2001, 2, 0, 0, 0, 0, 0, 0] 48 value

instance (value : Nat) : Decidable (OmittedRange value) := inferInstanceAs (Decidable (_ ∨ _))

instance (value : Nat) : Decidable (LanRange value) := inferInstanceAs (Decidable (_ ∨ _))

instance (value : Nat) : Decidable (Swallowed value) := inferInstanceAs (Decidable (_ ∨ _))

/-- The area of an address is the one that its range has. -/
structure AreaOfRange (value : Nat) (area : Option EndpointArea) : Prop where
  none_iff : area = none ↔ OmittedRange value
  lan_iff : area = some .lan ↔ ¬ OmittedRange value ∧ LanRange value
  wan_iff : area = some .wan ↔ ¬ OmittedRange value ∧ ¬ LanRange value

/-! ## The tests as prefixes -/

namespace Ipv6Addr

theorem exists_segments (ip : Ipv6Addr) :
    ∃ a b c d e f g h : U16, ip = #v[a, b, c, d, e, f, g, h] :=
  ⟨ip[0], ip[1], ip[2], ip[3], ip[4], ip[5], ip[6], ip[7],
    Vector.ext fun i hi => by interval_cases i <;> rfl⟩

/-- A range that ends in the first `n` segments. -/
theorem inRange_iff (ip : Ipv6Addr) {base : List Nat} {len : Nat} (n : Nat)
    (hbase : base.length = 8 ∧ ∀ d ∈ base, d < 2 ^ 16) (hn : n ≤ 8) (hlen : len ≤ 16 * n) :
    InRange base len ip.value ↔ InPrefix (16 * n) len (number 16 (base.take n))
      (number 16 ((ip.toList.map Fin.val).take n)) := by
  have hlength : (ip.toList.map Fin.val).length = 8 := by simp
  have hdigits : ∀ d ∈ ip.toList.map Fin.val, d < 2 ^ 16 := by
    intro d hd
    obtain ⟨s, -, rfl⟩ := List.mem_map.mp hd
    exact s.isLt
  have htake := inPrefix_take hdigits hbase.2 (hbase.1.trans hlength.symm)
    (hlength.symm ▸ hn) hlen
  rwa [hlength] at htake

variable (ip : Ipv6Addr)

theorem isMulticast_iff :
    ip.isMulticast = true ↔ InRange [0xff00, 0, 0, 0, 0, 0, 0, 0] 8 ip.value := by
  rw [inRange_iff ip 1 (by decide) (by decide) (by decide), isMulticast, decide_eq_true_iff]
  obtain ⟨a, b, c, d, e, f, g, h, rfl⟩ := exists_segments ip
  simpa [number] using and_high_mask_eq_iff 8 0xff00 a.isLt (by decide)

theorem isUniqueLocal_iff :
    ip.isUniqueLocal = true ↔ InRange [0xfc00, 0, 0, 0, 0, 0, 0, 0] 7 ip.value := by
  rw [inRange_iff ip 1 (by decide) (by decide) (by decide), isUniqueLocal, decide_eq_true_iff]
  obtain ⟨a, b, c, d, e, f, g, h, rfl⟩ := exists_segments ip
  simpa [number] using and_high_mask_eq_iff 7 0xfc00 a.isLt (by decide)

theorem isUnicastLinkLocal_iff :
    ip.isUnicastLinkLocal = true ↔ InRange [0xfe80, 0, 0, 0, 0, 0, 0, 0] 10 ip.value := by
  rw [inRange_iff ip 1 (by decide) (by decide) (by decide), isUnicastLinkLocal, decide_eq_true_iff]
  obtain ⟨a, b, c, d, e, f, g, h, rfl⟩ := exists_segments ip
  simpa [number] using and_high_mask_eq_iff 10 0xfe80 a.isLt (by decide)

theorem isIpv4MappedPrefix_iff :
    ip.isIpv4MappedPrefix = true ↔ InRange [0, 0, 0, 0, 0, 0xffff, 0, 0] 96 ip.value := by
  rw [inRange_iff ip 6 (by decide) (by decide) (by decide), isIpv4MappedPrefix]
  obtain ⟨a, b, c, d, e, f, g, h, rfl⟩ := exists_segments ip
  have hzero (s : U16) : s = 0 ↔ s.val = 0 := Fin.ext_iff
  have hlast : f = 0xffff ↔ f.val = 0xffff := Fin.ext_iff
  show (decide (a = 0) && (decide (b = 0) && (decide (c = 0) && (decide (d = 0) &&
    (decide (e = 0) && true)))) && decide (f = 0xffff)) = true ↔
      (number 16 [a.val, b.val, c.val, d.val, e.val, f.val]) / 2 ^ 0 = 0xffff
  simp only [Bool.and_eq_true, decide_eq_true_eq, hzero, hlast, number, List.foldl, and_true,
    Nat.pow_zero, Nat.div_one]
  omega

/-- A range that ends with the second segment. -/
theorem inRange_two (m n : U16) :
    InRange [m.val, n.val, 0, 0, 0, 0, 0, 0] 32 ip.value ↔ ip[0] = m ∧ ip[1] = n := by
  have hdigits : ∀ d ∈ [m.val, n.val, 0, 0, 0, 0, 0, 0], d < 2 ^ 16 := by
    have hm := m.isLt
    have hn := n.isLt
    intro d hd
    simp only [List.mem_cons, List.not_mem_nil, or_false] at hd
    omega
  rw [inRange_iff ip 2 ⟨rfl, hdigits⟩ (by decide) (by decide), Fin.ext_iff, Fin.ext_iff]
  obtain ⟨a, b, c, d, e, f, g, h, rfl⟩ := exists_segments ip
  show number 16 [a.val, b.val] / 2 ^ 0 = number 16 [m.val, n.val] / 2 ^ 0 ↔
    a.val = m.val ∧ b.val = n.val
  simp only [number, List.foldl]
  omega

theorem eq_last_iff (n : U16) (hn : n.val ≤ 1) :
    ip = #v[0, 0, 0, 0, 0, 0, 0, n] ↔ ip.value = n.val := by
  obtain ⟨a, b, c, d, e, f, g, h, rfl⟩ := exists_segments ip
  have hvec : #v[a, b, c, d, e, f, g, h] = #v[0, 0, 0, 0, 0, 0, 0, n] ↔
      a = 0 ∧ b = 0 ∧ c = 0 ∧ d = 0 ∧ e = 0 ∧ f = 0 ∧ g = 0 ∧ h = n := by simp
  show _ ↔ number 16 [a.val, b.val, c.val, d.val, e.val, f.val, g.val, h.val] = n.val
  have hzero (s : U16) : s = 0 ↔ s.val = 0 := Fin.ext_iff
  rw [hvec]
  simp only [hzero, Fin.ext_iff, number, List.foldl]
  omega

theorem isDocumentationRange_iff : ip.isDocumentationRange = true ↔
    InRange [0x2001, 0x0db8, 0, 0, 0, 0, 0, 0] 32 ip.value ∨
      InRange [0x3ff0, 0, 0, 0, 0, 0, 0, 0] 12 ip.value := by
  have hmask : ip[0].val &&& 0xfff0 = 0x3ff0 ↔
      InRange [0x3ff0, 0, 0, 0, 0, 0, 0, 0] 12 ip.value := by
    rw [inRange_iff ip 1 (by decide) (by decide) (by decide)]
    obtain ⟨a, b, c, d, e, f, g, h, rfl⟩ := exists_segments ip
    simpa [number] using and_high_mask_eq_iff 12 0x3ff0 a.isLt (by decide)
  rw [← hmask, isDocumentationRange, Bool.or_eq_true, Bool.and_eq_true, decide_eq_true_iff,
    decide_eq_true_iff, decide_eq_true_iff]
  exact or_congr_left (inRange_two ip 0x2001 0x0db8).symm

theorem isBenchmarkingRange_iff :
    ip.isBenchmarkingRange = true ↔ InRange [0x2001, 2, 0, 0, 0, 0, 0, 0] 32 ip.value := by
  rw [isBenchmarkingRange, Bool.and_eq_true, decide_eq_true_iff, decide_eq_true_iff]
  exact (inRange_two ip 0x2001 2).symm

/-- The first test of `classify_reported_ipv6_area`. -/
theorem omitted_iff : (ip.isLoopback || ip.isUnspecified || ip.isMulticast) = true ↔
    OmittedRange ip.value := by
  have hloopback : ip.isLoopback = true ↔ ip.value = 1 :=
    decide_eq_true_iff.trans (eq_last_iff ip 1 (by decide))
  have hunspecified : ip.isUnspecified = true ↔ ip.value = 0 :=
    decide_eq_true_iff.trans (eq_last_iff ip 0 (by decide))
  rw [Bool.or_eq_true, Bool.or_eq_true, hloopback, hunspecified, isMulticast_iff, or_assoc]
  rfl

/-- The second test: it takes in what is swallowed. -/
theorem lan_iff : (ip.isUniqueLocal || ip.isUnicastLinkLocal || ip.isIpv4MappedPrefix ||
    ip.isDocumentationRange || ip.isBenchmarkingRange) = true ↔
      LanRange ip.value ∨ Swallowed ip.value := by
  have hdocumentation : InRange [0x3fff, 0, 0, 0, 0, 0, 0, 0] 20 ip.value →
      InRange [0x3ff0, 0, 0, 0, 0, 0, 0, 0] 12 ip.value := fun h =>
    (h.mono (by decide : 12 ≤ 20)).trans (by decide +kernel)
  have hbenchmarking : InRange [0x2001, 2, 0, 0, 0, 0, 0, 0] 48 ip.value →
      InRange [0x2001, 2, 0, 0, 0, 0, 0, 0] 32 ip.value := fun h => h.mono (by decide)
  simp only [Bool.or_eq_true, isUniqueLocal_iff, isUnicastLinkLocal_iff, isIpv4MappedPrefix_iff,
    isDocumentationRange_iff, isBenchmarkingRange_iff, LanRange, Swallowed]
  tauto

end Ipv6Addr

/-- What is swallowed is in none of the documented ranges. -/
theorem Swallowed.outside {value : Nat} (h : Swallowed value) :
    ¬ OmittedRange value ∧ ¬ LanRange value := by
  rcases h with ⟨hin, hout⟩ | ⟨hin, hout⟩
  · constructor
    · rintro (rfl | rfl | hmulticast)
      · exact absurd hin (by decide +kernel)
      · exact absurd hin (by decide +kernel)
      · exact hin.disjoint (by decide +kernel) hmulticast
    · rintro (h | h | h | h | h | h)
      · exact hin.disjoint (by decide +kernel) h
      · exact hin.disjoint (by decide +kernel) h
      · exact hin.disjoint (by decide +kernel) h
      · exact hin.disjoint (by decide +kernel) h
      · exact hout h
      · exact hin.disjoint (by decide +kernel) h
  · constructor
    · rintro (rfl | rfl | hmulticast)
      · exact absurd hin (by decide +kernel)
      · exact absurd hin (by decide +kernel)
      · exact hin.disjoint (by decide +kernel) hmulticast
    · rintro (h | h | h | h | h | h)
      · exact hin.disjoint (by decide +kernel) h
      · exact hin.disjoint (by decide +kernel) h
      · exact hin.disjoint (by decide +kernel) h
      · exact hin.disjoint (by decide +kernel) h
      · exact hin.disjoint (by decide +kernel) h
      · exact hout h

/-- For every IPv6 socket address: it gets the area of its range, unless it is swallowed. -/
theorem classify_areaOfRange_iff (ip : Ipv6Addr) (port : U16) (flowinfo scopeId : U32) :
    AreaOfRange ip.value (classifyReportedIpv6Area (.v6 ip port flowinfo scopeId)) ↔
      ¬ Swallowed ip.value := by
  have homitted := ip.omitted_iff
  have hlan := ip.lan_iff
  have houtside : Swallowed ip.value → _ := Swallowed.outside
  unfold classifyReportedIpv6Area
  dsimp only
  by_cases h1 : OmittedRange ip.value
  · rw [if_pos (homitted.mpr h1)]
    refine iff_of_true ⟨by simp [h1], by simp [h1], by simp [h1]⟩ fun h => (houtside h).1 h1
  · rw [if_neg fun h => h1 (homitted.mp h)]
    by_cases h2 : LanRange ip.value ∨ Swallowed ip.value
    · rw [if_pos (hlan.mpr h2)]
      constructor
      · intro harea hswallowed
        exact (houtside hswallowed).2 (harea.lan_iff.mp rfl).2
      · intro hno
        have hrange := h2.resolve_right hno
        exact ⟨by simp [h1], by simp [h1, hrange], by simp [hrange]⟩
    · rw [if_neg fun h => h2 (hlan.mp h)]
      obtain ⟨hrange, hno⟩ := not_or.mp h2
      exact iff_of_true ⟨by simp [h1], by simp [hrange], by simp [h1, hrange]⟩ hno

/-- 3ff0::1 is public, and is taken for documentation. -/
theorem public_address_lan :
    classifyReportedIpv6Area (.v6 #v[0x3ff0, 0, 0, 0, 0, 0, 0, 1] 3622 0 0) = some .lan ∧
    ¬ AreaOfRange (Ipv6Addr.value #v[0x3ff0, 0, 0, 0, 0, 0, 0, 1])
      (classifyReportedIpv6Area (.v6 #v[0x3ff0, 0, 0, 0, 0, 0, 0, 1] 3622 0 0)) := by
  have harea :
      classifyReportedIpv6Area (.v6 #v[0x3ff0, 0, 0, 0, 0, 0, 0, 1] 3622 0 0) = some .lan := by
    decide +kernel
  refine ⟨harea, fun h => absurd (h.lan_iff.mp harea).2 (by decide +kernel)⟩

end BuckyP2p
