import Mathlib.Algebra.GroupWithZero.Nat
import Mathlib.Data.Fin.Basic
import Mathlib.Data.List.Lex
import Mathlib.Order.Lattice
import Mathlib.Order.Fin.Basic

/-!
# BuckyP2p.Base — machine integers, ids and errors of `p2p-frame`

The fixed-width integers of the source are `Fin (2 ^ w)`, so that a value out of range cannot be
built and the order is the numeric one.  `u64::saturating_add` is `saturatingAdd`.

* `P2pId` (`p2p_identity.rs`): a byte vector; its derived `Ord` is the lexicographic order, and
  `as_slice` is the identity.
* `TunnelId` (`types.rs`): the `u32` behind connection ids, channel ids and lease sequences; its own
  order is `TunnelId.lt`.
* `P2pError` (`error.rs`): the codes that the modelled functions return, with their message.
-/

namespace BuckyP2p

abbrev U8 : Type := Fin (2 ^ 8)
abbrev U16 : Type := Fin (2 ^ 16)
abbrev U32 : Type := Fin (2 ^ 32)
abbrev U64 : Type := Fin (2 ^ 64)

instance neZeroU8 : NeZero (2 ^ 8) := ⟨by decide⟩
instance neZeroU16 : NeZero (2 ^ 16) := ⟨by decide⟩
instance neZeroU32 : NeZero (2 ^ 32) := ⟨by decide⟩
instance neZeroU64 : NeZero (2 ^ 64) := ⟨by decide⟩
instance lawfulBEqU16 : LawfulBEq U16 := inferInstance
instance lawfulBEqU32 : LawfulBEq U32 := inferInstance
instance lawfulBEqListU8 : LawfulBEq (List U8) := inferInstance

/-- `u64::MAX`. -/
def u64Max : U64 := ⟨2 ^ 64 - 1, by decide⟩

/-- `u64::saturating_add`. -/
def saturatingAdd (a b : U64) : U64 := ⟨min (a.val + b.val) (2 ^ 64 - 1), by omega⟩

theorem saturatingAdd_val (a b : U64) :
    (saturatingAdd a b).val = min (a.val + b.val) (2 ^ 64 - 1) := rfl

/-- `n as u64`; what is added to a counter of bytes wraps around. -/
def wrap (n : Nat) : U64 := Fin.ofNat (2 ^ 64) n

theorem wrap_add (m n : Nat) : wrap m + wrap n = wrap (m + n) := by
  apply Fin.ext
  simp [wrap, Fin.val_add]

theorem add_wrap_add (v : U64) (m n : Nat) : v + wrap m + wrap n = v + wrap (m + n) := by
  apply Fin.ext
  simp [wrap, Fin.val_add, Nat.add_assoc]

/-- Counters that agree count the same when they are less than `2 ^ 64` apart. -/
theorem eq_of_wrap {m n : Nat} (h : wrap m = wrap (m + n)) (hn : n < 2 ^ 64) : n = 0 := by
  have hval : m % 2 ^ 64 = (m + n) % 2 ^ 64 := congrArg Fin.val h
  omega

/-- Microseconds. -/
abbrev Timestamp : Type := U64

/-- Nanoseconds as microseconds, at most `u64::MAX`. -/
theorem micros_lt (duration : Nat) : min (duration / 1000) (2 ^ 64 - 1) < 2 ^ 64 := by omega

abbrev P2pId : Type := List U8

abbrev TunnelId : Type := U32

/-- `partial_cmp` of `TunnelId`: ids that are far apart have wrapped around between them. -/
def TunnelId.partialCmp (a b : TunnelId) : Option Ordering :=
  if a = 0 ∨ b = 0 then some (compare a b)
  else if (2 ^ 32 - 1) / 2 < max a.val b.val - min a.val b.val then
    some (if b < a then .lt else .gt)
  else some (compare a b)

/-- `<` of `TunnelId`. -/
def TunnelId.lt (a b : TunnelId) : Bool := a.partialCmp b = some .lt

/-- `>` of `TunnelId`. -/
def TunnelId.gt (a b : TunnelId) : Bool := a.partialCmp b = some .gt

abbrev Sequence : Type := U32

/-- The codes of `P2pErrorCode` that the modelled functions return. -/
inductive P2pErrorCode
  | ok | failed | invalidParam | timeout | notFound | errorState | expired | outOfLimit
  | permissionDenied | interrupted | invalidData | unmatch | userCanceled | conflict | networkError
  | alreadyExists | invalidSignature | invalidInput | portNotListen | reject | unknown | ioError
  | rawCodecError | aborted | certError | connectFailed | notConnected | quicError | targetNotFound
  | tlsError | notSupport | internalError | streamPortAlreadyListen | datagramPortAlreadyListen
  deriving DecidableEq, Repr

/-- `p2p_err!(code, msg)`. -/
structure P2pError where
  code : P2pErrorCode
  msg : String
  deriving DecidableEq, Repr

abbrev P2pResult (α : Type) : Type := Except P2pError α

end BuckyP2p
