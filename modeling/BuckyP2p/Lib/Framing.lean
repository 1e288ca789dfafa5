import Mathlib.Data.List.Basic
import Mathlib.Data.List.Infix

/-!
# BuckyP2p.Lib.Framing — streams of self-delimiting frames

A set of frames is self-delimiting when no frame begins with another one.  Then the frames at the
front of a stream are determined by the stream (`SelfDelimiting.prefix_frames`), and a stream with a
broken-off frame at its end is not made of whole ones (`SelfDelimiting.not_whole`).
-/

namespace Lib

variable {β : Type*}

def SelfDelimiting (F : List β → Prop) : Prop :=
  ∀ f g t u, F f → F g → f ++ t = g ++ u → f = g

namespace SelfDelimiting

variable {F : List β → Prop} {fs gs : List (List β)} {f p r : List β}

/-- A part of a frame holds no frame. -/
theorem short (hF : SelfDelimiting F) (hf : F (p ++ r)) (hr : r ≠ []) {g : List β} (hg : F g) :
    ¬g <+: p := by
  rintro ⟨t, rfl⟩
  have heq : g = g ++ t ++ r := hF g (g ++ t ++ r) (t ++ r) [] hg hf (by simp)
  have hlen := congrArg List.length heq
  have hpos := List.length_pos_of_ne_nil hr
  simp only [List.length_append] at hlen
  omega

/-- Whoever cuts frames off the front of a stream cuts off those that it was made of. -/
theorem prefix_frames (hF : SelfDelimiting F) (hfs : ∀ f ∈ fs, F f) (hgs : ∀ g ∈ gs, F g)
    (hp : ∀ g, F g → ¬g <+: p) (h : gs.flatten <+: fs.flatten ++ p) : gs <+: fs := by
  induction gs generalizing fs with
  | nil => exact List.nil_prefix
  | cons g gs ih =>
    obtain ⟨t, ht⟩ := h
    rw [List.flatten_cons, List.append_assoc] at ht
    cases fs with
    | nil => exact absurd ⟨_, ht⟩ (hp g (hgs g List.mem_cons_self))
    | cons f fs =>
      rw [List.flatten_cons, List.append_assoc] at ht
      obtain rfl : g = f :=
        hF g f _ _ (hgs g List.mem_cons_self) (hfs f List.mem_cons_self) ht
      have hrest := ih (fun f hf => hfs f (List.mem_cons_of_mem _ hf))
        (fun g hg => hgs g (List.mem_cons_of_mem _ hg)) ⟨t, List.append_cancel_left ht⟩
      exact (List.prefix_cons_inj g).mpr hrest

theorem not_whole (hF : SelfDelimiting F) (hfs : ∀ f ∈ fs, F f) (hgs : ∀ g ∈ gs, F g)
    (hf : F (p ++ r)) (hr : r ≠ []) (hp : p ≠ []) : fs.flatten ++ p ≠ gs.flatten := by
  intro h
  obtain ⟨t, rfl⟩ := hF.prefix_frames hfs hgs (fun g hg => hF.short hf hr hg) ⟨[], by simp [h]⟩
  have hlen := congrArg List.length h
  have hpos := List.length_pos_of_ne_nil hp
  rw [List.length_append, List.flatten_append, List.length_append] at hlen
  omega

end SelfDelimiting

end Lib
