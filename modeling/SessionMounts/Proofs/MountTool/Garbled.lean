import SessionMounts.MountTool.Dialogue
import SessionMounts.Proofs.Utf8.Validity

/-!
Outputs that are no text. Whether bytes can be decoded does not depend on where they stand or on
how they are cut, so a dialogue ends in undecodable output exactly if the bytes that arrive before
the first fault of reading cannot be decoded as a whole (`exists_undecodable_iff`). The prompts on
the way, and how much had to be read for each, do not matter.
-/

namespace SessionMounts.Utf8

/-- Bytes that can be decoded at one position can be decoded at every other. -/
theorem feed_eq_ok_of_position {pending : Pending} {position : Nat} {bytes : List UInt8}
    {decoded : List Char × Pending} (h : feed pending position bytes = .ok decoded) (other : Nat) :
    feed pending other bytes = .ok decoded := by
  induction bytes generalizing pending position other decoded with
  | nil => exact h
  | cons byte rest ih =>
      rw [feed] at h ⊢
      cases hnext : pending.next byte with
      | fault reason => simp [hnext] at h
      | pending next =>
          simp only [hnext] at h ⊢
          exact ih h (other + 1)
      | character c =>
          simp only [hnext] at h ⊢
          cases hrest : feed .nothing (position + 1) rest with
          | error fault => simp [hrest] at h
          | ok pair =>
              rw [hrest] at h
              rw [ih hrest (other + 1)]
              exact h

/-- Bytes that cannot be decoded, whatever follows them. -/
def Undecodable (pending : Pending) (bytes : List UInt8) : Prop :=
  ∃ fault, feed pending 0 bytes = .error fault

theorem undecodable_of_feed {pending : Pending} {position : Nat} {bytes : List UInt8}
    {fault : Fault} (h : feed pending position bytes = .error fault) : Undecodable pending bytes := by
  cases hzero : feed pending 0 bytes with
  | error fault => exact ⟨fault, hzero⟩
  | ok decoded =>
      rw [feed_eq_ok_of_position hzero position] at h
      cases h

theorem not_undecodable_nil (pending : Pending) : ¬Undecodable pending [] := by
  rintro ⟨fault, h⟩
  cases h

theorem undecodable_append_of_error {pending : Pending} {position : Nat} {front : List UInt8}
    {fault : Fault} (h : feed pending position front = .error fault) (back : List UInt8) :
    Undecodable pending (front ++ back) := by
  obtain ⟨first, hfirst⟩ := undecodable_of_feed h
  exact ⟨first, by rw [feed_append, hfirst]⟩

/-- After bytes that can be decoded, it depends on the others. -/
theorem undecodable_append_iff {pending next : Pending} {position : Nat} {front : List UInt8}
    {text : List Char} (h : feed pending position front = .ok (text, next)) (back : List UInt8) :
    Undecodable pending (front ++ back) ↔ Undecodable next back := by
  have hall : feed pending 0 (front ++ back) =
      (feed next (0 + front.length) back).map fun decoded => (text ++ decoded.1, decoded.2) := by
    rw [feed_append, feed_eq_ok_of_position h 0]
  cases hback : feed next (0 + front.length) back with
  | error fault =>
      rw [hback] at hall
      exact iff_of_true ⟨fault, hall⟩ (undecodable_of_feed hback)
  | ok decoded =>
      rw [hback] at hall
      refine iff_of_false ?_ ?_
      · rintro ⟨fault, hfault⟩
        cases hall.symm.trans hfault
      · rintro ⟨fault, hfault⟩
        cases (feed_eq_ok_of_position hback 0).symm.trans hfault

end SessionMounts.Utf8

namespace SessionMounts.MountTool

/-- The bytes of an output that arrive before the first fault of reading. -/
def arrived : List Read → List UInt8
  | [] => []
  | .fault _ :: _ => []
  | .bytes piece :: rest => piece ++ arrived rest

/-- The bytes that arrive cannot be decoded. -/
def Garbled (reads : List Read) : Prop :=
  Utf8.Undecodable .nothing (arrived reads)

namespace Dialogue

/-- How a dialogue ends once all its prompts have been answered. -/
def ending : Dialogue → Except Trouble (List Char)
  | .prompt _ _ _ _ next => next.ending
  | .ended before => .ok before
  | .broken trouble _ => .error trouble

theorem exists_undecodable_iff (pending : Utf8.Pending) (buffer : List Char) (reads : List Read) :
    (∃ fault, (ofReads pending buffer reads).ending = .error (.undecodable fault)) ↔
      Utf8.Undecodable pending (arrived reads) := by
  fun_induction ofReads pending buffer reads with
  | case1 pending buffer reads found hfound ih => exact ih
  | case2 pending buffer hnone =>
      refine iff_of_false ?_ (Utf8.not_undecodable_nil pending)
      rintro ⟨fault, h⟩
      cases h
  | case3 pending buffer hnone error rest =>
      refine iff_of_false ?_ (Utf8.not_undecodable_nil pending)
      rintro ⟨fault, h⟩
      cases h
  | case4 pending buffer hnone piece rest fault hpiece =>
      exact iff_of_true ⟨fault, rfl⟩ (Utf8.undecodable_append_of_error hpiece (arrived rest))
  | case5 pending buffer hnone piece rest text next hpiece ih =>
      rw [ih, arrived, Utf8.undecodable_append_iff hpiece]

end Dialogue

end SessionMounts.MountTool
