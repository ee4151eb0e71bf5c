import Mathlib.Tactic.SplitIfs

/-! The order of texts is that of their bytes in UTF-8: the earlier of two characters is told by the
first byte in which they differ, and no character begins with all the bytes of another. -/

set_option autoImplicit false

namespace Rollout.Text

def bytes (text : String) : List UInt8 := text.toUTF8.data.toList

theorem bytes_eq (text : String) : bytes text = text.toList.flatMap String.utf8EncodeChar := by
  rw [bytes, String.toUTF8, ← String.utf8Encode_toList, List.utf8Encode,
    List.toList_data_toByteArray]

theorem byte_lt_iff {first second : Nat} (small : first < 256) (small' : second < 256) :
    UInt8.ofNat first < UInt8.ofNat second ↔ first < second := by
  rw [UInt8.lt_iff_toNat_lt, UInt8.toNat_ofNat', UInt8.toNat_ofNat', Nat.mod_eq_of_lt small,
    Nat.mod_eq_of_lt small']

theorem byte_eq_iff {first second : Nat} (small : first < 256) (small' : second < 256) :
    UInt8.ofNat first = UInt8.ofNat second ↔ first = second := by
  rw [← UInt8.toNat_inj, UInt8.toNat_ofNat', UInt8.toNat_ofNat', Nat.mod_eq_of_lt small,
    Nat.mod_eq_of_lt small']

theorem encode_append_lt {first second : Char} (before : first < second) (left right : List UInt8) :
    String.utf8EncodeChar first ++ left < String.utf8EncodeChar second ++ right := by
  have less : first.val.toNat < second.val.toNat := before
  have bound : second.val.toNat < 1114112 := by
    have valid := second.valid
    simp only [UInt32.isValidChar, Nat.isValidChar] at valid
    omega
  simp only [String.utf8EncodeChar]
  generalize first.val.toNat = low at less
  generalize second.val.toNat = high at less bound
  split_ifs <;>
    simp (disch := omega) only [List.cons_append, List.nil_append, List.cons_lt_cons_iff,
      byte_lt_iff, byte_eq_iff, Nat.mod_eq_of_lt] <;>
    omega

theorem flatMap_encode_lt {left right : List Char} (before : left < right) :
    left.flatMap String.utf8EncodeChar < right.flatMap String.utf8EncodeChar := by
  induction left generalizing right with
  | nil =>
      cases right with
      | nil => exact absurd before (List.lt_irrefl _)
      | cons other others =>
          rw [List.flatMap_cons]
          cases encoded : String.utf8EncodeChar other with
          | nil => exact absurd encoded String.utf8EncodeChar_ne_nil
          | cons byte rest => exact List.nil_lt_cons byte _
  | cons first rest ih =>
      cases right with
      | nil => exact absurd before (List.not_lt_nil _)
      | cons other others =>
          rw [List.flatMap_cons, List.flatMap_cons]
          rcases List.cons_lt_cons_iff.mp before with earlier | ⟨rfl, later⟩
          · exact encode_append_lt earlier _ _
          · exact List.append_left_lt (ih later)

theorem lt_iff_bytes_lt (left right : String) : left < right ↔ bytes left < bytes right := by
  have forward {left right : String} (before : left < right) : bytes left < bytes right := by
    rw [bytes_eq, bytes_eq]
    exact flatMap_encode_lt (String.lt_iff.mp before)
  refine ⟨forward, ?_⟩
  intro before
  by_cases less : left < right
  · exact less
  · by_cases same : left = right
    · rw [same] at before
      exact absurd before (List.lt_irrefl _)
    · have greater : right < left := Std.lt_of_le_of_ne less (Ne.symm same)
      exact absurd (forward greater) (List.lt_asymm before)

example : "\uffff" < "😀" ∧ bytes "\uffff" < bytes "😀" := by decide

end Rollout.Text
