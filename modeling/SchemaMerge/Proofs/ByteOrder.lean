import Mathlib.Data.List.Lex
import Mathlib.Tactic.SplitIfs
import SchemaMerge.Fields

/-!
The order of strings by their bytes. UTF-8 keeps the order of the characters, so strings compare by
their bytes as they do by their characters (`Text.bytes_lt_bytes_iff`).
-/

namespace SchemaMerge.Text

/-- The bytes of a string in UTF-8. -/
def bytes (s : String) : List UInt8 :=
  s.toByteArray.data.toList

theorem bytes_eq_flatMap (s : String) : bytes s = s.toList.flatMap String.utf8EncodeChar := by
  rw [bytes, ← String.utf8Encode_toList, List.utf8Encode, List.data_toByteArray]

/-- The greater character has the greater bytes, and they already differ where both have one. -/
theorem utf8EncodeChar_append_lt {c d : Char} (h : c < d) (xs ys : List UInt8) :
    String.utf8EncodeChar c ++ xs < String.utf8EncodeChar d ++ ys := by
  have hval : c.val.toNat < d.val.toNat := h
  have hd : d.val.toNat < 0x110000 := by
    rcases d.valid with h | h
    · exact Nat.lt_trans h (by decide)
    · exact h.2
  -- No byte overflows, and each one after the first is a digit to base 64.
  have hbyte : ∀ x, (x % 32 + 192) % 2 ^ 8 = x % 32 + 192 ∧ (x % 16 + 224) % 2 ^ 8 = x % 16 + 224 ∧
      (x % 8 + 240) % 2 ^ 8 = x % 8 + 240 ∧ (x % 64 + 128) % 2 ^ 8 = x % 64 + 128 := by
    omega
  have hdigit : ∀ x, x / 4096 = x / 64 / 64 ∧ x / 262144 = x / 64 / 64 / 64 := by omega
  unfold String.utf8EncodeChar
  dsimp only
  generalize c.val.toNat = v at hval ⊢
  generalize d.val.toNat = w at hval hd ⊢
  split_ifs <;>
    simp only [List.cons_append, List.nil_append, List.cons_lt_cons_iff, UInt8.lt_iff_toNat_lt,
      ← UInt8.toNat_inj, UInt8.toNat_ofNat', hbyte, hdigit] <;> omega

theorem flatMap_utf8EncodeChar_lt {a b : List Char} (h : a < b) :
    a.flatMap String.utf8EncodeChar < b.flatMap String.utf8EncodeChar := by
  induction h with
  | @nil d b =>
      rw [List.flatMap_nil, List.flatMap_cons]
      obtain ⟨byte, rest, hbytes⟩ :=
        List.exists_cons_of_ne_nil (String.utf8EncodeChar_ne_nil (c := d))
      rw [hbytes, List.cons_append]
      exact List.Lex.nil
  | cons _ ih =>
      rw [List.flatMap_cons, List.flatMap_cons]
      exact List.append_left_lt ih
  | rel h =>
      rw [List.flatMap_cons, List.flatMap_cons]
      exact utf8EncodeChar_append_lt h _ _

theorem bytes_lt_bytes {a b : String} (h : a < b) : bytes a < bytes b := by
  rw [bytes_eq_flatMap, bytes_eq_flatMap]
  exact flatMap_utf8EncodeChar_lt (String.lt_iff.1 h)

theorem bytes_lt_bytes_iff {a b : String} : bytes a < bytes b ↔ a < b := by
  refine ⟨fun h => ?_, bytes_lt_bytes⟩
  by_contra hnot
  by_cases heq : a = b
  · exact List.lt_irrefl _ (heq ▸ h)
  · exact List.lt_irrefl _ (List.lt_trans h (bytes_lt_bytes (Fields.lt_of_not_lt hnot heq)))

end SchemaMerge.Text
