import Mathlib.Data.List.Lex

/-!
# Bytes of a text

Texts are ordered by their code points, and their UTF-8 bytes are in the same order.

* `bytes`: the UTF-8 bytes of a text;
* `encode_lt_encode`: the bytes of a smaller character are smaller, whatever follows;
* **`bytes_lt_bytes`**: the bytes of a smaller text are smaller.
-/

namespace QuestCheck.Text

/-- The UTF-8 bytes of a text. -/
def bytes (s : String) : List UInt8 := s.toUTF8.data.toList

theorem bytes_eq_flatMap (s : String) : bytes s = s.toList.flatMap String.utf8EncodeChar := by
  show s.toByteArray.data.toList = _
  rw [← String.ofList_toList (s := s), String.toByteArray_ofList, String.toList_ofList,
    List.utf8Encode, List.data_toByteArray, List.toList_toArray]

theorem toNat_val_lt (c : Char) : c.val.toNat < 0x110000 := by
  have h := c.valid
  simp only [UInt32.isValidChar, Nat.isValidChar] at h
  omega

/-- The bytes of a smaller character are smaller, whatever follows. -/
theorem encode_lt_encode {c d : Char} (h : c < d) (r r' : List UInt8) :
    String.utf8EncodeChar c ++ r < String.utf8EncodeChar d ++ r' := by
  have hlt : c.val.toNat < d.val.toNat := h
  have hbound := toNat_val_lt d
  unfold String.utf8EncodeChar
  generalize c.val.toNat = m at hlt
  generalize d.val.toNat = n at hlt hbound
  -- the first place in which two code points differ to the base 64
  have hfirst : m / 262144 ≤ n / 262144 := by omega
  have hsecond : m / 262144 = n / 262144 →
      m / 4096 % 64 < n / 4096 % 64 ∨ m / 4096 = n / 4096 := by omega
  have hthird : m / 4096 = n / 4096 → m / 64 % 64 < n / 64 % 64 ∨ m / 64 = n / 64 := by omega
  have hfourth : m / 64 = n / 64 → m % 64 < n % 64 := by omega
  simp only
  split_ifs <;>
    simp only [List.cons_append, List.nil_append, List.cons_lt_cons_iff, UInt8.lt_iff_toNat_lt,
      ← UInt8.toNat_inj, UInt8.toNat_ofNat']
  all_goals simp (disch := omega) only [Nat.mod_eq_of_lt]
  all_goals omega

/-- **The bytes of a smaller text are smaller.** -/
theorem bytes_lt_bytes {s t : String} (h : s < t) : bytes s < bytes t := by
  have hlex : List.Lex (· < ·) s.toList t.toList := String.lt_iff.mp h
  rw [bytes_eq_flatMap, bytes_eq_flatMap]
  generalize s.toList = cs at hlex
  generalize t.toList = ds at hlex
  induction hlex with
  | @nil d ds =>
    rw [List.flatMap_cons]
    obtain ⟨b, bs, hd⟩ := List.exists_cons_of_ne_nil (String.utf8EncodeChar_ne_nil (c := d))
    rw [hd]
    exact List.nil_lt_cons b _
  | rel hcd => exact encode_lt_encode hcd _ _
  | cons _ ih => exact List.append_left_lt ih

theorem bytes_lt_of_compare {s t : String} (h : compare s t = .lt) : bytes s < bytes t :=
  bytes_lt_bytes (compareOfLessAndEq_eq_lt.mp h)

end QuestCheck.Text
