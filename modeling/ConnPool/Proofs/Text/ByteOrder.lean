/-
  ConnPool.Proofs.Text.ByteOrder

  The UTF-8 bytes of texts, and their order.

  Texts are ordered by their characters.  A character below another one has
  bytes below those of the other, whatever follows either of them, so the order
  of texts is that of their bytes (`utf8Bytes_lt_iff`).
-/

import ConnPool.Client.CText
import ConnPool.KeyMap

namespace ConnPool
namespace Client

/-- The bytes of a text are those of its characters, one after another. -/
theorem utf8Bytes_eq (text : String) :
    utf8Bytes text = text.toList.flatMap String.utf8EncodeChar := by
  have hbytes : text.toByteArray = text.toList.utf8Encode := String.utf8Encode_toList.symm
  show text.toByteArray.data.toList = _
  rw [hbytes, List.utf8Encode, List.data_toByteArray, List.toList_toArray]

/-- Different texts have different bytes. -/
theorem utf8Bytes_injective {a b : String} (h : utf8Bytes a = utf8Bytes b) : a = b := by
  apply String.toByteArray_inj.1
  exact ByteArray.ext (Array.toList_inj.1 h)

/-! ## Characters -/

/-- Bytes are compared as the numbers that they stand for. -/
theorem ofNat_cons_lt_iff {m n : Nat} (hm : m < 256) (hn : n < 256) {xs ys : List UInt8} :
    UInt8.ofNat m :: xs < UInt8.ofNat n :: ys ↔ m < n ∨ (m = n ∧ xs < ys) := by
  have hm' : (UInt8.ofNat m).toNat = m := UInt8.toNat_ofNat_of_lt' hm
  have hn' : (UInt8.ofNat n).toNat = n := UInt8.toNat_ofNat_of_lt' hn
  rw [List.cons_lt_cons_iff, UInt8.lt_iff_toNat_lt, ← UInt8.toNat_inj, hm', hn']

/-- Numbers are ordered as their digits to the base 64 are, higher digits
    first. -/
theorem sextets_lt {m n : Nat} (h : m < n) :
    m / 262144 < n / 262144 ∨ (m / 262144 = n / 262144 ∧
      (m / 4096 % 64 < n / 4096 % 64 ∨ (m / 4096 % 64 = n / 4096 % 64 ∧
        (m / 64 % 64 < n / 64 % 64 ∨ (m / 64 % 64 = n / 64 % 64 ∧ m % 64 < n % 64))))) := by
  have hdigit : ∀ {m n : Nat}, m < n → m / 64 < n / 64 ∨ (m / 64 = n / 64 ∧ m % 64 < n % 64) := by
    omega
  have hsquare : ∀ k : Nat, k / 64 / 64 = k / 4096 := fun k => Nat.div_div_eq_div_mul k 64 64
  have hcube : ∀ k : Nat, k / 4096 / 64 = k / 262144 := fun k =>
    Nat.div_div_eq_div_mul k 4096 64
  rcases hdigit h with h₁ | ⟨h₁, hlast⟩
  · rcases hdigit h₁ with h₂ | ⟨h₂, hthird⟩
    · rw [hsquare, hsquare] at h₂
      rcases hdigit h₂ with h₃ | ⟨h₃, hsecond⟩
      · rw [hcube, hcube] at h₃
        exact .inl h₃
      · rw [hcube, hcube] at h₃
        exact .inr ⟨h₃, .inl hsecond⟩
    · rw [hsquare, hsquare] at h₂
      exact .inr ⟨by rw [← hcube, h₂, hcube], .inr ⟨by rw [h₂], .inl hthird⟩⟩
  · have h₂ : m / 4096 = n / 4096 := by rw [← hsquare, h₁, hsquare]
    exact .inr ⟨by rw [← hcube, h₂, hcube], .inr ⟨by rw [h₂], .inr ⟨by rw [h₁], hlast⟩⟩⟩

/-- A character below another one has bytes below those of the other, whatever
    follows them. -/
theorem utf8EncodeChar_append_lt {c d : Char} (h : c < d) (xs ys : List UInt8) :
    String.utf8EncodeChar c ++ xs < String.utf8EncodeChar d ++ ys := by
  have hlt : c.val.toNat < d.val.toNat := h
  have hbound : d.val.toNat < 0x110000 := by
    rcases d.valid with hlow | ⟨-, hhigh⟩
    · omega
    · exact hhigh
  simp only [String.utf8EncodeChar]
  generalize c.val.toNat = m at *
  generalize d.val.toNat = n at *
  have hdigits := sextets_lt hlt
  have hm : m / 262144 % 8 = m / 262144 := by omega
  have hn : n / 262144 % 8 = n / 262144 := by omega
  -- a longer form has a greater first byte, and two of one form differ somewhere
  repeat' split
  all_goals
    simp (disch := omega) only [List.cons_append, List.nil_append, ofNat_cons_lt_iff]
    omega

/-! ## Texts -/

/-- Texts in order have their bytes in order. -/
theorem utf8Bytes_lt_of_lt {a b : String} (h : a < b) : utf8Bytes a < utf8Bytes b := by
  rw [utf8Bytes_eq, utf8Bytes_eq]
  have h : List.Lex (· < ·) a.toList b.toList := h
  generalize a.toList = cs at *
  generalize b.toList = ds at *
  -- over the characters that the two texts begin with alike
  induction h with
  | @nil d ds =>
      obtain ⟨byte, bytes, hbytes⟩ := List.exists_cons_of_ne_nil (String.utf8EncodeChar_ne_nil (c := d))
      rw [List.flatMap_nil, List.flatMap_cons, hbytes]
      exact List.nil_lt_cons _ _
  | @rel c cs d ds hlt =>
      rw [List.flatMap_cons, List.flatMap_cons]
      exact utf8EncodeChar_append_lt hlt _ _
  | @cons c cs ds _ ih =>
      rw [List.flatMap_cons, List.flatMap_cons]
      exact List.append_left_lt ih

/-- The order of texts is that of their bytes. -/
theorem utf8Bytes_lt_iff {a b : String} : utf8Bytes a < utf8Bytes b ↔ a < b := by
  refine ⟨fun h => Decidable.byContradiction fun hnot => ?_, utf8Bytes_lt_of_lt⟩
  by_cases hgt : b < a
  · exact List.lt_asymm h (utf8Bytes_lt_of_lt hgt)
  · rw [KeyMap.eq_of_not_lt hnot hgt] at h
    exact List.lt_irrefl _ h

end Client
end ConnPool
