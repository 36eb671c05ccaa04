import Mathlib.Data.String.Basic
import Mathlib.Tactic.Common

/-!
# The order of texts is that of their bytes

Texts are compared character by character. Names of entries are bytes, and are compared byte by
byte. In UTF-8 the two agree: the first byte of a character grows with the number of its bytes, and
among characters of as many bytes the digits of the code decide, which are written from the highest
to the lowest.

* `nameBytes_lt_iff` — a text is before another one exactly if its bytes are.
-/

namespace SourceMetrics

/-- The bytes of a name. -/
def nameBytes (name : String) : List UInt8 := name.toUTF8.data.toList

/-- The bytes of a name are those of its characters, one character after the other. -/
theorem nameBytes_eq_flatMap (name : String) :
    nameBytes name = name.toList.flatMap String.utf8EncodeChar := by
  have h : name.toList.utf8Encode = name.toByteArray := String.utf8Encode_toList
  rw [nameBytes, show name.toUTF8 = name.toByteArray from rfl, ← h, List.utf8Encode,
    List.toList_data_toByteArray]

/-! ## Digits -/

/-- Numbers below 256 are compared as bytes. -/
theorem ofNat_lt_ofNat_iff {a b : Nat} (ha : a < 256) (hb : b < 256) :
    UInt8.ofNat a < UInt8.ofNat b ↔ a < b := by
  rw [UInt8.lt_iff_toNat_lt, UInt8.toNat_ofNat', UInt8.toNat_ofNat']
  omega

theorem ofNat_eq_ofNat_iff {a b : Nat} (ha : a < 256) (hb : b < 256) :
    UInt8.ofNat a = UInt8.ofNat b ↔ a = b := by
  rw [← UInt8.toNat_inj, UInt8.toNat_ofNat', UInt8.toNat_ofNat']
  omega

/-- Of two numbers the digits to the base 64 decide, the higher ones first. -/
theorem digit_lt {a b : Nat} (h : a < b) :
    a / 64 < b / 64 ∨ a / 64 = b / 64 ∧ a % 64 < b % 64 := by
  omega

/-- Of two codes the first digit in which they differ decides. -/
theorem digits_lt {a b : Nat} (h : a < b) :
    a / 64 / 64 / 64 < b / 64 / 64 / 64 ∨ a / 64 / 64 / 64 = b / 64 / 64 / 64 ∧
      (a / 64 / 64 % 64 < b / 64 / 64 % 64 ∨ a / 64 / 64 % 64 = b / 64 / 64 % 64 ∧
        (a / 64 % 64 < b / 64 % 64 ∨ a / 64 % 64 = b / 64 % 64 ∧ a % 64 < b % 64)) := by
  rcases digit_lt h with h₁ | ⟨h₁, h₀⟩
  · rcases digit_lt h₁ with h₂ | ⟨h₂, h₁⟩
    · rcases digit_lt h₂ with h₃ | ⟨h₃, h₂⟩
      · exact Or.inl h₃
      · exact Or.inr ⟨h₃, Or.inl h₂⟩
    · rw [h₂]
      exact Or.inr ⟨rfl, Or.inr ⟨rfl, Or.inl h₁⟩⟩
  · rw [h₁]
    exact Or.inr ⟨rfl, Or.inr ⟨rfl, Or.inr ⟨rfl, h₀⟩⟩⟩

/-! ## Characters -/

/-- A character that is before another one is so in bytes, whatever follows. -/
theorem utf8EncodeChar_append_lt {c d : Char} (h : c < d) (x y : List UInt8) :
    String.utf8EncodeChar c ++ x < String.utf8EncodeChar d ++ y := by
  have hlt : c.val.toNat < d.val.toNat := h
  have hd : d.val.toNat < 1114112 := by
    have hvalid := d.valid
    simp only [UInt32.isValidChar, Nat.isValidChar] at hvalid
    omega
  unfold String.utf8EncodeChar
  simp only
  generalize c.val.toNat = a at hlt
  generalize d.val.toNat = b at hlt hd
  -- one case for each pair of lengths; in all but the last the bounds are enough
  split <;> split <;> (try split) <;> (try split) <;> (try split) <;> (try split) <;>
    simp only [List.cons_append, List.nil_append, List.cons_lt_cons_iff] <;>
    simp (disch := omega) only [ofNat_lt_ofNat_iff, ofNat_eq_ofNat_iff] <;> try omega
  -- both have four bytes
  have hdigits := digits_lt hlt
  have hplaces : ∀ n : Nat, n / 4096 = n / 64 / 64 ∧ n / 262144 = n / 64 / 64 / 64 := by omega
  have ha : a / 262144 % 8 = a / 262144 := by omega
  have hb : b / 262144 % 8 = b / 262144 := by omega
  rw [ha, hb]
  simp only [hplaces, Nat.add_lt_add_iff_right, Nat.add_right_cancel_iff]
  tauto

/-! ## Texts -/

/-- Texts are in the order of their bytes. The first character in which they differ decides. -/
theorem flatMap_lt_of_lt {s t : List Char} (h : s < t) :
    s.flatMap String.utf8EncodeChar < t.flatMap String.utf8EncodeChar := by
  induction s generalizing t with
  | nil =>
    cases t with
    | nil => exact absurd h (List.lt_irrefl _)
    | cons d ds =>
      obtain ⟨b, bs, hb⟩ := List.exists_cons_of_ne_nil (String.utf8EncodeChar_ne_nil (c := d))
      rw [List.flatMap_cons, hb]
      exact List.nil_lt_cons _ _
  | cons c cs ih =>
    cases t with
    | nil => exact absurd h (List.not_lt_nil _)
    | cons d ds =>
      rw [List.flatMap_cons, List.flatMap_cons]
      -- the first character in which the texts differ decides, with the bytes of its code
      rcases List.cons_lt_cons_iff.1 h with hlt | ⟨rfl, hrest⟩
      · exact utf8EncodeChar_append_lt hlt _ _
      · exact List.append_left_lt (ih hrest)

theorem nameBytes_lt_of_lt {s t : String} (h : s < t) : nameBytes s < nameBytes t := by
  rw [nameBytes_eq_flatMap, nameBytes_eq_flatMap]
  exact flatMap_lt_of_lt h

/-- A text is before another one exactly if its bytes are. -/
theorem nameBytes_lt_iff {s t : String} : nameBytes s < nameBytes t ↔ s < t := by
  refine ⟨fun h => ?_, nameBytes_lt_of_lt⟩
  rcases lt_trichotomy s t with hlt | rfl | hgt
  · exact hlt
  · exact absurd h (List.lt_irrefl _)
  · exact absurd h (List.lt_asymm (nameBytes_lt_of_lt hgt))

end SourceMetrics
