import Mathlib.Data.String.Basic

/-!
# The order of texts by their bytes

Texts are compared character by character.  Compared byte by byte in UTF-8 they are in the
same order (`bytes_lt_iff`): a longer encoding starts with a greater byte, and of two that are
equally long the bytes give the digits of the character, the most significant first.
-/

namespace SceneAudit.Text

/-! ## The bytes of a character -/

theorem byte_lt_iff {m n : Nat} (hm : m < 256) (hn : n < 256) :
    UInt8.ofNat m < UInt8.ofNat n ↔ m < n := by
  rw [UInt8.lt_iff_toNat_lt, UInt8.toNat_ofNat_of_lt' hm, UInt8.toNat_ofNat_of_lt' hn]

theorem byte_eq_iff {m n : Nat} (hm : m < 256) (hn : n < 256) :
    UInt8.ofNat m = UInt8.ofNat n ↔ m = n := by
  rw [← UInt8.toNat_inj, UInt8.toNat_ofNat_of_lt' hm, UInt8.toNat_ofNat_of_lt' hn]

/-- The bytes of the smaller character decide, whatever follows. -/
theorem utf8EncodeChar_append_lt {c d : Char} (h : c < d) (after later : List UInt8) :
    String.utf8EncodeChar c ++ after < String.utf8EncodeChar d ++ later := by
  have hlt : c.val.toNat < d.val.toNat := h
  have hvalid : d.val.toNat < 0x110000 := by
    rcases d.valid with hlow | ⟨-, hhigh⟩ <;> omega
  unfold String.utf8EncodeChar
  generalize c.val.toNat = m at hlt
  generalize d.val.toNat = n at hlt hvalid
  -- the digits of the character to the base 64, one taken off after the other
  have hdigits : ∀ k : Nat, k / 4096 = k / 64 / 64 ∧ k / 262144 = k / 64 / 64 / 64 := by omega
  simp only [(hdigits _).1, (hdigits _).2]
  split_ifs <;>
    simp (disch := omega) only [List.cons_append, List.nil_append, List.cons_lt_cons_iff,
      byte_lt_iff, byte_eq_iff] <;>
    omega

/-! ## The bytes of a text -/

/-- The UTF-8 form of a text. -/
def bytes (text : String) : List UInt8 :=
  text.toUTF8.data.toList

theorem bytes_eq (text : String) : bytes text = text.toList.flatMap String.utf8EncodeChar := by
  conv_lhs => rw [← String.ofList_toList (s := text)]
  rw [bytes, String.toUTF8_eq_toByteArray, String.toByteArray_ofList]
  exact List.toList_data_toByteArray

theorem bytes_inj {first second : String} : bytes first = bytes second ↔ first = second := by
  constructor
  · intro h
    rw [← String.toByteArray_inj]
    exact ByteArray.ext (Array.toList_inj.mp h)
  · intro h
    rw [h]

theorem flatMap_utf8EncodeChar_lt {cs ds : List Char} (h : cs < ds) :
    cs.flatMap String.utf8EncodeChar < ds.flatMap String.utf8EncodeChar := by
  induction cs generalizing ds with
  | nil =>
      cases ds with
      | nil => exact absurd h (List.not_lt_nil _)
      | cons d ds =>
          obtain ⟨byte, bytes, hbytes⟩ :=
            List.exists_cons_of_ne_nil (String.utf8EncodeChar_ne_nil (c := d))
          rw [List.flatMap_nil, List.flatMap_cons, hbytes]
          exact List.nil_lt_cons _ _
  | cons c cs ih =>
      cases ds with
      | nil => exact absurd h (List.not_lt_nil _)
      | cons d ds =>
          rw [List.flatMap_cons, List.flatMap_cons]
          rcases List.cons_lt_cons_iff.mp h with hlt | ⟨rfl, hlt⟩
          · exact utf8EncodeChar_append_lt hlt _ _
          · exact List.append_left_lt (ih hlt)

theorem bytes_lt {first second : String} (h : first < second) : bytes first < bytes second := by
  rw [bytes_eq, bytes_eq]
  exact flatMap_utf8EncodeChar_lt (String.lt_iff_toList_lt.mp h)

/-- **Texts are in the order of their bytes.** -/
theorem bytes_lt_iff {first second : String} : bytes first < bytes second ↔ first < second := by
  constructor
  · intro h
    rcases lt_trichotomy first second with hlt | rfl | hgt
    · exact hlt
    · exact absurd h (List.lt_irrefl _)
    · exact absurd h (List.lt_asymm (bytes_lt hgt))
  · exact bytes_lt

theorem compare_eq_lt_iff_bytes_lt {first second : String} :
    compare first second = .lt ↔ bytes first < bytes second := by
  rw [bytes_lt_iff]
  exact compare_lt_iff_lt

end SceneAudit.Text
