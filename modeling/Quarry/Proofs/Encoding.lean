import Mathlib.Tactic.Common
import Quarry.Text.Lines

/-! The bytes of a text. Decoding is the inverse of encoding, and a small byte is that of one character
only, so that a line feed among the bytes is one in the text. -/

namespace Quarry.Text

variable {text : List Char} {bytes : List UInt8}

def encode (text : List Char) : List UInt8 :=
  text.flatMap String.utf8EncodeChar

theorem utf8Encode_eq (text : List Char) : text.utf8Encode = ⟨(encode text).toArray⟩ :=
  ByteArray.ext List.data_toByteArray

theorem decode?_encode (text : List Char) : decode? (encode text) = some (String.ofList text) := by
  rw [decode?, ← utf8Encode_eq, String.fromUTF8?, dif_pos ByteArray.isValidUTF8_utf8Encode]
  rfl

theorem encode_of_decode? {text : String} (h : decode? bytes = some text) :
    encode text.toList = bytes := by
  unfold decode? String.fromUTF8? at h
  split at h
  · next valid =>
    cases h
    have same : (String.fromUTF8 ⟨bytes.toArray⟩ valid).toList.utf8Encode = ⟨bytes.toArray⟩ :=
      String.utf8Encode_toList
    rw [utf8Encode_eq] at same
    exact List.toArray_inj (ByteArray.mk.inj same)
  · cases h

/-- Only the bytes of ASCII characters are small. -/
theorem toNat_of_mem_utf8EncodeChar {byte : UInt8} {c : Char} (small : byte.toNat < 128)
    (h : byte ∈ String.utf8EncodeChar c) : c.toNat = byte.toNat := by
  have value : ∀ n < 256, byte = UInt8.ofNat n → byte.toNat = n := by
    rintro n bound rfl
    exact UInt8.toNat_ofNat_of_lt' bound
  have large : ∀ n < 256, 128 ≤ n → byte ≠ UInt8.ofNat n := by
    intro n bound le eq
    have := value n bound eq
    omega
  simp only [String.utf8EncodeChar] at h
  split_ifs at h
  · exact (value c.toNat (by change c.val.toNat < 256; omega) (List.mem_singleton.1 h)).symm
  all_goals
    simp only [List.mem_cons, List.not_mem_nil, or_false] at h
    exfalso
  · rcases h with h | h <;> exact large _ (by omega) (by omega) h
  · rcases h with h | h | h <;> exact large _ (by omega) (by omega) h
  · rcases h with h | h | h | h <;> exact large _ (by omega) (by omega) h

theorem notMem_encode {byte : UInt8} (small : byte.toNat < 128)
    (h : ∀ c ∈ text, c.toNat ≠ byte.toNat) : byte ∉ encode text := by
  intro mem
  obtain ⟨c, mem, mem'⟩ := List.mem_flatMap.1 mem
  exact h c mem (toNat_of_mem_utf8EncodeChar small mem')

/-- A text whose bytes are a line is a single line. -/
theorem newline_notMem_of_decode? {text : String} (plain : lineFeed ∉ bytes)
    (h : decode? bytes = some text) : '\n' ∉ text.toList := by
  intro mem
  apply plain
  rw [← encode_of_decode? h, encode, List.mem_flatMap]
  exact ⟨'\n', mem, by decide⟩

end Quarry.Text
