import BlockStorage.Text.Percent
import Mathlib.Logic.Function.Basic

/-!
Percent-encoding can be read back.

A class that takes in the percent sign leaves no doubt: what is decoded after encoding is the text, byte
by byte. Texts are told apart by their bytes, so two texts with one encoding are one text.
-/

namespace BlockStorage.Text.Percent

/-! ### Bytes of a text -/

@[simp] theorem bytes_cons (c : Char) (s : List Char) :
    bytes (c :: s) = String.utf8EncodeChar c ++ bytes s := by
  simp [bytes]

/-- Texts with the same bytes are the same. -/
theorem bytes_injective : Function.Injective bytes := by
  intro s t h
  have hencoded : s.utf8Encode = t.utf8Encode := congrArg List.toByteArray h
  have htexts : String.ofList s = String.ofList t :=
    String.toByteArray_inj.1 (by rw [String.toByteArray_ofList, String.toByteArray_ofList, hencoded])
  exact String.ofList_injective htexts

/-- A class of characters may be left out without a trace in the bytes only if none is there. -/
theorem bytes_filter {keeps : Char → Bool} {s : List Char} :
    bytes (s.filter keeps) = bytes s ↔ ∀ c ∈ s, keeps c = true :=
  ⟨fun h => List.filter_eq_self.1 (bytes_injective h), fun h => by rw [List.filter_eq_self.2 h]⟩

/-! ### Digits -/

theorem hexValue?_hexDigit : ∀ n : Nat, n < 16 → hexValue? (hexDigit n) = some n := by
  decide

theorem decode_encodeByte (b : UInt8) (s : List Char) :
    decode (encodeByte b ++ s) = b :: decode s := by
  have hb : b.toNat < 256 := b.toNat_lt
  have hvalue : 16 * (b.toNat / 16) + b.toNat % 16 = b.toNat := Nat.div_add_mod _ _
  simp only [encodeByte, List.cons_append, List.nil_append, decode,
    hexValue?_hexDigit (b.toNat / 16) (by omega), hexValue?_hexDigit (b.toNat % 16) (by omega),
    hvalue, UInt8.ofNat_toNat]

theorem decode_encodeBytes (l : List UInt8) (s : List Char) :
    decode (l.flatMap encodeByte ++ s) = l ++ decode s := by
  induction l with
  | nil => rfl
  | cons b l ih => rw [List.flatMap_cons, List.append_assoc, decode_encodeByte, ih, List.cons_append]

theorem decode_cons {c : Char} (h : c ≠ '%') (s : List Char) :
    decode (c :: s) = String.utf8EncodeChar c ++ decode s := by
  cases s with
  | nil => simp [decode]
  | cons a s => cases s <;> simp [decode, h]

/-! ### Texts -/

/-- What is decoded after encoding is the text. -/
theorem decode_encode {isEncoded : Char → Bool} (hpercent : isEncoded '%' = true) (s : List Char) :
    decode (encode isEncoded s) = bytes s := by
  induction s with
  | nil => rfl
  | cons c s ih =>
    have hcons : encode isEncoded (c :: s) =
        (if isUnsafe c || isEncoded c then encodeChar c else [c]) ++ encode isEncoded s := by
      simp [encode]
    rw [hcons, bytes_cons, ← ih]
    by_cases hc : (isUnsafe c || isEncoded c) = true
    · rw [if_pos hc, encodeChar, decode_encodeBytes]
    · have hne : c ≠ '%' := by
        rintro rfl
        exact hc (by rw [hpercent, Bool.or_true])
      rw [if_neg hc, List.singleton_append, decode_cons hne]

/-- A character that is encoded, and that no code has in it, is nowhere in an encoded text. -/
theorem not_mem_encode {isEncoded : Char → Bool} {c : Char} (hc : isEncoded c = true)
    (hpercent : c ≠ '%') (hdigit : ∀ n < 16, c ≠ hexDigit n) (s : List Char) :
    c ∉ encode isEncoded s := by
  intro hmem
  obtain ⟨d, -, hd⟩ := List.mem_flatMap.1 hmem
  by_cases henc : (isUnsafe d || isEncoded d) = true
  · rw [if_pos henc] at hd
    obtain ⟨b, -, hb⟩ := List.mem_flatMap.1 hd
    have hlt : b.toNat < 256 := b.toNat_lt
    simp only [encodeByte, List.mem_cons, List.not_mem_nil, or_false] at hb
    rcases hb with hb | hb | hb
    · exact hpercent hb
    · exact hdigit _ (by omega) hb
    · exact hdigit _ (by omega) hb
  · rw [if_neg henc, List.mem_singleton] at hd
    rw [← hd, hc, Bool.or_true] at henc
    exact henc rfl

end BlockStorage.Text.Percent
