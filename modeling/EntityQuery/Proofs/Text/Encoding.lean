import Mathlib
import EntityQuery.Proofs.Text.Bytes
/-!
# ASCII in the UTF-8 form

A byte below 128 is a character of its own, and every other character is made of bytes from 128 on.
What a reader of bytes decides by ASCII bytes, a reader of characters decides alike, and such bytes
stand between character boundaries.

Results:
* `encode_takeWhile`: a run of an ASCII class is the same in characters and in bytes.
* `isBoundary_of_ascii`: both sides of an ASCII byte are boundaries.
-/
namespace EntityQuery

/-- The bytes of a string. -/
def utf8 (s : String) : List UInt8 := s.toByteArray.data.toList

theorem utf8_injective : Function.Injective utf8 := fun _ _ h =>
  String.toByteArray_inj.mp (ByteArray.ext (Array.toList_inj.mp h))

namespace Text

/-- The bytes of characters. -/
def encode (cs : List Char) : List UInt8 := cs.flatMap String.utf8EncodeChar

@[simp] theorem encode_nil : encode [] = [] := rfl

@[simp] theorem encode_cons (c : Char) (cs : List Char) :
    encode (c :: cs) = String.utf8EncodeChar c ++ encode cs := rfl

theorem encode_append (cs ds : List Char) : encode (cs ++ ds) = encode cs ++ encode ds :=
  List.flatMap_append

theorem length_encode (cs : List Char) : (encode cs).length = byteLength cs := by
  induction cs with
  | nil => rfl
  | cons c cs ih => simp [ih]

theorem utf8_eq (s : String) : utf8 s = encode s.toList := by
  rw [utf8, ← String.utf8Encode_toList, List.utf8Encode, List.data_toByteArray]
  rfl

theorem utf8_ofList (cs : List Char) : utf8 (String.ofList cs) = encode cs := by
  rw [utf8_eq, String.toList_ofList]

/-! ## One character -/

theorem encodeChar_of_ascii {c : Char} (h : c.toNat < 128) :
    String.utf8EncodeChar c = [UInt8.ofNat c.toNat] := by
  have hle : c.val.toNat ≤ 127 := Nat.le_of_lt_succ h
  rw [String.utf8EncodeChar, if_pos hle]
  rfl

/-- An ASCII character is read off the bytes as one byte. -/
theorem append_encode {c : Char} {b : UInt8} (hb : String.utf8EncodeChar c = [b])
    (before : List UInt8) (cs : List Char) :
    before ++ encode (c :: cs) = before ++ [b] ++ encode cs := by
  rw [encode_cons, hb, List.append_assoc]

theorem le_of_mem_encodeChar {c : Char} (h : 128 ≤ c.toNat) {b : UInt8}
    (hb : b ∈ String.utf8EncodeChar c) : 128 ≤ b.toNat := by
  have hlt : ¬ c.val.toNat ≤ 127 := Nat.not_le.mpr h
  have high : ∀ n, 128 ≤ n → n < 256 → 128 ≤ (UInt8.ofNat n).toNat := fun n hn hn' => by
    rwa [UInt8.toNat_ofNat', Nat.mod_eq_of_lt hn']
  rw [String.utf8EncodeChar, if_neg hlt] at hb
  split at hb
  · simp only [List.mem_cons, List.not_mem_nil, or_false] at hb
    rcases hb with rfl | rfl <;> exact high _ (by omega) (by omega)
  split at hb
  · simp only [List.mem_cons, List.not_mem_nil, or_false] at hb
    rcases hb with rfl | rfl | rfl <;> exact high _ (by omega) (by omega)
  · simp only [List.mem_cons, List.not_mem_nil, or_false] at hb
    rcases hb with rfl | rfl | rfl | rfl <;> exact high _ (by omega) (by omega)

/-- An ASCII byte is a character. -/
theorem eq_of_mem_encodeChar {c : Char} {b : UInt8} (hb : b ∈ String.utf8EncodeChar c)
    (hlt : b.toNat < 128) : c = Char.ofNat b.toNat := by
  have hc : c.toNat < 128 := by
    by_contra hc
    exact absurd hlt (Nat.not_lt.mpr (le_of_mem_encodeChar (Nat.le_of_not_lt hc) hb))
  rw [encodeChar_of_ascii hc, List.mem_singleton] at hb
  rw [hb, UInt8.toNat_ofNat', Nat.mod_eq_of_lt (by omega), Char.ofNat_toNat]

/-- The characters in `q` and the bytes in `p` are the same ASCII characters. -/
structure AsciiClass (q : Char → Bool) (p : UInt8 → Bool) : Prop where
  same : ∀ n < 128, p (UInt8.ofNat n) = q (Char.ofNat n)
  char : ∀ c, q c = true → c.toNat < 128
  byte : ∀ b, p b = true → b.toNat < 128

namespace AsciiClass

/-- One character. -/
theorem single {c : Char} (hc : c.toNat < 128) :
    AsciiClass (· == c) (· == UInt8.ofNat c.toNat) where
  same n hn := by
    have hbyte : UInt8.ofNat n = UInt8.ofNat c.toNat ↔ n = c.toNat := by
      rw [← UInt8.toNat_inj, UInt8.toNat_ofNat', UInt8.toNat_ofNat', Nat.mod_eq_of_lt (by omega),
        Nat.mod_eq_of_lt (by omega)]
    have hvalid : n.isValidChar := .inl (by omega)
    have hchar : Char.ofNat n = c ↔ n = c.toNat := by
      rw [← Char.toNat_inj, Char.toNat_ofNat, if_pos hvalid]
    rw [Bool.eq_iff_iff, beq_iff_eq, beq_iff_eq]
    exact hbyte.trans hchar.symm
  char d hd := eq_of_beq hd ▸ hc
  byte b hb := by
    rw [eq_of_beq hb, UInt8.toNat_ofNat', Nat.mod_eq_of_lt (by omega)]
    exact hc

variable {q q' : Char → Bool} {p p' : UInt8 → Bool}

theorem or (h : AsciiClass q p) (h' : AsciiClass q' p') :
    AsciiClass (fun c => q c || q' c) (fun b => p b || p' b) where
  same n hn := by rw [h.same n hn, h'.same n hn]
  char c hc := (Bool.or_eq_true _ _ ▸ hc).elim (h.char c) (h'.char c)
  byte b hb := (Bool.or_eq_true _ _ ▸ hb).elim (h.byte b) (h'.byte b)

variable (h : AsciiClass q p)
include h

/-- The first byte of a character tells whether it is in the class; then it is the only one. -/
theorem exists_byte (c : Char) : ∃ b bs, String.utf8EncodeChar c = b :: bs ∧ p b = q c ∧
    (q c = true → bs = []) := by
  by_cases hc : c.toNat < 128
  · refine ⟨_, _, encodeChar_of_ascii hc, ?_, fun _ => rfl⟩
    rw [h.same _ hc, Char.ofNat_toNat]
  · obtain ⟨b, bs, hbs⟩ := List.exists_cons_of_ne_nil (String.utf8EncodeChar_ne_nil (c := c))
    have hb : 128 ≤ b.toNat := le_of_mem_encodeChar (Nat.le_of_not_lt hc) (by simp [hbs])
    have hq : q c = false := Bool.eq_false_iff.mpr fun hq => hc (h.char c hq)
    have hp : p b = false := Bool.eq_false_iff.mpr fun hp => Nat.not_lt.mpr hb (h.byte b hp)
    exact ⟨b, bs, hbs, hp.trans hq.symm, fun h => absurd (hq.symm.trans h) Bool.false_ne_true⟩

/-- A run of the class is the same in characters and in bytes. -/
theorem encode_takeWhile (cs : List Char) : (encode cs).takeWhile p = encode (cs.takeWhile q) := by
  induction cs with
  | nil => rfl
  | cons c cs ih =>
    obtain ⟨b, bs, hbs, hb, hone⟩ := h.exists_byte c
    rw [encode_cons, hbs, List.cons_append, List.takeWhile_cons, List.takeWhile_cons, hb]
    cases hq : q c with
    | false => rfl
    | true => simp [hbs, hone hq, ih]

theorem encode_head (cs : List Char) : (encode cs).head?.any p = cs.head?.any q := by
  cases cs with
  | nil => rfl
  | cons c cs =>
    obtain ⟨b, bs, hbs, hb, -⟩ := h.exists_byte c
    simp [hbs, hb]

end AsciiClass

/-! ## Boundaries -/

theorem isBoundary_of_ascii {cs : List Char} {k : Nat} {b : UInt8}
    (hk : (encode cs)[k]? = some b) (hb : b.toNat < 128) :
    isBoundary cs k = true ∧ isBoundary cs (k + 1) = true := by
  induction cs generalizing k with
  | nil => simp at hk
  | cons c cs ih =>
    have hlen : (String.utf8EncodeChar c).length = c.utf8Size := String.length_utf8EncodeChar c
    rw [encode_cons] at hk
    by_cases hlt : k < c.utf8Size
    · -- an ASCII byte of the first character is all of it
      rw [List.getElem?_append_left (by omega)] at hk
      have hc : c.toNat < 128 := by
        by_contra hc
        have hle := le_of_mem_encodeChar (Nat.le_of_not_lt hc) (List.mem_of_getElem? hk)
        omega
      have hone : c.utf8Size = 1 := by rw [← hlen, encodeChar_of_ascii hc]; rfl
      obtain rfl : k = 0 := by omega
      simp [isBoundary, hone]
    · rw [List.getElem?_append_right (by omega), hlen] at hk
      obtain ⟨h0, h1⟩ := ih hk
      have hpos := c.utf8Size_pos
      obtain ⟨k, rfl⟩ : ∃ k', k = k' + 1 := ⟨k - 1, by omega⟩
      have hshift : k + 1 + 1 - c.utf8Size = k + 1 - c.utf8Size + 1 := by omega
      simp only [isBoundary, Bool.and_eq_true, decide_eq_true_eq]
      exact ⟨⟨by omega, h0⟩, by omega, hshift ▸ h1⟩

end Text

end EntityQuery
