import EnvTemplate.Text.Utf8
import Mathlib.Data.List.Basic
/-! Decoding reads an encoded text character by character: the first byte of an encoding tells how
many follow, and its bounds on the second byte allow what the encoding writes there. -/
namespace EnvTemplate.Utf8

theorem toNat_ofNat {n : Nat} (byte : n < 256) : (UInt8.ofNat n).toNat = n :=
  UInt8.toNat_ofNat_of_lt' byte

/-! ### First bytes -/

theorem start_one {n : Nat} (most : n < 0x80) : start (.ofNat n) = .inl (some (.ofNat n)) := by
  have value : (UInt8.ofNat n).toNat = n := toNat_ofNat (by omega)
  simp only [start, UInt8.lt_iff_toNat_lt, value, UInt8.reduceToNat]
  rw [if_pos most]

theorem start_two {n : Nat} (least : 0x80 ≤ n) (most : n < 0x800) :
    start (.ofNat (0xC0 + n / 64)) = .inr ⟨n / 64, 0, 0x80, 0xBF⟩ := by
  have value : (UInt8.ofNat (0xC0 + n / 64)).toNat = 0xC0 + n / 64 := toNat_ofNat (by omega)
  simp only [start, UInt8.lt_iff_toNat_lt, value, UInt8.reduceToNat]
  rw [if_neg (by omega), if_neg (by omega), if_pos (by omega), Nat.add_sub_cancel_left]

theorem start_three {n : Nat} (least : 0x800 ≤ n) (most : n < 0x10000)
    (scalar : n < 0xD800 ∨ 0xDFFF < n) :
    ∃ lower upper, start (.ofNat (0xE0 + n / 4096)) = .inr ⟨n / 4096, 1, lower, upper⟩ ∧
      lower.toNat ≤ 0x80 + n / 64 % 64 ∧ 0x80 + n / 64 % 64 ≤ upper.toNat := by
  have value : (UInt8.ofNat (0xE0 + n / 4096)).toNat = 0xE0 + n / 4096 := toNat_ofNat (by omega)
  simp only [start, UInt8.lt_iff_toNat_lt, ← UInt8.toNat_inj, value, UInt8.reduceToNat]
  rw [if_neg (by omega), if_neg (by omega), if_neg (by omega), if_pos (by omega),
    Nat.add_sub_cancel_left]
  refine ⟨_, _, rfl, ?_, ?_⟩
  · split
    · simp only [UInt8.reduceToNat]
      omega
    · simp
  · split
    · simp only [UInt8.reduceToNat]
      omega
    · simp only [UInt8.reduceToNat]
      omega

theorem start_four {n : Nat} (least : 0x10000 ≤ n) (most : n < 0x110000) :
    ∃ lower upper, start (.ofNat (0xF0 + n / 262144)) = .inr ⟨n / 262144, 2, lower, upper⟩ ∧
      lower.toNat ≤ 0x80 + n / 4096 % 64 ∧ 0x80 + n / 4096 % 64 ≤ upper.toNat := by
  have value : (UInt8.ofNat (0xF0 + n / 262144)).toNat = 0xF0 + n / 262144 := toNat_ofNat (by omega)
  simp only [start, UInt8.lt_iff_toNat_lt, ← UInt8.toNat_inj, value, UInt8.reduceToNat]
  rw [if_neg (by omega), if_neg (by omega), if_neg (by omega), if_neg (by omega), if_pos (by omega),
    Nat.add_sub_cancel_left]
  refine ⟨_, _, rfl, ?_, ?_⟩
  · split
    · simp only [UInt8.reduceToNat]
      omega
    · simp
  · split
    · simp only [UInt8.reduceToNat]
      omega
    · simp only [UInt8.reduceToNat]
      omega

/-! ### The bytes that follow -/

theorem partsFrom_start {b : UInt8} {p : Pending} (begun : start b = .inr p) (rest : List UInt8) :
    partsFrom none (b :: rest) = partsFrom (some p) rest := by
  rw [partsFrom, begun]

section
variable {value missing bits : Nat} {lower upper : UInt8}

theorem partsFrom_next (small : bits < 64) (least : lower.toNat ≤ 0x80 + bits)
    (most : 0x80 + bits ≤ upper.toNat) (rest : List UInt8) :
    partsFrom (some ⟨value, missing + 1, lower, upper⟩) (.ofNat (0x80 + bits) :: rest) =
      partsFrom (some ⟨value * 64 + bits, missing, 0x80, 0xBF⟩) rest := by
  have byte : (UInt8.ofNat (0x80 + bits)).toNat = 0x80 + bits := toNat_ofNat (by omega)
  have within : lower ≤ .ofNat (0x80 + bits) ∧ .ofNat (0x80 + bits) ≤ upper := by
    rw [UInt8.le_iff_toNat_le, UInt8.le_iff_toNat_le, byte]
    exact ⟨least, most⟩
  rw [partsFrom, if_pos within]
  simp only [Pending.next, byte, Nat.add_sub_cancel_left]

theorem partsFrom_last (small : bits < 64) (least : lower.toNat ≤ 0x80 + bits)
    (most : 0x80 + bits ≤ upper.toNat) (rest : List UInt8) :
    partsFrom (some ⟨value, 0, lower, upper⟩) (.ofNat (0x80 + bits) :: rest) =
      some (.ofNat (value * 64 + bits)) :: partsFrom none rest := by
  have byte : (UInt8.ofNat (0x80 + bits)).toNat = 0x80 + bits := toNat_ofNat (by omega)
  have within : lower ≤ .ofNat (0x80 + bits) ∧ .ofNat (0x80 + bits) ≤ upper := by
    rw [UInt8.le_iff_toNat_le, UInt8.le_iff_toNat_le, byte]
    exact ⟨least, most⟩
  rw [partsFrom, if_pos within]
  simp only [Pending.next, byte, Nat.add_sub_cancel_left]

end

/-! ### Encoded texts -/

theorem encode_cons (c : Char) (text : List Char) :
    encode (c :: text) = encodeChar c ++ encode text := rfl

theorem encodeChar_of_ascii {c : Char} (low : c.toNat < 0x80) : encodeChar c = [.ofNat c.toNat] :=
  if_pos low

/-- The bytes of a character beyond ASCII are beyond ASCII. -/
theorem le_of_mem_encodeChar {c : Char} (high : 0x80 ≤ c.toNat) :
    ∀ b ∈ encodeChar c, 0x80 ≤ b.toNat := by
  have scalar : c.toNat < 0xD800 ∨ 0xDFFF < c.toNat ∧ c.toNat < 0x110000 := c.valid
  have next : ∀ n {tail : List UInt8}, 0x80 ≤ n ∧ n < 0x100 → (∀ b ∈ tail, 0x80 ≤ b.toNat) →
      ∀ b ∈ .ofNat n :: tail, 0x80 ≤ b.toNat := by
    intro n tail range rest
    refine List.forall_mem_cons.mpr ⟨?_, rest⟩
    rw [toNat_ofNat range.2]
    exact range.1
  have ended := List.forall_mem_nil (0x80 ≤ UInt8.toNat ·)
  rw [encodeChar, if_neg (Nat.not_lt.mpr high)]
  split
  · exact next _ (by omega) (next _ (by omega) ended)
  split
  · exact next _ (by omega) (next _ (by omega) (next _ (by omega) ended))
  · exact next _ (by omega) (next _ (by omega) (next _ (by omega) (next _ (by omega) ended)))

theorem encode_append (front rest : List Char) :
    encode (front ++ rest) = encode front ++ encode rest :=
  List.flatMap_append

theorem scalar_toNat (c : Char) : c.toNat < 0xD800 ∨ 0xDFFF < c.toNat ∧ c.toNat < 0x110000 :=
  c.valid

/-- An encoded character is read as this character, whatever follows it. -/
theorem partsFrom_encodeChar_append (c : Char) (rest : List UInt8) :
    partsFrom none (encodeChar c ++ rest) = some c :: partsFrom none rest := by
  obtain ⟨n, point⟩ : ∃ n, c.toNat = n := ⟨_, rfl⟩
  have same : Char.ofNat n = c := point ▸ Char.ofNat_toNat c
  have scalar := scalar_toNat c
  rw [point] at scalar
  simp only [encodeChar, point]
  by_cases one : n < 0x80
  · rw [if_pos one, List.singleton_append, partsFrom, start_one one, same]
  rw [if_neg one]
  by_cases two : n < 0x800
  · have whole : n / 64 * 64 + n % 64 = n := by omega
    rw [if_pos two, List.cons_append, List.singleton_append,
      partsFrom_start (start_two (by omega) two),
      partsFrom_last (by omega) (by simp) (by simp only [UInt8.reduceToNat]; omega), whole, same]
  rw [if_neg two]
  by_cases three : n < 0x10000
  · obtain ⟨lower, upper, begun, least, most⟩ := start_three (by omega) three (by omega)
    have whole : (n / 4096 * 64 + n / 64 % 64) * 64 + n % 64 = n := by omega
    rw [if_pos three, List.cons_append, List.cons_append, List.singleton_append,
      partsFrom_start begun, partsFrom_next (by omega) least most,
      partsFrom_last (by omega) (by simp) (by simp only [UInt8.reduceToNat]; omega), whole, same]
  · obtain ⟨lower, upper, begun, least, most⟩ := start_four (n := n) (by omega) (by omega)
    have whole : ((n / 262144 * 64 + n / 4096 % 64) * 64 + n / 64 % 64) * 64 + n % 64 = n := by omega
    rw [if_neg three, List.cons_append, List.cons_append, List.cons_append, List.singleton_append,
      partsFrom_start begun, partsFrom_next (by omega) least most,
      partsFrom_next (by omega) (by simp) (by simp only [UInt8.reduceToNat]; omega),
      partsFrom_last (by omega) (by simp) (by simp only [UInt8.reduceToNat]; omega), whole, same]

theorem partsFrom_encode (text : List Char) : partsFrom none (encode text) = text.map some := by
  induction text with
  | nil => rfl
  | cons c text ih =>
    have front := partsFrom_encodeChar_append c (encode text)
    rw [ih] at front
    exact front

/-- Lossy decoding loses nothing of an encoded text. -/
theorem decodeLossy_encode (text : List Char) : decodeLossy (encode text) = text := by
  rw [decodeLossy, parts, partsFrom_encode, List.map_map]
  exact List.map_id text

end EnvTemplate.Utf8
