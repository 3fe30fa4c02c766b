import EnvTemplate.Codec.Base64
import EnvTemplate.Proofs.Text.Decoding
import EnvTemplate.Proofs.World.Prefixing
import Mathlib.Data.List.DropRight
/-! Base64 payloads against the bytes that they encode. A group of symbols is decoded exactly if it is
the one that the encoding gives, zero bits at the end included. So a payload is decoded exactly if it
is the encoding up to alphabets and padding, and there is one for every byte string. -/
namespace EnvTemplate.Base64

/-- The padding signs that fill up the last group of a payload. -/
def missing (bytes : List UInt8) : Nat :=
  (3 - bytes.length % 3) % 3

def spellings (symbol : Char) : List Char :=
  if symbol = '+' then ['+', '-'] else if symbol = '/' then ['/', '_'] else [symbol]

/-- Whether a payload encodes bytes, in either alphabet for each symbol, with all of the padding or
without it. -/
def Spells (payload : List Char) (bytes : List UInt8) : Prop :=
  ∃ symbols, List.Forall₂ (fun s c => c ∈ spellings s) (encode bytes) symbols ∧
    (payload = symbols ∨ payload = symbols ++ List.replicate (missing bytes) '=')

/-- The characters of payloads: both alphabets and the padding sign. -/
def IsSymbol (c : Char) : Prop :=
  ('A' ≤ c ∧ c ≤ 'Z') ∨ ('a' ≤ c ∧ c ≤ 'z') ∨ ('0' ≤ c ∧ c ≤ '9') ∨ c ∈ ['+', '/', '=', '-', '_']

instance (c : Char) : Decidable (IsSymbol c) :=
  inferInstanceAs (Decidable (_ ∨ _))

/-! ### Symbols -/

theorem value?_symbol : ∀ n < 64, value? (symbol n) = some n := by
  decide

theorem le_iff_toNat_le {a b : Char} : a ≤ b ↔ a.toNat ≤ b.toNat :=
  UInt32.le_iff_toNat_le

theorem isDigit_iff {c : Char} : c.isDigit = true ↔ '0' ≤ c ∧ c ≤ '9' := by
  simp [Char.isDigit, Char.le_def]

/-- A character lies as far behind the first one of its range as its number says. -/
theorem ofNat_of_offset {c low : Char} {n offset : Nat} (least : low ≤ c)
    (value : c.toNat - low.toNat + offset = n) : c = .ofNat (low.toNat + (n - offset)) := by
  have least := le_iff_toNat_le.mp least
  have same : low.toNat + (n - offset) = c.toNat := by omega
  rw [same, Char.ofNat_toNat]

theorem symbol_of_value? {c : Char} {n : Nat} (read : value? c = some n) : n < 64 ∧ c = symbol n := by
  have size : 'A'.toNat = 65 ∧ 'Z'.toNat = 90 ∧ 'a'.toNat = 97 ∧ 'z'.toNat = 122 ∧
      '0'.toNat = 48 ∧ '9'.toNat = 57 := by decide
  simp only [value?, isDigit_iff] at read
  split at read
  · rename_i upper
    have value := Option.some.inj read
    have most := le_iff_toNat_le.mp upper.2
    have place : n < 26 := by omega
    have shape : symbol n = .ofNat ('A'.toNat + (n - 0)) := by
      rw [symbol, if_pos place, Nat.sub_zero]
    exact ⟨by omega, (ofNat_of_offset upper.1 value).trans shape.symm⟩
  split at read
  · rename_i lower
    have value := Option.some.inj read
    have most := le_iff_toNat_le.mp lower.2
    have place : ¬ n < 26 ∧ n < 52 := by omega
    have shape : symbol n = .ofNat ('a'.toNat + (n - 26)) := by
      rw [symbol, if_neg place.1, if_pos place.2]
    exact ⟨by omega, (ofNat_of_offset lower.1 value).trans shape.symm⟩
  split at read
  · rename_i digit
    have value := Option.some.inj read
    have most := le_iff_toNat_le.mp digit.2
    have place : ¬ n < 26 ∧ ¬ n < 52 ∧ n < 62 := by omega
    have shape : symbol n = .ofNat ('0'.toNat + (n - 52)) := by
      rw [symbol, if_neg place.1, if_neg place.2.1, if_pos place.2.2]
    exact ⟨by omega, (ofNat_of_offset digit.1 value).trans shape.symm⟩
  split at read
  · rename_i plus
    obtain rfl := Option.some.inj read
    exact ⟨by decide, plus⟩
  split at read
  · rename_i slash
    obtain rfl := Option.some.inj read
    exact ⟨by decide, slash⟩
  · contradiction

theorem value?_eq_some_iff {c : Char} {n : Nat} : value? c = some n ↔ n < 64 ∧ c = symbol n := by
  refine ⟨symbol_of_value?, ?_⟩
  rintro ⟨small, rfl⟩
  exact value?_symbol n small

theorem symbol_ne_padding {n : Nat} (small : n < 64) : symbol n ≠ '=' := by
  intro same
  have read := value?_symbol n small
  rw [same] at read
  contradiction

/-! ### Groups -/

theorem decodeTwo_eq_some_iff {a b : Char} {bytes : List UInt8} :
    decodeTwo a b = some bytes ↔ ∃ x, bytes = [x] ∧ [a, b] = encode [x] := by
  simp only [decodeTwo, Option.bind_eq_bind, Option.bind_eq_some_iff, value?_eq_some_iff]
  constructor
  · rintro ⟨m, ⟨m_small, rfl⟩, n, ⟨n_small, rfl⟩, read⟩
    split at read
    · rename_i zero
      obtain rfl := Option.some.inj read
      have value : (UInt8.ofNat ((m * 64 + n) / 16)).toNat = (m * 64 + n) / 16 :=
        Utf8.toNat_ofNat (by omega)
      have first : (m * 64 + n) / 16 / 4 = m := by omega
      have second : (m * 64 + n) / 16 % 4 * 16 = n := by omega
      exact ⟨_, rfl, by simp only [encode, value, first, second]⟩
    · contradiction
  · rintro ⟨x, rfl, same⟩
    have byte : x.toNat < 256 := x.toNat_lt
    obtain ⟨rfl, rfl⟩ : a = symbol (x.toNat / 4) ∧ b = symbol (x.toNat % 4 * 16) := by
      simpa [encode] using same
    have number : x.toNat / 4 * 64 + x.toNat % 4 * 16 = x.toNat * 16 := by omega
    refine ⟨_, ⟨by omega, rfl⟩, _, ⟨by omega, rfl⟩, ?_⟩
    rw [number, if_pos (Nat.mul_mod_left ..), Nat.mul_div_cancel _ (by decide), UInt8.ofNat_toNat]

theorem decodeThree_eq_some_iff {a b c : Char} {bytes : List UInt8} :
    decodeThree a b c = some bytes ↔ ∃ x y, bytes = [x, y] ∧ [a, b, c] = encode [x, y] := by
  simp only [decodeThree, Option.bind_eq_bind, Option.bind_eq_some_iff, value?_eq_some_iff]
  constructor
  · rintro ⟨m, ⟨m_small, rfl⟩, n, ⟨n_small, rfl⟩, k, ⟨k_small, rfl⟩, read⟩
    split at read
    · rename_i zero
      obtain rfl := Option.some.inj read
      have high : (UInt8.ofNat ((m * 4096 + n * 64 + k) / 1024)).toNat =
          (m * 4096 + n * 64 + k) / 1024 := Utf8.toNat_ofNat (by omega)
      have low : (UInt8.ofNat ((m * 4096 + n * 64 + k) / 4 % 256)).toNat =
          (m * 4096 + n * 64 + k) / 4 % 256 := Utf8.toNat_ofNat (by omega)
      have number : (m * 4096 + n * 64 + k) / 1024 * 256 + (m * 4096 + n * 64 + k) / 4 % 256 =
          (m * 4096 + n * 64 + k) / 4 := by omega
      have first : (m * 4096 + n * 64 + k) / 4 / 1024 = m := by omega
      have second : (m * 4096 + n * 64 + k) / 4 / 16 % 64 = n := by omega
      have third : (m * 4096 + n * 64 + k) / 4 % 16 * 4 = k := by omega
      exact ⟨_, _, rfl, by simp only [encode, high, low, number, first, second, third]⟩
    · contradiction
  · have whole (n : Nat) : n / 1024 * 4096 + n / 16 % 64 * 64 + n % 16 * 4 = n * 4 := by omega
    rintro ⟨x, y, rfl, same⟩
    have bytes : x.toNat < 256 ∧ y.toNat < 256 := ⟨x.toNat_lt, y.toNat_lt⟩
    obtain ⟨n, number⟩ : ∃ n, x.toNat * 256 + y.toNat = n := ⟨_, rfl⟩
    obtain ⟨rfl, rfl, rfl⟩ : a = symbol (n / 1024) ∧ b = symbol (n / 16 % 64) ∧
        c = symbol (n % 16 * 4) := by simpa [encode, number] using same
    have high : n * 4 / 1024 = x.toNat := by omega
    have low : n * 4 / 4 % 256 = y.toNat := by omega
    refine ⟨_, ⟨by omega, rfl⟩, _, ⟨by omega, rfl⟩, _, ⟨by omega, rfl⟩, ?_⟩
    rw [whole, if_pos (Nat.mul_mod_left ..), high, low, UInt8.ofNat_toNat, UInt8.ofNat_toNat]

theorem decodeFour_eq_some_iff {a b c d : Char} {bytes : List UInt8} :
    decodeFour a b c d = some bytes ↔
      ∃ x y z, bytes = [x, y, z] ∧ [a, b, c, d] = encode [x, y, z] := by
  simp only [decodeFour, Option.bind_eq_bind, Option.bind_eq_some_iff, value?_eq_some_iff]
  constructor
  · have whole (n : Nat) : n / 65536 * 65536 + n / 256 % 256 * 256 + n % 256 = n := by omega
    rintro ⟨m, ⟨m_small, rfl⟩, n, ⟨n_small, rfl⟩, k, ⟨k_small, rfl⟩, l, ⟨l_small, rfl⟩, read⟩
    obtain rfl := Option.some.inj read
    obtain ⟨number, value⟩ : ∃ number, m * 262144 + n * 4096 + k * 64 + l = number := ⟨_, rfl⟩
    rw [value]
    have high : (UInt8.ofNat (number / 65536)).toNat = number / 65536 :=
      Utf8.toNat_ofNat (by omega)
    have middle : (UInt8.ofNat (number / 256 % 256)).toNat = number / 256 % 256 :=
      Utf8.toNat_ofNat (by omega)
    have low : (UInt8.ofNat (number % 256)).toNat = number % 256 := Utf8.toNat_ofNat (by omega)
    have first : number / 262144 = m := by omega
    have second : number / 4096 % 64 = n := by omega
    have third : number / 64 % 64 = k := by omega
    have fourth : number % 64 = l := by omega
    exact ⟨_, _, _, rfl,
      by simp only [encode, high, middle, low, whole, first, second, third, fourth]⟩
  · have whole (n : Nat) :
        n / 262144 * 262144 + n / 4096 % 64 * 4096 + n / 64 % 64 * 64 + n % 64 = n := by omega
    rintro ⟨x, y, z, rfl, same⟩
    have bytes : x.toNat < 256 ∧ y.toNat < 256 ∧ z.toNat < 256 :=
      ⟨x.toNat_lt, y.toNat_lt, z.toNat_lt⟩
    obtain ⟨n, number⟩ : ∃ n, x.toNat * 65536 + y.toNat * 256 + z.toNat = n := ⟨_, rfl⟩
    obtain ⟨rfl, rfl, rfl, rfl⟩ : a = symbol (n / 262144) ∧ b = symbol (n / 4096 % 64) ∧
        c = symbol (n / 64 % 64) ∧ d = symbol (n % 64) := by simpa [encode, number] using same
    have high : n / 65536 = x.toNat := by omega
    have middle : n / 256 % 256 = y.toNat := by omega
    have low : n % 256 = z.toNat := by omega
    refine ⟨_, ⟨by omega, rfl⟩, _, ⟨by omega, rfl⟩, _, ⟨by omega, rfl⟩, _, ⟨by omega, rfl⟩, ?_⟩
    rw [whole, high, middle, low, UInt8.ofNat_toNat, UInt8.ofNat_toNat, UInt8.ofNat_toNat]

/-! ### Payloads -/

theorem encode_cons (x y z : UInt8) (bytes : List UInt8) :
    encode (x :: y :: z :: bytes) = encode [x, y, z] ++ encode bytes := rfl

theorem missing_cons (x y z : UInt8) (bytes : List UInt8) :
    missing (x :: y :: z :: bytes) = missing bytes := by
  simp only [missing, List.length_cons]
  omega

/-- The padding may be cut short. -/
theorem decodeGroups_encode (bytes : List UInt8) {padding : Nat} (few : padding ≤ missing bytes) :
    decodeGroups (encode bytes ++ List.replicate padding '=') = some bytes := by
  fun_induction encode bytes with
  | case1 =>
    obtain rfl := Nat.le_zero.mp few
    rfl
  | case2 a =>
    have group := decodeTwo_eq_some_iff.mpr ⟨a, rfl, rfl⟩
    obtain rfl | rfl | rfl : padding = 0 ∨ padding = 1 ∨ padding = 2 := by
      have two : missing [a] = 2 := rfl
      omega
    · exact group
    · exact group
    · exact group
  | case3 a b n =>
    have group := decodeThree_eq_some_iff.mpr ⟨a, b, rfl, rfl⟩
    have third : symbol (n % 16 * 4) ≠ '=' := symbol_ne_padding (by omega)
    obtain rfl | rfl : padding = 0 ∨ padding = 1 := by
      have one : missing [a, b] = 1 := rfl
      omega
    · exact (if_neg third).trans group
    · exact (if_neg third).trans group
  | case4 a b c rest n ih =>
    have group := decodeFour_eq_some_iff.mpr ⟨a, b, c, rfl, rfl⟩
    have fourth : symbol (n % 64) ≠ '=' := symbol_ne_padding (by omega)
    have behind := ih (missing_cons a b c rest ▸ few)
    simp only [List.cons_append]
    cases followed : encode rest ++ List.replicate padding '=' with
    | nil =>
      rw [followed] at behind
      obtain rfl : [] = rest := Option.some.inj behind
      exact (if_neg fourth).trans group
    | cons d tail =>
      rw [followed] at behind
      rw [decodeGroups.eq_6 _ _ _ _ _ (List.cons_ne_nil d tail), group, behind]
      rfl

/-- A payload is decoded exactly if it is the encoding with padding, all of it or less. -/
theorem decodeGroups_eq_some_iff {payload : List Char} {bytes : List UInt8} :
    decodeGroups payload = some bytes ↔
      ∃ padding ≤ missing bytes, payload = encode bytes ++ List.replicate padding '=' := by
  constructor
  · intro read
    fun_induction decodeGroups payload generalizing bytes with
    | case1 =>
      obtain rfl := Option.some.inj read
      exact ⟨0, Nat.zero_le _, rfl⟩
    | case2 => contradiction
    | case3 a b =>
      obtain ⟨x, rfl, shape⟩ := decodeTwo_eq_some_iff.mp read
      exact ⟨0, Nat.zero_le _, by simp [shape]⟩
    | case4 a b =>
      obtain ⟨x, rfl, shape⟩ := decodeTwo_eq_some_iff.mp read
      exact ⟨1, by simp [missing], by rw [← shape]; rfl⟩
    | case5 a b c _ =>
      obtain ⟨x, y, rfl, shape⟩ := decodeThree_eq_some_iff.mp read
      exact ⟨0, Nat.zero_le _, by simp [shape]⟩
    | case6 a b =>
      obtain ⟨x, rfl, shape⟩ := decodeTwo_eq_some_iff.mp read
      exact ⟨2, by simp [missing], by rw [← shape]; rfl⟩
    | case7 a b c _ =>
      obtain ⟨x, y, rfl, shape⟩ := decodeThree_eq_some_iff.mp read
      exact ⟨1, by simp [missing], by rw [← shape]; rfl⟩
    | case8 a b c d _ =>
      obtain ⟨x, y, z, rfl, shape⟩ := decodeFour_eq_some_iff.mp read
      exact ⟨0, Nat.zero_le _, by simp [shape]⟩
    | case9 a b c d rest some ih =>
      obtain ⟨group, first, read⟩ := Option.bind_eq_some_iff.mp read
      obtain ⟨later, behind, read⟩ := Option.bind_eq_some_iff.mp read
      obtain rfl := Option.some.inj read
      obtain ⟨x, y, z, rfl, shape⟩ := decodeFour_eq_some_iff.mp first
      obtain ⟨padding, few, rfl⟩ := ih behind
      refine ⟨padding, few.trans_eq (missing_cons x y z later).symm, ?_⟩
      have whole : encode ([x, y, z] ++ later) = encode [x, y, z] ++ encode later := rfl
      rw [whole, ← shape, List.append_assoc]
      rfl
  · rintro ⟨padding, few, rfl⟩
    exact decodeGroups_encode bytes few

/-! ### Alphabets -/

theorem isSome_value?_iff {c : Char} : (value? c).isSome = true ↔
    ('A' ≤ c ∧ c ≤ 'Z') ∨ ('a' ≤ c ∧ c ≤ 'z') ∨ ('0' ≤ c ∧ c ≤ '9') ∨ c = '+' ∨ c = '/' := by
  simp only [value?, isDigit_iff]
  split_ifs <;> simp_all

theorem isSymbol_iff {c : Char} :
    ((value? (standardize c)).isSome || standardize c == '=') = true ↔ IsSymbol c := by
  rw [Bool.or_eq_true, beq_iff_eq]
  by_cases minus : c = '-'
  · subst minus
    exact iff_of_true (by decide) (by simp [IsSymbol])
  by_cases underscore : c = '_'
  · subst underscore
    exact iff_of_true (by decide) (by simp [IsSymbol])
  have same : standardize c = c := by rw [standardize, if_neg minus, if_neg underscore]
  rw [same, isSome_value?_iff, IsSymbol]
  simp only [List.mem_cons, List.not_mem_nil, minus, underscore, or_false, or_assoc]

theorem standardize_of_mem_spellings :
    ∀ n < 64, ∀ c ∈ spellings (symbol n), standardize c = symbol n := by
  have each : ∀ n < 64, (spellings (symbol n)).all (standardize · == symbol n) = true := by decide
  intro n small c member
  exact eq_of_beq (List.all_eq_true.mp (each n small) c member)

theorem exists_of_mem_encode {bytes : List UInt8} {c : Char} (member : c ∈ encode bytes) :
    ∃ n < 64, c = symbol n := by
  fun_induction encode bytes with
  | case1 => contradiction
  | case2 a =>
    have byte : a.toNat < 256 := a.toNat_lt
    obtain rfl | rfl : c = _ ∨ c = _ := by simpa using member
    · exact ⟨_, by omega, rfl⟩
    · exact ⟨_, by omega, rfl⟩
  | case3 a b =>
    have bytes : a.toNat < 256 ∧ b.toNat < 256 := ⟨a.toNat_lt, b.toNat_lt⟩
    obtain rfl | rfl | rfl : c = _ ∨ c = _ ∨ c = _ := by simpa using member
    · exact ⟨_, by omega, rfl⟩
    · exact ⟨_, by omega, rfl⟩
    · exact ⟨_, by omega, rfl⟩
  | case4 a b c rest n ih =>
    have bytes : a.toNat < 256 ∧ b.toNat < 256 ∧ c.toNat < 256 :=
      ⟨a.toNat_lt, b.toNat_lt, c.toNat_lt⟩
    simp only [List.mem_cons] at member
    obtain rfl | rfl | rfl | rfl | later := member
    · exact ⟨_, by omega, rfl⟩
    · exact ⟨_, by omega, rfl⟩
    · exact ⟨_, by omega, rfl⟩
    · exact ⟨_, by omega, rfl⟩
    · exact ih later

/-- The spellings of an encoding differ from it by the alphabet alone. -/
theorem map_standardize_of_forall₂ {symbols front : List Char}
    (encoded : ∀ s ∈ front, ∃ n < 64, s = symbol n)
    (spelled : List.Forall₂ (fun s c => c ∈ spellings s) front symbols) :
    symbols.map standardize = front := by
  induction spelled with
  | nil => rfl
  | cons choice _ ih =>
    obtain ⟨⟨n, small, rfl⟩, behind⟩ := List.forall_mem_cons.mp encoded
    rw [List.map_cons, standardize_of_mem_spellings n small _ choice, ih behind]

theorem Spells.map_standardize {payload : List Char} {bytes : List UInt8}
    (spells : Spells payload bytes) : ∃ padding ≤ missing bytes,
      payload.map standardize = encode bytes ++ List.replicate padding '=' := by
  obtain ⟨symbols, spelled, rfl | rfl⟩ := spells
  · refine ⟨0, Nat.zero_le _, ?_⟩
    simpa using map_standardize_of_forall₂ (fun s => exists_of_mem_encode) spelled
  · refine ⟨missing bytes, Nat.le_refl _, ?_⟩
    have front := map_standardize_of_forall₂ (fun s => exists_of_mem_encode) spelled
    rw [List.map_append, front, List.map_replicate]
    rfl

theorem decode_eq_ok_iff {payload : List Char} {bytes : List UInt8} :
    decode payload = .ok bytes ↔ ∃ padding ≤ missing bytes,
      payload.map standardize = encode bytes ++ List.replicate padding '=' := by
  rw [← decodeGroups_eq_some_iff, decode]
  constructor
  · intro read
    split at read
    · split at read
      · rename_i found
        obtain rfl := Except.ok.inj read
        exact found
      · contradiction
    · contradiction
  · intro read
    have legal : ∀ c ∈ payload.map standardize, ((value? c).isSome || c == '=') = true := by
      obtain ⟨padding, _, whole⟩ := decodeGroups_eq_some_iff.mp read
      intro c member
      rw [whole] at member
      obtain encoded | padded := List.mem_append.mp member
      · obtain ⟨n, small, rfl⟩ := exists_of_mem_encode encoded
        simp [value?_symbol n small]
      · simp [List.eq_of_mem_replicate padded]
    rw [if_pos (List.all_eq_true.mpr legal), read]

theorem decode_eq_charset_iff {payload : List Char} :
    decode payload = .error .charset ↔ ∃ c ∈ payload, ¬ IsSymbol c := by
  have legal : (payload.map standardize).all (fun c => (value? c).isSome || c == '=') = true ↔
      ∀ c ∈ payload, IsSymbol c := by
    simp only [List.all_map, List.all_eq_true, Function.comp_apply, isSymbol_iff]
  rw [decode]
  split
  · rename_i all
    have clean := legal.mp all
    split <;> simpa using clean
  · rename_i foreign
    rw [legal] at foreign
    simpa using foreign

theorem rdropWhile_padding (bytes : List UInt8) (padding : Nat) :
    (encode bytes ++ List.replicate padding '=').rdropWhile (· == '=') = encode bytes := by
  induction padding with
  | zero =>
    rw [List.replicate_zero, List.append_nil, List.rdropWhile_eq_self_iff]
    intro nonempty
    obtain ⟨n, small, last⟩ := exists_of_mem_encode (List.getLast_mem nonempty)
    simpa [last] using symbol_ne_padding small
  | succ padding ih =>
    rw [List.replicate_succ', ← List.append_assoc, List.rdropWhile_concat_pos _ _ _ (by simp), ih]

end EnvTemplate.Base64

namespace EnvTemplate.World

theorem resolve_direct (w : World) {text : String} (whole : ':' ∉ text.toList) :
    w.resolve ("direct:" ++ text) = .ok (.string text) := by
  have parsed := Heap.parse_direct text
  rw [if_neg whole] at parsed
  rw [resolve, resolveBy, parsed]
  rfl

theorem resolve_base64_direct (w : World) {payload : String} {bytes : List UInt8}
    (decoded : Base64.decode payload.toList = .ok bytes) :
    w.resolve ("base64:direct:" ++ payload) = .ok (.ofBytes bytes) := by
  have whole : ':' ∉ payload.toList := by
    intro member
    have refused := Base64.decode_eq_charset_iff.mpr ⟨':', member, by decide⟩
    simp [decoded] at refused
  have several : 2 ≤ (Heap.rawParts ("direct:" ++ payload)).length :=
    Heap.two_le_length_rawParts (by simp)
  have prefixed := w.resolve_append_text (s := ⟨.base64, none⟩) ("direct:" ++ payload)
    (by simp [Step.IsLink, Modifier.arity]) (by simp) fun single => by omega
  have heap : Step.text ⟨.base64, none⟩ ++ ":" ++ ("direct:" ++ payload) =
      "base64:direct:" ++ payload := by
    rw [← String.append_assoc]
    rfl
  rw [heap, w.resolve_direct whole] at prefixed
  rw [prefixed, followedBy]
  simp only [apply, Step.decodeBase64, Step.operand, Value.scalarText?, bind, Except.bind, decoded]
  rfl

/-- Every spelling of an encoding is decoded, also as a value of a heap, which is a text if the bytes
are one. A payload that is decoded is the encoding of its bytes up to alphabets and padding, and only
a foreign character is refused as such. -/
theorem resolve_base64_spelled (payload : List Char) :
    (∀ bytes, Base64.Spells payload bytes → Base64.decode payload = .ok bytes ∧ ∀ w : World,
      (∀ text, bytes = Utf8.encode text →
        w.resolve ("base64:direct:" ++ String.ofList payload) = .ok (.string (String.ofList text))) ∧
      ((∀ text, bytes ≠ Utf8.encode text) →
        w.resolve ("base64:direct:" ++ String.ofList payload) = .ok (.bytes bytes))) ∧
    (∀ bytes, Base64.decode payload = .ok bytes →
      (payload.map Base64.standardize).rdropWhile (· == '=') = Base64.encode bytes) ∧
    (Base64.decode payload = .error .charset ↔ ∃ c ∈ payload, ¬ Base64.IsSymbol c) := by
  refine ⟨fun bytes spells => ?_, fun bytes decoded => ?_, Base64.decode_eq_charset_iff⟩
  · have decoded := Base64.decode_eq_ok_iff.mpr spells.map_standardize
    refine ⟨decoded, fun w => ?_⟩
    have value := @resolve_base64_direct w (String.ofList payload) bytes
      ((congrArg Base64.decode String.toList_ofList).trans decoded)
    rw [value, Value.ofBytes]
    refine ⟨fun text encoded => ?_, fun binary => ?_⟩
    · rw [Utf8.decode?_eq_some_iff.mpr encoded]
    · cases read : Utf8.decode? bytes with
      | none => rfl
      | some text => exact absurd (Utf8.decode?_eq_some_iff.mp read) (binary text)
  · obtain ⟨padding, _, whole⟩ := Base64.decode_eq_ok_iff.mp decoded
    rw [whole, Base64.rdropWhile_padding]

/-- A text in both alphabets without its padding, and bytes that are no text with theirs. -/
theorem resolve_base64_mixed :
    (ofVariables []).resolve "base64:direct:Pj4-Pz8/w7w" = .ok (.string ">>>???ü") ∧
    (ofVariables []).resolve "base64:direct:-/A=" = .ok (.bytes [0xFB, 0xF0]) ∧
    ("-/A=".toList.map Base64.standardize).rdropWhile (· == '=') = Base64.encode [0xFB, 0xF0] := by
  have bare : Base64.Spells "Pj4-Pz8/w7w".toList (Utf8.encode ">>>???ü".toList) :=
    ⟨_, by decide, Or.inl rfl⟩
  have padded : Base64.Spells "-/A=".toList [0xFB, 0xF0] :=
    ⟨"-/A".toList, by decide, Or.inr rfl⟩
  have binary : ∀ text, [0xFB, 0xF0] ≠ Utf8.encode text := by
    intro text same
    have read := Utf8.decode?_eq_some_iff.mpr same
    have none : Utf8.decode? [0xFB, 0xF0] = none := by decide
    rw [none] at read
    contradiction
  obtain ⟨decoded, value⟩ := (resolve_base64_spelled "-/A=".toList).1 _ padded
  exact ⟨(((resolve_base64_spelled "Pj4-Pz8/w7w".toList).1 _ bare).2 _).1 _ rfl,
    (value _).2 binary, (resolve_base64_spelled "-/A=".toList).2.1 _ decoded⟩

end EnvTemplate.World
