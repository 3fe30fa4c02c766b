import EnvTemplate.Codec.Form
import EnvTemplate.Proofs.Text.Pattern
import EnvTemplate.Proofs.Text.Utf8
/-! Form encoding. A decoded component is the text that was encoded, and the characters that
separate components and items do not occur in an encoded one, so that the pairs of a form come
back one by one. -/
namespace EnvTemplate.Form

def IsEncoded (c : Char) : Prop :=
  isPlain c = true ∨ c = '+' ∨ c = '%'

theorem toNat_of_isAlphanum {c : Char} (alphanumeric : c.isAlphanum = true) :
    0x30 ≤ c.toNat ∧ c.toNat ≤ 0x7A := by
  delta Char.isAlphanum Char.isAlpha Char.isUpper Char.isLower Char.isDigit at alphanumeric
  simp only [Bool.or_eq_true, Bool.and_eq_true, decide_eq_true_eq, ge_iff_le,
    UInt32.le_iff_toNat_le] at alphanumeric
  change ((65 ≤ c.toNat ∧ c.toNat ≤ 90) ∨ (97 ≤ c.toNat ∧ c.toNat ≤ 122)) ∨
    (48 ≤ c.toNat ∧ c.toNat ≤ 57) at alphanumeric
  omega

theorem toNat_lt_of_isPlain {c : Char} (plain : isPlain c = true) : c.toNat < 0x80 := by
  simp only [isPlain, Bool.or_eq_true, beq_iff_eq] at plain
  obtain (((alphanumeric | rfl) | rfl) | rfl) | rfl := plain
  · exact Nat.lt_of_le_of_lt (toNat_of_isAlphanum alphanumeric).2 (by decide)
  · decide
  · decide
  · decide
  · decide

theorem hexDigit_spec : ∀ n < 16, isPlain (hexDigit n) = true ∧
    hexValue? (.ofNat (hexDigit n).toNat) = some n := by
  decide

theorem isPlain_of_mem_escape {b : UInt8} {c : Char} (member : c ∈ escape b) :
    c = '%' ∨ isPlain c = true := by
  have byte : b.toNat < 256 := b.toNat_lt
  simp only [escape, List.mem_cons, List.not_mem_nil, or_false] at member
  obtain rfl | rfl | rfl := member
  · exact Or.inl rfl
  · exact Or.inr (hexDigit_spec _ (by omega)).1
  · exact Or.inr (hexDigit_spec _ (by omega)).1

theorem isEncoded_of_mem_encode {text : List Char} {c : Char} (member : c ∈ encode text) :
    IsEncoded c := by
  obtain ⟨d, _, member⟩ := List.mem_flatMap.mp member
  rw [encodeChar] at member
  split at member
  · rename_i plain
    exact Or.inl (List.mem_singleton.mp member ▸ plain)
  · split at member
    · exact Or.inr (Or.inl (List.mem_singleton.mp member))
    · obtain ⟨b, _, member⟩ := List.mem_flatMap.mp member
      exact (isPlain_of_mem_escape member).symm.imp_right Or.inr

/-- No other ASCII character occurs in an encoded text. -/
theorem notMem_encode {c : Char} (other : ¬ IsEncoded c) (text : List Char) : c ∉ encode text :=
  fun member => other (isEncoded_of_mem_encode member)

/-! ### One component -/

theorem unescape_cons {b : UInt8} (plain : b ≠ 0x25) (rest : List UInt8) :
    unescape (b :: rest) = b :: unescape rest := by
  rw [unescape]
  rintro _ _ _ rfl
  contradiction

theorem unescape_escaped {a b : UInt8} {m n : Nat} (high : hexValue? a = some m)
    (low : hexValue? b = some n) (rest : List UInt8) :
    unescape (0x25 :: a :: b :: rest) = .ofNat (m * 16 + n) :: unescape rest := by
  rw [unescape, high, low]

theorem unescape_escape (b : UInt8) (rest : List UInt8) :
    unescape (Utf8.encode (escape b) ++ rest) = b :: unescape rest := by
  have byte : b.toNat < 256 := b.toNat_lt
  obtain ⟨plainHigh, high⟩ := hexDigit_spec (b.toNat / 16) (by omega)
  obtain ⟨plainLow, low⟩ := hexDigit_spec (b.toNat % 16) (by omega)
  have shape : Utf8.encode (escape b) =
      [0x25, .ofNat (hexDigit (b.toNat / 16)).toNat, .ofNat (hexDigit (b.toNat % 16)).toNat] := by
    have ascii : Utf8.encodeChar '%' = [0x25] := rfl
    simp [escape, Utf8.encode, ascii, Utf8.encodeChar_of_ascii (toNat_lt_of_isPlain plainHigh),
      Utf8.encodeChar_of_ascii (toNat_lt_of_isPlain plainLow)]
  have whole : b.toNat / 16 * 16 + b.toNat % 16 = b.toNat := by omega
  rw [shape, List.cons_append, List.cons_append, List.cons_append, List.nil_append,
    unescape_escaped high low, whole, UInt8.ofNat_toNat]

/-- A plus sign read as a space. -/
def spaced (text : List Char) : List Char :=
  text.map fun c => if c = '+' then ' ' else c

theorem spaced_append (front rest : List Char) : spaced (front ++ rest) = spaced front ++ spaced rest :=
  List.map_append

/-- No escape holds a plus sign. -/
theorem spaced_escape (b : UInt8) : spaced (escape b) = escape b := by
  refine (List.map_congr_left fun c member => if_neg ?_).trans (List.map_id _)
  rintro rfl
  obtain percent | plain := isPlain_of_mem_escape member
  · contradiction
  · contradiction

theorem unescape_flatMap_escape (bytes rest : List UInt8) :
    unescape (Utf8.encode (spaced (bytes.flatMap escape)) ++ rest) = bytes ++ unescape rest := by
  induction bytes with
  | nil => rfl
  | cons b bytes ih =>
    rw [List.flatMap_cons, spaced_append, spaced_escape, Utf8.encode_append, List.append_assoc,
      unescape_escape, ih, List.cons_append]

theorem unescape_encodeChar (c : Char) (rest : List UInt8) :
    unescape (Utf8.encode (spaced (encodeChar c)) ++ rest) = Utf8.encodeChar c ++ unescape rest := by
  rw [encodeChar]
  split
  · rename_i plain
    have ascii := toNat_lt_of_isPlain plain
    have notPlus : c ≠ '+' := by
      rintro rfl
      contradiction
    have notPercent : UInt8.ofNat c.toNat ≠ 0x25 := by
      intro same
      have value := congrArg UInt8.toNat same
      rw [Utf8.toNat_ofNat (by omega)] at value
      obtain rfl : c = '%' := Char.toNat_inj.mp value
      contradiction
    have shape : Utf8.encode (spaced [c]) = [.ofNat c.toNat] := by
      simp [spaced, Utf8.encode, notPlus, Utf8.encodeChar_of_ascii ascii]
    rw [shape, Utf8.encodeChar_of_ascii ascii, List.singleton_append, unescape_cons notPercent,
      List.singleton_append]
  · split
    · rename_i blank
      subst blank
      exact unescape_cons (by decide) rest
    · exact unescape_flatMap_escape _ rest

theorem unescape_encode (text : List Char) :
    unescape (Utf8.encode (spaced (encode text))) = Utf8.encode text := by
  induction text with
  | nil => rfl
  | cons c text ih =>
    rw [encode, List.flatMap_cons, spaced_append, Utf8.encode_append, unescape_encodeChar]
    exact congrArg (Utf8.encodeChar c ++ ·) ih

/-- Decoding undoes encoding. -/
theorem decode_encode (text : List Char) : decode (encode text) = text := by
  have bytes := unescape_encode text
  rw [decode, unescapeText]
  exact (congrArg Utf8.decodeLossy bytes).trans (Utf8.decodeLossy_encode text)

/-! ### Pairs -/

def encodePair (pair : List Char × List Char) : List Char :=
  encode pair.1 ++ '=' :: encode pair.2

def encodePairs (pairs : List (List Char × List Char)) : List Char :=
  List.intercalate ['&'] (pairs.map encodePair)

theorem decodeItem_encodePair (pair : List Char × List Char) : decodeItem (encodePair pair) = pair := by
  have absent : ∀ c ∈ encode pair.1, (c != '=') = true := by
    intro c member
    have other : c ≠ '=' := by
      rintro rfl
      exact notMem_encode (by simp [IsEncoded, isPlain]) pair.1 member
    simpa using other
  have before : (encodePair pair).takeWhile (· != '=') = encode pair.1 := by
    rw [encodePair, List.takeWhile_append_of_pos absent]
    simp
  have after : ((encodePair pair).dropWhile (· != '=')).drop 1 = encode pair.2 := by
    rw [encodePair, List.dropWhile_append_of_pos absent]
    simp
  rw [decodeItem, before, after, decode_encode, decode_encode]

theorem mem_encodePair {pair : List Char × List Char} {c : Char} (member : c ∈ encodePair pair) :
    IsEncoded c ∨ c = '=' := by
  rw [encodePair, List.mem_append, List.mem_cons] at member
  obtain name | rfl | value := member
  · exact Or.inl (isEncoded_of_mem_encode name)
  · exact Or.inr rfl
  · exact Or.inl (isEncoded_of_mem_encode value)

theorem mem_encodePairs {ps : List (List Char × List Char)} {c : Char}
    (member : c ∈ encodePairs ps) : IsEncoded c ∨ c = '=' ∨ c = '&' := by
  obtain separator | ⟨item, among, inside⟩ := Text.mem_of_mem_intercalate member
  · exact Or.inr (Or.inr (List.mem_singleton.mp separator))
  · obtain ⟨pair, _, rfl⟩ := List.mem_map.mp among
    obtain encoded | same := mem_encodePair inside
    · exact Or.inl encoded
    · exact Or.inr (Or.inl same)

/-- The pairs of an encoded form are those that were encoded, in their order. -/
theorem pairs_encodePairs (ps : List (List Char × List Char)) : pairs (encodePairs ps) = ps := by
  cases ps with
  | nil => rfl
  | cons first rest =>
    have separate : ∀ item ∈ (first :: rest).map encodePair, '&' ∉ item := by
      intro item member found
      obtain ⟨pair, _, rfl⟩ := List.mem_map.mp member
      obtain encoded | same := mem_encodePair found
      · exact absurd encoded (by simp [IsEncoded, isPlain])
      · exact absurd same (by decide)
    have split : (encodePairs (first :: rest)).splitOn '&' = (first :: rest).map encodePair :=
      List.splitOn_intercalate '&' separate (by simp)
    have full : ∀ item ∈ (first :: rest).map encodePair, (!item.isEmpty) = true := by
      intro item member
      obtain ⟨pair, _, rfl⟩ := List.mem_map.mp member
      simp [encodePair]
    rw [pairs, split, List.filter_eq_self.mpr full, List.map_map]
    refine (List.map_congr_left fun pair _ => ?_).trans (List.map_id _)
    exact decodeItem_encodePair pair

end EnvTemplate.Form
