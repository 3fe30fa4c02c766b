import EnvTemplate.Proofs.Text.Utf8
/-! Which bytes encode a text. Strict decoding gives a text back exactly if the bytes are its
encoding, and the bytes of a text can be cut wherever a byte is no continuation of a character. -/
namespace EnvTemplate.Utf8

/-! ### Decoded texts -/

/-- What a first byte can say, by the number of bytes of the encoding. -/
inductive First (a : UInt8) : Option Char ⊕ Pending → Prop
  | one : a.toNat < 0x80 → First a (.inl (some (.ofNat a.toNat)))
  | stray : First a (.inl none)
  | two : 0xC2 ≤ a.toNat → a.toNat < 0xE0 → First a (.inr ⟨a.toNat - 0xC0, 0, 0x80, 0xBF⟩)
  | three {lower upper : UInt8} : 0xE0 ≤ a.toNat → a.toNat < 0xF0 →
      (a.toNat = 0xE0 → 0xA0 ≤ lower.toNat) → (a.toNat = 0xED → upper.toNat ≤ 0x9F) →
      0x80 ≤ lower.toNat → upper.toNat ≤ 0xBF →
      First a (.inr ⟨a.toNat - 0xE0, 1, lower, upper⟩)
  | four {lower upper : UInt8} : 0xF0 ≤ a.toNat → a.toNat < 0xF5 →
      (a.toNat = 0xF0 → 0x90 ≤ lower.toNat) → (a.toNat = 0xF4 → upper.toNat ≤ 0x8F) →
      0x80 ≤ lower.toNat → upper.toNat ≤ 0xBF →
      First a (.inr ⟨a.toNat - 0xF0, 2, lower, upper⟩)

theorem first_start (a : UInt8) : First a (start a) := by
  simp only [start, UInt8.lt_iff_toNat_lt, ← UInt8.toNat_inj, UInt8.reduceToNat]
  split
  · rename_i one
    exact .one one
  split
  · exact .stray
  split
  · exact .two (by omega) (by omega)
  split
  · refine .three (by omega) (by omega) ?_ ?_ ?_ ?_
    all_goals split <;> simp_all
  split
  · refine .four (by omega) (by omega) ?_ ?_ ?_ ?_
    all_goals split <;> simp_all
  · exact .stray

theorem toNat_charOfNat {n : Nat} (scalar : n < 0xD800 ∨ 0xDFFF < n ∧ n < 0x110000) :
    (Char.ofNat n).toNat = n := by
  have valid : n.isValidChar := scalar
  rw [Char.ofNat, dif_pos valid]
  rfl

theorem eq_ofNat_of_toNat {a : UInt8} {n : Nat} (same : a.toNat = n) : a = .ofNat n := by
  rw [← same, UInt8.ofNat_toNat]

section
variable {n : Nat}

theorem encodeChar_one (most : n < 0x80) : encodeChar (.ofNat n) = [.ofNat n] := by
  rw [encodeChar, toNat_charOfNat (Or.inl (by omega))]
  exact if_pos most

theorem encodeChar_two (least : 0x80 ≤ n) (most : n < 0x800) :
    encodeChar (.ofNat n) = [.ofNat (0xC0 + n / 64), .ofNat (0x80 + n % 64)] := by
  rw [encodeChar, toNat_charOfNat (Or.inl (by omega))]
  exact (if_neg (by omega)).trans (if_pos most)

theorem encodeChar_three (least : 0x800 ≤ n) (most : n < 0x10000)
    (scalar : n < 0xD800 ∨ 0xDFFF < n) :
    encodeChar (.ofNat n) =
      [.ofNat (0xE0 + n / 4096), .ofNat (0x80 + n / 64 % 64), .ofNat (0x80 + n % 64)] := by
  rw [encodeChar, toNat_charOfNat (scalar.imp_right fun high => ⟨high, by omega⟩)]
  exact (if_neg (by omega)).trans ((if_neg (by omega)).trans (if_pos most))

theorem encodeChar_four (least : 0x10000 ≤ n) (most : n < 0x110000) :
    encodeChar (.ofNat n) =
      [.ofNat (0xF0 + n / 262144), .ofNat (0x80 + n / 4096 % 64), .ofNat (0x80 + n / 64 % 64),
        .ofNat (0x80 + n % 64)] := by
  rw [encodeChar, toNat_charOfNat (Or.inr ⟨by omega, most⟩)]
  exact (if_neg (by omega)).trans ((if_neg (by omega)).trans (if_neg (by omega)))

end

section
variable {value missing : Nat} {lower upper : UInt8} {bytes : List UInt8} {c : Char}
  {later : List (Option Char)}

theorem exists_of_partsFrom_last
    (read : partsFrom (some ⟨value, 0, lower, upper⟩) bytes = some c :: later) :
    ∃ b rest, bytes = b :: rest ∧ lower.toNat ≤ b.toNat ∧ b.toNat ≤ upper.toNat ∧
      c = .ofNat (value * 64 + (b.toNat - 0x80)) ∧ partsFrom none rest = later := by
  cases bytes with
  | nil => simp [partsFrom] at read
  | cons b rest =>
    rw [partsFrom] at read
    split at read
    · rename_i within
      obtain ⟨same, read⟩ := List.cons.inj read
      exact ⟨b, rest, rfl, UInt8.le_iff_toNat_le.mp within.1, UInt8.le_iff_toNat_le.mp within.2,
        (Option.some.inj same).symm, read⟩
    · split at read <;> simp at read

theorem exists_of_partsFrom_next
    (read : partsFrom (some ⟨value, missing + 1, lower, upper⟩) bytes = some c :: later) :
    ∃ b rest, bytes = b :: rest ∧ lower.toNat ≤ b.toNat ∧ b.toNat ≤ upper.toNat ∧
      partsFrom (some ⟨value * 64 + (b.toNat - 0x80), missing, 0x80, 0xBF⟩) rest =
        some c :: later := by
  cases bytes with
  | nil => simp [partsFrom] at read
  | cons b rest =>
    rw [partsFrom] at read
    split at read
    · rename_i within
      exact ⟨b, rest, rfl, UInt8.le_iff_toNat_le.mp within.1, UInt8.le_iff_toNat_le.mp within.2,
        read⟩
    · split at read <;> simp at read

/-- A character that is read stands encoded at the front. -/
theorem exists_of_partsFrom (read : partsFrom none bytes = some c :: later) :
    ∃ rest, bytes = encodeChar c ++ rest ∧ partsFrom none rest = later := by
  cases bytes with
  | nil => simp [partsFrom] at read
  | cons a behind =>
    have first := first_start a
    rw [partsFrom] at read
    generalize start a = said at first read
    cases first with
    | one low =>
      obtain ⟨same, behindRead⟩ := List.cons.inj read
      have byte : a = .ofNat a.toNat := eq_ofNat_of_toNat rfl
      refine ⟨behind, ?_, behindRead⟩
      rw [← Option.some.inj same, encodeChar_one low, ← byte, List.singleton_append]
    | stray => simp at read
    | two least most =>
      obtain ⟨b, rest, rfl, low, high, same, read⟩ := exists_of_partsFrom_last read
      obtain ⟨n, point⟩ : ∃ n, n = (a.toNat - 0xC0) * 64 + (b.toNat - 0x80) := ⟨_, rfl⟩
      simp only [UInt8.reduceToNat] at low high
      have front : a = .ofNat (0xC0 + n / 64) := eq_ofNat_of_toNat (by omega)
      have last : b = .ofNat (0x80 + n % 64) := eq_ofNat_of_toNat (by omega)
      refine ⟨rest, ?_, read⟩
      rw [same, ← point, encodeChar_two (by omega) (by omega), ← front, ← last]
      rfl
    | three least most overlong surrogate lower upper =>
      obtain ⟨b, behind, rfl, lowB, highB, read⟩ := exists_of_partsFrom_next read
      obtain ⟨d, rest, rfl, lowD, highD, same, read⟩ := exists_of_partsFrom_last read
      obtain ⟨n, point⟩ : ∃ n, n =
          ((a.toNat - 0xE0) * 64 + (b.toNat - 0x80)) * 64 + (d.toNat - 0x80) := ⟨_, rfl⟩
      simp only [UInt8.reduceToNat] at lowD highD
      have front : a = .ofNat (0xE0 + n / 4096) := eq_ofNat_of_toNat (by omega)
      have middle : b = .ofNat (0x80 + n / 64 % 64) := eq_ofNat_of_toNat (by omega)
      have last : d = .ofNat (0x80 + n % 64) := eq_ofNat_of_toNat (by omega)
      refine ⟨rest, ?_, read⟩
      rw [same, ← point, encodeChar_three (by omega) (by omega) (by omega), ← front, ← middle,
        ← last]
      rfl
    | four least most overlong beyond lower upper =>
      obtain ⟨b, behind, rfl, lowB, highB, read⟩ := exists_of_partsFrom_next read
      obtain ⟨d, behind, rfl, lowD, highD, read⟩ := exists_of_partsFrom_next read
      obtain ⟨e, rest, rfl, lowE, highE, same, read⟩ := exists_of_partsFrom_last read
      obtain ⟨n, point⟩ : ∃ n, n =
          (((a.toNat - 0xF0) * 64 + (b.toNat - 0x80)) * 64 + (d.toNat - 0x80)) * 64 +
            (e.toNat - 0x80) := ⟨_, rfl⟩
      simp only [UInt8.reduceToNat] at lowD highD lowE highE
      have front : a = .ofNat (0xF0 + n / 262144) := eq_ofNat_of_toNat (by omega)
      have second : b = .ofNat (0x80 + n / 4096 % 64) := eq_ofNat_of_toNat (by omega)
      have third : d = .ofNat (0x80 + n / 64 % 64) := eq_ofNat_of_toNat (by omega)
      have last : e = .ofNat (0x80 + n % 64) := eq_ofNat_of_toNat (by omega)
      refine ⟨rest, ?_, read⟩
      rw [same, ← point, encodeChar_four (by omega) (by omega), ← front, ← second, ← third,
        ← last]
      rfl

end

theorem partsFrom_some_ne_nil (p : Pending) (bytes : List UInt8) :
    partsFrom (some p) bytes ≠ [] := by
  induction bytes generalizing p with
  | nil => exact List.cons_ne_nil _ _
  | cons b rest ih =>
    rw [partsFrom]
    split
    · cases p.next b with
      | inl c => exact List.cons_ne_nil _ _
      | inr q => exact ih q
    · cases start b with
      | inl c => exact List.cons_ne_nil _ _
      | inr q => exact List.cons_ne_nil _ _

theorem partsFrom_none_ne_nil (b : UInt8) (rest : List UInt8) :
    partsFrom none (b :: rest) ≠ [] := by
  rw [partsFrom]
  cases start b with
  | inl c => exact List.cons_ne_nil _ _
  | inr p => exact partsFrom_some_ne_nil p rest

theorem mapM_id_eq_some_iff {parts : List (Option Char)} {text : List Char} :
    parts.mapM id = some text ↔ parts = text.map some := by
  induction parts generalizing text with
  | nil => cases text <;> simp
  | cons part parts ih =>
    cases part with
    | none => cases text <;> simp
    | some c =>
      have unfolded : (some c :: parts).mapM id = (parts.mapM id).map (c :: ·) := by
        rw [List.mapM_cons]
        cases parts.mapM id <;> rfl
      rw [unfolded, Option.map_eq_some_iff]
      constructor
      · rintro ⟨tail, read, rfl⟩
        rw [ih.mp read, List.map_cons]
      · intro same
        cases text with
        | nil => contradiction
        | cons d text =>
          obtain ⟨first, later⟩ := List.cons.inj same
          exact ⟨text, ih.mpr later, by rw [Option.some.inj first]⟩

/-- Bytes are decoded to the text that they encode, and to none if they encode none. -/
theorem decode?_eq_some_iff {bytes : List UInt8} {text : List Char} :
    decode? bytes = some text ↔ bytes = encode text := by
  rw [decode?, mapM_id_eq_some_iff, parts]
  constructor
  · intro read
    induction text generalizing bytes with
    | nil =>
      cases bytes with
      | nil => rfl
      | cons b rest => exact absurd read (partsFrom_none_ne_nil b rest)
    | cons c text ih =>
      obtain ⟨rest, rfl, later⟩ := exists_of_partsFrom read
      rw [ih later]
      rfl
  · rintro rfl
    exact partsFrom_encode text

/-! ### Bytes that encode a text -/

def IsContinuation (b : UInt8) : Prop :=
  0x80 ≤ b.toNat ∧ b.toNat < 0xC0

def IsText (bytes : List UInt8) : Prop :=
  ∃ text, bytes = encode text

theorem isText_iff {bytes : List UInt8} : IsText bytes ↔ (decode? bytes).isSome = true := by
  simp only [IsText, ← decode?_eq_some_iff, Option.isSome_iff_exists]

theorem isText_nil : IsText [] := ⟨[], rfl⟩

theorem IsText.append {front behind : List UInt8} (first : IsText front) (second : IsText behind) :
    IsText (front ++ behind) := by
  obtain ⟨before, rfl⟩ := first
  obtain ⟨after, rfl⟩ := second
  exact ⟨before ++ after, List.flatMap_append.symm⟩

theorem isText_encodeChar (c : Char) : IsText (encodeChar c) :=
  ⟨[c], by simp [encode]⟩

theorem isText_singleton {b : UInt8} (ascii : b.toNat < 0x80) : IsText [b] := by
  have byte : b = .ofNat b.toNat := eq_ofNat_of_toNat rfl
  have whole := isText_encodeChar (.ofNat b.toNat)
  rwa [encodeChar_one ascii, ← byte] at whole

theorem isText_of_ascii {bytes : List UInt8} (ascii : ∀ b ∈ bytes, b.toNat < 0x80) :
    IsText bytes := by
  induction bytes with
  | nil => exact isText_nil
  | cons b rest ih =>
    obtain ⟨first, later⟩ := List.forall_mem_cons.mp ascii
    exact (isText_singleton first).append (ih later)

/-- Only the first byte of a character's encoding is no continuation. -/
theorem encodeChar_spec (c : Char) :
    ∃ first tail, encodeChar c = first :: tail ∧ ¬ IsContinuation first ∧
      ∀ b ∈ tail, IsContinuation b := by
  have scalar := scalar_toNat c
  have ended : ∀ b ∈ ([] : List UInt8), IsContinuation b := List.forall_mem_nil _
  have later : ∀ n {tail : List UInt8}, (∀ b ∈ tail, IsContinuation b) →
      ∀ b ∈ .ofNat (0x80 + n % 64) :: tail, IsContinuation b := by
    intro n tail rest
    refine List.forall_mem_cons.mpr ⟨?_, rest⟩
    rw [IsContinuation, toNat_ofNat (by omega)]
    omega
  have lead : ∀ n, n < 0x80 ∨ 0xC0 ≤ n → n < 0x100 → ¬ IsContinuation (.ofNat n) := by
    intro n outside most
    rw [IsContinuation, toNat_ofNat most]
    omega
  rw [encodeChar]
  split
  · exact ⟨_, _, rfl, lead _ (by omega) (by omega), ended⟩
  split
  · exact ⟨_, _, rfl, lead _ (by omega) (by omega), later _ ended⟩
  split
  · exact ⟨_, _, rfl, lead _ (by omega) (by omega), later _ (later _ ended)⟩
  · exact ⟨_, _, rfl, lead _ (by omega) (by omega), later _ (later _ (later _ ended))⟩

/-- A text can be cut before any byte that is no continuation. -/
theorem IsText.cut {front behind : List UInt8} {b : UInt8} (whole : IsText (front ++ b :: behind))
    (boundary : ¬ IsContinuation b) : IsText front ∧ IsText (b :: behind) := by
  obtain ⟨text, same⟩ := whole
  induction text generalizing front with
  | nil => simp [encode] at same
  | cons c text ih =>
    obtain ⟨first, tail, shape, _, inner⟩ := encodeChar_spec c
    have split : encode (c :: text) = first :: (tail ++ encode text) := by
      rw [← List.cons_append, ← shape]
      rfl
    cases front with
    | nil => exact ⟨isText_nil, c :: text, same⟩
    | cons x front =>
      rw [split, List.cons_append] at same
      obtain ⟨rfl, behindFirst⟩ := List.cons.inj same
      have past : ∀ more, front = tail ++ more → encode text = more ++ b :: behind →
          IsText (x :: front) ∧ IsText (b :: behind) := by
        rintro more rfl outside
        obtain ⟨before, after⟩ := ih outside.symm
        refine ⟨?_, after⟩
        rw [← List.cons_append, ← shape]
        exact (isText_encodeChar c).append before
      obtain ⟨more, split, inside⟩ | ⟨more, split, outside⟩ :=
        List.append_eq_append_iff.mp behindFirst
      · cases more with
        | nil => exact past [] (by simpa using split.symm) (by simpa using inside.symm)
        | cons y more =>
          -- the cut would fall inside the character
          obtain ⟨rfl, _⟩ := List.cons.inj inside
          exact absurd (inner b (by simp [split])) boundary
      · exact past more split outside

theorem IsText.of_encodeChar_append {c : Char} {rest : List UInt8}
    (whole : IsText (encodeChar c ++ rest)) : IsText rest := by
  obtain ⟨text, read⟩ := Option.isSome_iff_exists.mp (isText_iff.mp whole)
  rw [decode?, mapM_id_eq_some_iff, parts, partsFrom_encodeChar_append] at read
  cases text with
  | nil => exact absurd read (List.cons_ne_nil _ _)
  | cons d text =>
    refine ⟨text, decode?_eq_some_iff.mp ?_⟩
    rw [decode?, mapM_id_eq_some_iff]
    exact (List.cons.inj read).2

/-- A character in a text can be taken out. -/
theorem IsText.around {front rest : List UInt8} {c : Char}
    (whole : IsText (front ++ (encodeChar c ++ rest))) : IsText front ∧ IsText rest := by
  obtain ⟨first, tail, shape, boundary, _⟩ := encodeChar_spec c
  have cut : IsText front ∧ IsText (encodeChar c ++ rest) := by
    rw [shape] at whole ⊢
    exact whole.cut boundary
  exact ⟨cut.1, cut.2.of_encodeChar_append⟩

/-! ### Patterns in encoded texts -/

theorem encode_prefix_iff {front text : List Char} :
    encode front <+: encode text ↔ front <+: text := by
  constructor
  · intro found
    induction front generalizing text with
    | nil => exact List.nil_prefix
    | cons c front ih =>
      obtain ⟨first, tail, shape, _⟩ := encodeChar_spec c
      cases text with
      | nil => simp [encode, shape] at found
      | cons d text =>
        obtain ⟨rest, whole⟩ := found
        rw [encode_cons, encode_cons, List.append_assoc] at whole
        have read := congrArg (partsFrom none) whole
        rw [partsFrom_encodeChar_append, partsFrom_encodeChar_append] at read
        obtain rfl := Option.some.inj (List.cons.inj read).1
        exact List.cons_prefix_cons.mpr ⟨rfl, ih ⟨rest, List.append_cancel_left whole⟩⟩
  · rintro ⟨rest, rfl⟩
    exact ⟨encode rest, (encode_append front rest).symm⟩

/-- Characters and bytes agree on which of two beginnings of a text is the shorter one. -/
theorem length_encode_lt_iff {text front other behind rest : List Char}
    (shorter : text = front ++ behind) (longer : text = other ++ rest) :
    (encode front).length < (encode other).length ↔ front.length < other.length := by
  have grows : ∀ inner : List Char, inner ≠ [] → 0 < (encode inner).length := by
    intro inner nonempty
    cases inner with
    | nil => contradiction
    | cons c inner =>
      obtain ⟨first, tail, shape, _⟩ := encodeChar_spec c
      simp [encode_cons, shape]
  rw [shorter] at longer
  obtain ⟨inner, rfl, _⟩ | ⟨inner, rfl, _⟩ := List.append_eq_append_iff.mp longer
  · rw [encode_append, List.length_append, List.length_append]
    cases inner with
    | nil => simp [encode]
    | cons c inner =>
      have positive := grows (c :: inner) (List.cons_ne_nil _ _)
      simp only [List.length_cons]
      omega
  · rw [encode_append, List.length_append, List.length_append]
    omega

end EnvTemplate.Utf8
