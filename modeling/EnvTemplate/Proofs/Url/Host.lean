import EnvTemplate.Proofs.Number.Decimal
import EnvTemplate.Proofs.Text.Decoding
import EnvTemplate.Proofs.Url.Domain
import EnvTemplate.Url.Host
import Mathlib.Data.List.TakeWhile
/-! Hosts as they are written. A host that is accepted holds none of the delimiters that part a URL, but
for the brackets around an IPv6 address and the colons within them. -/
namespace EnvTemplate

/-! ### Addresses -/

namespace Ipv6

def IsAddressChar (c : Char) : Prop :=
  c = ':' ∨ c = '.' ∨ Ascii.isHexDigit c = true

theorem isHexDigit_of_isDigit {c : Char} (digit : c.isDigit = true) : Ascii.isHexDigit c = true := by
  rw [Ascii.isHexDigit, Ascii.hexValue?, if_pos digit]
  rfl

theorem isAddressChar_of_dotted? {text : List Char} {pieces : List Nat}
    (read : dotted? text = some pieces) : ∀ c ∈ text, IsAddressChar c := by
  intro c member
  cases bytes : (text.splitOn '.').mapM dottedByte? with
  | none =>
    rw [dotted?, bytes] at read
    contradiction
  | some values =>
    have whole : ['.'].intercalate (text.splitOn '.') = text := List.intercalate_splitOn '.'
    rw [← whole] at member
    obtain stop | ⟨part, present, inside⟩ := Text.mem_of_mem_intercalate member
    · exact .inr (.inl (List.mem_singleton.mp stop))
    · obtain ⟨value, _, same⟩ := exists_mem_of_mapM bytes present
      rw [dottedByte?] at same
      split at same
      · rename_i numeral
        rw [Bool.and_eq_true] at numeral
        have digit := (Decimal.isNumeral_iff.mp numeral.1).2 c inside
        exact .inr (.inr (isHexDigit_of_isDigit digit))
      · contradiction

/-- The digits of a piece are taken off the front. -/
theorem isAddressChar_of_drop (text : List Char)
    (behind : ∀ c ∈ text.drop ((text.take 4).takeWhile Ascii.isHexDigit).length, IsAddressChar c) :
    ∀ c ∈ text, IsAddressChar c := by
  intro c member
  have front : (text.take 4).takeWhile Ascii.isHexDigit <+: text :=
    (List.takeWhile_prefix _).trans (List.take_prefix 4 text)
  rw [← List.take_append_drop ((text.take 4).takeWhile Ascii.isHexDigit).length text,
    List.mem_append, ← List.prefix_iff_eq_take.mp front] at member
  obtain digit | later := member
  · exact .inr (.inr (List.mem_takeWhile_imp digit))
  · exact behind c later

theorem isAddressChar_of_piecesFrom? {bound : Nat} {p q : Progress} {text : List Char}
    (read : piecesFrom? bound p text = some q) : ∀ c ∈ text, IsAddressChar c := by
  fun_induction piecesFrom? bound p text with
  | case1 => nofun
  | case2 | case3 | case4 | case7 | case9 | case11 => contradiction
  | case5 bound p rest _ _ ih => exact List.forall_mem_cons.mpr ⟨.inl rfl, ih read⟩
  | case6 bound p c rest _ _ text digits _ ends =>
    refine isAddressChar_of_drop (c :: rest) ?_
    rw [ends]
    nofun
  | case8 =>
    obtain ⟨two, dotted, _⟩ := Option.map_eq_some_iff.mp read
    exact isAddressChar_of_dotted? dotted
  | case10 bound p c rest _ _ text digits _ after ends _ ih =>
    refine isAddressChar_of_drop (c :: rest) ?_
    rw [ends]
    exact List.forall_mem_cons.mpr ⟨.inl rfl, ih read⟩

theorem isAddressChar_of_parse? {text : List Char} {pieces : List Nat}
    (read : parse? text = some pieces) : ∀ c ∈ text, IsAddressChar c := by
  rw [parse?.eq_def] at read
  split at read
  · obtain ⟨p, found, _⟩ := Option.bind_eq_some_iff.mp read
    refine List.forall_mem_cons.mpr ⟨.inl rfl, List.forall_mem_cons.mpr ⟨.inl rfl, ?_⟩⟩
    exact isAddressChar_of_piecesFrom? found
  · contradiction
  · obtain ⟨p, found, _⟩ := Option.bind_eq_some_iff.mp read
    exact isAddressChar_of_piecesFrom? found

end Ipv6

/-! ### Hosts -/

theorem Form.mem_unescape {b : UInt8} (notPercent : b ≠ 0x25) (notDigit : hexValue? b = none)
    {bytes : List UInt8} (member : b ∈ bytes) : b ∈ unescape bytes := by
  fun_induction unescape bytes with
  | case1 first second rest m n low high ih =>
    refine List.mem_cons_of_mem _ (ih ?_)
    obtain rfl | rfl | rfl | later := by simpa only [List.mem_cons] using member
    · contradiction
    · exact absurd (notDigit.symm.trans high) nofun
    · exact absurd (notDigit.symm.trans low) nofun
    · exact later
  | case2 first second rest _ ih | case3 first rest _ ih =>
    obtain rfl | later := List.mem_cons.mp member
    · exact List.mem_cons_self
    · exact List.mem_cons_of_mem _ (ih later)
  | case4 => contradiction

namespace Url

def isDelimiter (c : Char) : Bool :=
  ":/?#[]@".toList.contains c

/-- What all delimiters satisfy, and what none does. -/
theorem of_isDelimiter {p : Char → Bool} (all : ":/?#[]@".toList.all p = true) {c : Char}
    (delimiter : isDelimiter c = true) : p c = true :=
  List.all_eq_true.mp all c (List.contains_iff_mem.mp delimiter)

theorem not_of_isDelimiter {p : Char → Bool} (none : ":/?#[]@".toList.any p = false) {c : Char}
    (delimiter : isDelimiter c = true) : p c = false :=
  Bool.eq_false_iff.mpr (List.any_eq_false.mp none c (List.contains_iff_mem.mp delimiter))

namespace Host

/-- A host by its text: brackets around an address, or no delimiter at all. -/
def IsWritten (text : List Char) : Prop :=
  (∃ inner, text = '[' :: (inner ++ [']']) ∧ ∀ c ∈ inner, isDelimiter c = true → c = ':') ∨
    ∀ c ∈ text, isDelimiter c = false

theorem isWritten_of_ofBrackets? {inner : List Char} {host : Host}
    (read : ofBrackets? inner = some host) : IsWritten ('[' :: inner) := by
  rw [ofBrackets?] at read
  split at read
  · rename_i last
    obtain ⟨pieces, address, _⟩ := Option.map_eq_some_iff.mp read
    have shape := List.dropLast_append_getLast? _ last
    refine .inl ⟨inner.dropLast, by rw [shape], fun c member delimiter => ?_⟩
    obtain colon | stop | digit := Ipv6.isAddressChar_of_parse? address c member
    · exact colon
    · rw [stop] at delimiter
      exact absurd delimiter (by decide)
    · have other : Ascii.isHexDigit c = false := not_of_isDelimiter (by decide) delimiter
      exact absurd digit (Bool.eq_false_iff.mp other)
  · contradiction

/-- Unescaping keeps a character that no escape is written with. -/
theorem mem_of_unescape {c : Char} (ascii : c.toNat < 0x80) (notPercent : c ≠ '%')
    (notDigit : Ascii.isHexDigit c = false) {written name : List Char}
    (read : Utf8.decode? (Form.unescape (Utf8.encode written)) = some name) (member : c ∈ written) :
    c ∈ name := by
  have value : (UInt8.ofNat c.toNat).toNat = c.toNat := Utf8.toNat_ofNat (by omega)
  have byte : UInt8.ofNat c.toNat ∈ Utf8.encode written := by
    refine List.mem_flatMap.mpr ⟨c, member, ?_⟩
    rw [Utf8.encodeChar_of_ascii ascii]
    exact List.mem_cons_self
  have kept : UInt8.ofNat c.toNat ∈ Form.unescape (Utf8.encode written) := by
    refine Form.mem_unescape ?_ ?_ byte
    · intro same
      rw [same] at value
      exact notPercent (Char.toNat_inj.mp value.symm)
    · rw [Form.hexValue?, value, Char.ofNat_toNat]
      exact Option.not_isSome_iff_eq_none.mp (Bool.eq_false_iff.mp notDigit)
  rw [Utf8.decode?_eq_some_iff.mp read] at kept
  obtain ⟨d, inside, first⟩ := List.mem_flatMap.mp kept
  obtain low | high := Nat.lt_or_ge d.toNat 0x80
  · rw [Utf8.encodeChar_of_ascii low, List.mem_singleton] at first
    have same := congrArg UInt8.toNat first
    rw [value, Utf8.toNat_ofNat (by omega)] at same
    rwa [Char.toNat_inj.mp same]
  · have least := Utf8.le_of_mem_encodeChar high _ first
    omega

theorem isWritten_of_ofSpecial? {written : List Char} {host : Host}
    (read : ofSpecial? written = some host) : IsWritten written := by
  rw [ofSpecial?.eq_def] at read
  split at read
  · exact isWritten_of_ofBrackets? read
  · refine .inr fun c member => Bool.eq_false_iff.mpr fun delimiter => ?_
    obtain ⟨unescaped, decoded, read⟩ := Option.bind_eq_some_iff.mp read
    obtain ⟨name, normal, _⟩ := Option.bind_eq_some_iff.mp read
    have alone : Unicode.takesMarks c = false := not_of_isDelimiter (by decide) delimiter
    have forbidden : Domain.isForbidden c = true := of_isDelimiter (by decide) delimiter
    have notDigit : Ascii.isHexDigit c = false := not_of_isDelimiter (by decide) delimiter
    have notPercent : c ≠ '%' := by
      rintro rfl
      contradiction
    have inside := mem_of_unescape (Unicode.toNat_lt_of_not_takesMarks alone) notPercent notDigit
      decoded member
    exact absurd forbidden (Bool.eq_false_iff.mp (Domain.isForbidden_of_mem alone normal inside))

theorem isWritten_of_ofOpaque? {written : List Char} {host : Host}
    (read : ofOpaque? written = some host) : IsWritten written := by
  rw [ofOpaque?.eq_def] at read
  split at read
  · exact isWritten_of_ofBrackets? read
  · split at read
    · contradiction
    · rename_i clean
      rw [List.any_eq_true, not_exists] at clean
      refine .inr fun c member => Bool.eq_false_iff.mpr fun delimiter => clean c ⟨member, ?_⟩
      exact of_isDelimiter (by decide) delimiter

end Host

end Url

end EnvTemplate
