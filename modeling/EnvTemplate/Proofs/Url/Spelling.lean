import EnvTemplate.Proofs.Text.Cut
import EnvTemplate.Proofs.Url.Host
import EnvTemplate.Url.Parts
/-! How URLs are written: a scheme and a colon, slashes, an authority, and a tail. The authority is a host
with a user before it and a port behind it. A text is spelled in one way at most, so that one may speak
of the port that it writes. -/
namespace EnvTemplate.Url

@[ext]
structure Authority where
  userinfo : Option (List Char)
  host : List Char
  port : Option (List Char)

namespace Authority
variable (a : Authority)

def portText : List Char :=
  (a.port.map (':' :: ·)).getD []

/-- What stands behind the at sign. -/
def hostPort : List Char :=
  a.host ++ a.portText

def text : List Char :=
  (a.userinfo.map (· ++ ['@'])).getD [] ++ a.hostPort

/-- The number that the port denotes. An empty port denotes none. -/
def number? : Option Nat :=
  a.port.bind Decimal.toNat?

structure IsWell : Prop where
  userinfo : ∀ text ∈ a.userinfo, ∀ c ∈ text, endsAuthority false c = false
  present : a.host ≠ []
  host : Host.IsWritten a.host
  port : ∀ digits ∈ a.port, ∀ c ∈ digits, c.isDigit = true

end Authority

/-- A URL as it is written. The tail is the path with all that follows it. -/
@[ext]
structure Spelling where
  scheme : List Char
  slashes : Nat
  authority : Authority
  tail : List Char

namespace Spelling
variable (s : Spelling)

/-- What stands behind the colon of the scheme. -/
def behind : List Char :=
  List.replicate s.slashes '/' ++ (s.authority.text ++ s.tail)

def text : List Char :=
  s.scheme ++ ':' :: s.behind

structure IsScheme (text : List Char) : Prop where
  first : ∃ c ∈ text.head?, c.isAlpha = true
  all : ∀ c ∈ text, isSchemeChar c = true

/-- What follows an authority starts with the delimiter that ends it. -/
def IsTail (text : List Char) : Prop :=
  ∀ c ∈ text.head?, endsAuthority false c = true

/-- Two slashes stand before an authority. Only a scheme that has a default port may have fewer of them,
or more. -/
structure IsWell : Prop where
  scheme : IsScheme s.scheme
  slashes : s.slashes = 2 ∨ (defaultPort? (Ascii.lower s.scheme)).isSome = true
  authority : s.authority.IsWell
  tail : IsTail s.tail

end Spelling

/-! ### Delimiters -/

theorem endsAuthority_iff {c : Char} :
    endsAuthority false c = true ↔ c = '/' ∨ c = '?' ∨ c = '#' := by
  simp [endsAuthority, isSlash, or_assoc]

theorem isDelimiter_of_endsAuthority {c : Char} (ends : endsAuthority false c = true) :
    isDelimiter c = true ∧ c ∉ [':', '[', ']', '@'] := by
  obtain rfl | rfl | rfl := endsAuthority_iff.mp ends <;> decide

theorem isDelimiter_eq_false_of_isDigit {c : Char} (digit : c.isDigit = true) :
    isDelimiter c = false := by
  refine Bool.eq_false_iff.mpr fun delimiter => ?_
  have other : c.isDigit = false := not_of_isDelimiter (by decide) delimiter
  exact Bool.eq_false_iff.mp other digit

namespace Host
variable {text : List Char}

/-- An at sign and what ends an authority are no part of a host. -/
theorem IsWritten.notMem (written : IsWritten text) {c : Char} (delimiter : isDelimiter c = true)
    (outside : c ∉ [':', '[', ']']) : c ∉ text := by
  intro member
  obtain ⟨inner, rfl, colons⟩ | plain := written
  · obtain rfl | inside | rfl : c = '[' ∨ c ∈ inner ∨ c = ']' := by simpa using member
    · exact outside (by decide)
    · exact outside (List.mem_cons.mpr (.inl (colons c inside delimiter)))
    · exact outside (by decide)
  · exact Bool.eq_false_iff.mp (plain c member) delimiter

/-- Without brackets a host holds no delimiter. -/
theorem IsWritten.plain (written : IsWritten text) (absent : ']' ∉ text) {c : Char}
    (delimiter : isDelimiter c = true) : c ∉ text := by
  have all := written.resolve_left fun ⟨inner, brackets, _⟩ => absent (by simp [brackets])
  exact fun member => Bool.eq_false_iff.mp (all c member) delimiter

end Host

/-! ### Reading back a host and a port -/

section WrittenHost
variable {front rest : List Char}

theorem writtenHost_append_plain (plain : ∀ c ∈ front, isDelimiter c = false) :
    writtenHost false (front ++ rest) =
      (front ++ (writtenHost false rest).1, (writtenHost false rest).2) := by
  induction front with
  | nil => rfl
  | cons c front ih =>
    have none : c ≠ ':' ∧ c ≠ '[' ∧ c ≠ ']' := by
      refine ⟨?_, ?_, ?_⟩ <;> rintro rfl <;> exact absurd (plain _ List.mem_cons_self) (by decide)
    rw [List.cons_append, writtenHost, if_neg fun colon => none.1 colon.1, if_neg none.2.1,
      if_neg none.2.2, ih fun d member => plain d (List.mem_cons_of_mem c member)]
    rfl

theorem writtenHost_append_brackets (colons : ∀ c ∈ front, isDelimiter c = true → c = ':') :
    writtenHost true (front ++ ']' :: rest) =
      (front ++ ']' :: (writtenHost false rest).1, (writtenHost false rest).2) := by
  induction front with
  | nil => rfl
  | cons c front ih =>
    have none : c ≠ '[' ∧ c ≠ ']' := by
      refine ⟨?_, ?_⟩ <;> rintro rfl <;>
        exact absurd (colons _ List.mem_cons_self (by decide)) (by decide)
    rw [List.cons_append, writtenHost, if_neg fun outside => absurd outside.2 nofun, if_neg none.1,
      if_neg none.2, ih fun d member => colons d (List.mem_cons_of_mem c member)]
    rfl

/-- A host is read up to the colon of the port. -/
theorem writtenHost_append (written : Host.IsWritten front) (ends : ∀ c ∈ rest.head?, c = ':') :
    writtenHost false (front ++ rest) = (front, rest) := by
  have stop : writtenHost false rest = ([], rest) := by
    cases rest with
    | nil => rfl
    | cons c rest =>
      obtain rfl := ends c rfl
      rfl
  obtain ⟨inner, rfl, colons⟩ | plain := written
  · rw [List.cons_append, List.append_assoc, List.singleton_append, writtenHost,
      if_neg fun colon => absurd colon.1 (by decide), if_pos rfl,
      writtenHost_append_brackets colons, stop]
  · rw [writtenHost_append_plain plain, stop, List.append_nil]

theorem append_of_writtenHost {bracketed : Bool} {text : List Char}
    (read : writtenHost bracketed text = (front, rest)) :
    text = front ++ rest ∧ ∀ c ∈ rest.head?, c = ':' := by
  induction text generalizing bracketed front with
  | nil =>
    obtain ⟨rfl, rfl⟩ := Prod.mk.inj read
    exact ⟨rfl, nofun⟩
  | cons c text ih =>
    rw [writtenHost] at read
    split at read
    · rename_i colon
      obtain ⟨rfl, rfl⟩ := Prod.mk.inj read
      exact ⟨rfl, fun d first => by rw [← Option.some.inj first, colon.1]⟩
    · obtain ⟨rfl, rfl⟩ := Prod.mk.inj read
      obtain ⟨shape, ends⟩ := ih rfl
      exact ⟨congrArg (c :: ·) shape, ends⟩

end WrittenHost

/-! ### Reading back an authority -/

namespace Authority
variable {a b : Authority}

theorem head?_portText : ∀ c ∈ a.portText.head?, c = ':' := by
  rw [portText]
  cases a.port with
  | none => nofun
  | some digits => exact fun c first => (Option.some.inj first).symm

theorem IsWell.isDelimiter_of_mem_portText (well : a.IsWell) :
    ∀ c ∈ a.portText, isDelimiter c = true → c = ':' := by
  rw [portText]
  cases shape : a.port with
  | none => nofun
  | some digits =>
    refine List.forall_mem_cons.mpr ⟨fun _ => rfl, fun c member delimiter => ?_⟩
    have other := isDelimiter_eq_false_of_isDigit (well.port digits shape c member)
    exact absurd delimiter (Bool.eq_false_iff.mp other)

theorem IsWell.notMem_hostPort (well : a.IsWell) {c : Char} (delimiter : isDelimiter c = true)
    (outside : c ∉ [':', '[', ']']) : c ∉ a.hostPort := by
  rw [hostPort, List.mem_append, not_or]
  refine ⟨well.host.notMem delimiter outside, fun member => outside ?_⟩
  exact List.mem_cons.mpr (.inl (well.isDelimiter_of_mem_portText c member delimiter))

theorem IsWell.endsAuthority_text (well : a.IsWell) :
    ∀ c ∈ a.text, endsAuthority false c = false := by
  intro c member
  refine Bool.eq_false_iff.mpr fun ends => ?_
  obtain ⟨delimiter, outside⟩ := isDelimiter_of_endsAuthority ends
  rw [text, List.mem_append] at member
  obtain before | member := member
  · cases shape : a.userinfo with
    | none =>
      rw [shape] at before
      contradiction
    | some user =>
      rw [shape] at before
      obtain inside | last := List.mem_append.mp before
      · exact absurd ends (Bool.eq_false_iff.mp (well.userinfo user shape c inside))
      · rw [List.mem_singleton.mp last] at outside
        exact outside (by decide)
  · refine well.notMem_hostPort delimiter ?_ member
    simp only [List.mem_cons, not_or] at outside ⊢
    exact ⟨outside.1, outside.2.1, outside.2.2.1, outside.2.2.2.2⟩

/-- The last at sign parts the user from the host. -/
theorem IsWell.cutLast_text (well : a.IsWell) :
    Text.cutLast '@' a.text = a.userinfo.map (·, a.hostPort) := by
  have absent : '@' ∉ a.hostPort := well.notMem_hostPort (by decide) (by decide)
  rw [text]
  cases a.userinfo with
  | none => exact Text.cutLast_eq_none absent
  | some user =>
    rw [Option.map_some, Option.getD_some, List.append_assoc]
    exact Text.cutLast_append absent

theorem IsWell.writtenHost_hostPort (well : a.IsWell) :
    writtenHost false a.hostPort = (a.host, a.portText) :=
  writtenHost_append well.host head?_portText

theorem IsWell.eq_of_text_eq (wellA : a.IsWell) (wellB : b.IsWell) (same : a.text = b.text) : a = b := by
  have user : a.userinfo.map (·, a.hostPort) = b.userinfo.map (·, b.hostPort) := by
    rw [← wellA.cutLast_text, same, wellB.cutLast_text]
  have parts : a.userinfo = b.userinfo ∧ a.hostPort = b.hostPort := by
    rw [text, text] at same
    cases first : a.userinfo <;> cases second : b.userinfo <;> rw [first, second] at user same
    · exact ⟨rfl, same⟩
    · contradiction
    · contradiction
    · obtain ⟨rfl, behind⟩ := Prod.mk.inj (Option.some.inj user)
      exact ⟨rfl, behind⟩
  have read : (a.host, a.portText) = (b.host, b.portText) := by
    rw [← wellA.writtenHost_hostPort, parts.2, wellB.writtenHost_hostPort]
  obtain ⟨host, port⟩ := Prod.mk.inj read
  have digits : a.port = b.port := by
    rw [portText, portText] at port
    cases first : a.port <;> cases second : b.port <;> rw [first, second] at port
    · contradiction
    · contradiction
    · exact congrArg some (List.cons.inj port).2
  exact Authority.ext parts.1 host digits

/-- An authority is not empty and starts with no slash. -/
theorem IsWell.head?_text (well : a.IsWell) : ∃ c ∈ a.text.head?, c ≠ '/' := by
  have some : a.text ≠ [] := by
    rw [text, hostPort]
    simp [well.present]
  obtain ⟨c, rest, shape⟩ := List.exists_cons_of_ne_nil some
  have inside : c ∈ a.text := by rw [shape]; exact List.mem_cons_self
  refine ⟨c, by rw [shape]; rfl, ?_⟩
  rintro rfl
  exact absurd (well.endsAuthority_text _ inside) (by decide)

end Authority

/-! ### Reading back a spelling -/

namespace Spelling
variable {s t : Spelling}

/-- The scheme ends at the first colon. -/
theorem IsWell.span_text (well : s.IsWell) :
    s.text.span isSchemeChar = (s.scheme, ':' :: s.behind) :=
  Text.span_eq_iff.mpr ⟨rfl, well.scheme.all, fun _ first => by rw [← Option.some.inj first]; rfl⟩

theorem IsWell.span_behind (well : s.IsWell) :
    s.behind.span (· == '/') = (List.replicate s.slashes '/', s.authority.text ++ s.tail) := by
  refine Text.span_eq_iff.mpr ⟨rfl, fun c member => ?_, fun c first => ?_⟩
  · exact beq_iff_eq.mpr (List.eq_of_mem_replicate member)
  · obtain ⟨d, head, other⟩ := well.authority.head?_text
    rw [List.head?_append, Option.mem_def.mp head] at first
    obtain rfl := Option.some.inj first
    exact beq_eq_false_iff_ne.mpr other

theorem IsWell.span_authority (well : s.IsWell) :
    (s.authority.text ++ s.tail).span (!endsAuthority false ·) = (s.authority.text, s.tail) := by
  refine Text.span_eq_iff.mpr ⟨rfl, fun c member => ?_, fun c first => ?_⟩
  · rw [well.authority.endsAuthority_text c member]
    rfl
  · rw [well.tail c first]
    rfl

/-- A text is spelled in one way at most. -/
theorem IsWell.eq_of_text_eq (wellS : s.IsWell) (wellT : t.IsWell) (same : s.text = t.text) :
    s = t := by
  obtain ⟨scheme, behind⟩ : s.scheme = t.scheme ∧ ':' :: s.behind = ':' :: t.behind :=
    Prod.mk.inj (by rw [← wellS.span_text, same, wellT.span_text])
  obtain ⟨slashes, rest⟩ : List.replicate s.slashes '/' = List.replicate t.slashes '/' ∧
      s.authority.text ++ s.tail = t.authority.text ++ t.tail :=
    Prod.mk.inj (by rw [← wellS.span_behind, (List.cons.inj behind).2, wellT.span_behind])
  obtain ⟨authority, tail⟩ : s.authority.text = t.authority.text ∧ s.tail = t.tail :=
    Prod.mk.inj (by rw [← wellS.span_authority, rest, wellT.span_authority])
  have parts := wellS.authority.eq_of_text_eq wellT.authority authority
  have count : s.slashes = t.slashes := by simpa using congrArg List.length slashes
  exact Spelling.ext scheme count parts tail

end Spelling

end EnvTemplate.Url
