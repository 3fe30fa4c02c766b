import EnvTemplate.Proofs.Url.Spelling
/-! What is read from a URL is what it spells. A text that has parts holds no stray blanks, and no
backslash before its query, so that its authority ends where a slash, a query or a fragment begins. -/
namespace EnvTemplate.Url

variable {scheme text front rest : List Char} {url : Url}

/-! ### Blanks and backslashes -/

theorem clean_eq_self (plain : hasBlanks text = false) : clean text = text := by
  rw [hasBlanks, Bool.or_eq_false_iff, Bool.or_eq_false_iff] at plain
  obtain ⟨⟨first, last⟩, inner⟩ := plain
  have ends {found : Option Char} (none : found.any (·.toNat ≤ 0x20) = false) :
      ∀ c ∈ found, decide (c.toNat ≤ 0x20) = false := by
    rintro c rfl
    exact none
  rw [clean, Text.strip_eq_self (ends first) (ends last), List.filter_eq_self]
  intro c member
  have other := List.any_eq_false.mp inner c member
  simp only [Bool.or_eq_true, beq_iff_eq, not_or] at other
  simp only [Bool.and_eq_true, bne_iff_ne]
  exact ⟨⟨other.2, other.1.2⟩, other.1.1⟩

theorem hasBackslash_append (inside : ∀ c ∈ front, endsPath c = false)
    (plain : hasBackslash (front ++ rest) = false) : '\\' ∉ front ∧ hasBackslash rest = false := by
  have all : ∀ c ∈ front, (!endsPath c) = true := fun c member => by rw [inside c member]; rfl
  rw [hasBackslash, List.takeWhile_append_of_pos all, List.contains_append,
    Bool.or_eq_false_iff] at plain
  exact ⟨by simpa using plain.1, plain.2⟩

/-- The head of what is left is no backslash. -/
theorem ne_of_hasBackslash (plain : hasBackslash rest = false) : ∀ c ∈ rest.head?, c ≠ '\\' := by
  cases rest with
  | nil => nofun
  | cons c rest =>
    rintro d first rfl
    obtain rfl := Option.some.inj first
    exact absurd plain (by simp [hasBackslash, endsPath])

theorem endsPath_of_endsAuthority {special : Bool} {c : Char}
    (inside : endsAuthority special c = false) : endsPath c = false := by
  rw [endsAuthority, Bool.or_assoc, Bool.or_eq_false_iff] at inside
  exact inside.2

theorem endsAuthority_of_special {special : Bool} {c : Char} (other : c ≠ '\\') :
    endsAuthority special c = endsAuthority false c := by
  rw [endsAuthority, endsAuthority, isSlash, isSlash, beq_eq_false_iff_ne.mpr other]
  simp

/-- Without a backslash an authority ends in the same place in every URL. -/
theorem span_endsAuthority {special : Bool}
    (split : text.span (!endsAuthority special ·) = (front, rest))
    (plain : hasBackslash text = false) :
    text = front ++ rest ∧ '\\' ∉ front ∧ (∀ c ∈ front, endsAuthority false c = false) ∧
      Spelling.IsTail rest := by
  obtain ⟨rfl, all, ends⟩ := Text.span_eq_iff.mp split
  have inside : ∀ c ∈ front, endsAuthority special c = false := fun c member => by
    simpa using all c member
  obtain ⟨noBar, plain⟩ :=
    hasBackslash_append (fun c member => endsPath_of_endsAuthority (inside c member)) plain
  refine ⟨rfl, noBar, fun c member => ?_, fun c first => ?_⟩
  · rw [← endsAuthority_of_special fun bar => noBar (bar ▸ member)]
    exact inside c member
  · rw [← endsAuthority_of_special (ne_of_hasBackslash plain c first)]
    simpa using ends c first

theorem replicate_of_isSlash {special : Bool} (slash : ∀ c ∈ front, isSlash special c = true)
    (plain : hasBackslash (front ++ rest) = false) :
    front = List.replicate front.length '/' ∧ hasBackslash rest = false := by
  have cases : ∀ c ∈ front, c = '/' ∨ c = '\\' := fun c member => by
    have either := slash c member
    rw [isSlash, Bool.or_eq_true, Bool.and_eq_true, beq_iff_eq, beq_iff_eq] at either
    exact either.imp_right And.right
  have inside : ∀ c ∈ front, endsPath c = false := fun c member => by
    obtain rfl | rfl := cases c member <;> rfl
  obtain ⟨noBar, plain⟩ := hasBackslash_append inside plain
  refine ⟨List.eq_replicate_iff.mpr ⟨rfl, fun c member => ?_⟩, plain⟩
  exact (cases c member).resolve_right fun bar => noBar (bar ▸ member)

/-! ### Schemes and ports -/

theorem exists_scheme (read : scheme? text = some (scheme, rest)) :
    ∃ written, Spelling.IsScheme written ∧ text = written ++ ':' :: rest ∧
      scheme = Ascii.lower written := by
  rw [scheme?] at read
  split at read
  · rename_i letter more behind split
    obtain ⟨alpha, same⟩ := Option.ite_none_right_eq_some.mp read
    obtain ⟨rfl, rfl⟩ := Prod.mk.inj (Option.some.inj same)
    obtain ⟨whole, all, _⟩ := Text.span_eq_iff.mp split
    exact ⟨letter :: more, ⟨⟨letter, rfl, alpha⟩, all⟩, whole, rfl⟩
  · contradiction

theorem endsPath_of_isSchemeChar {c : Char} (inside : isSchemeChar c = true) :
    endsPath c = false := by
  refine Bool.eq_false_iff.mpr fun ends => ?_
  have cases : c = '?' ∨ c = '#' := by simpa [endsPath] using ends
  obtain rfl | rfl := cases <;> exact absurd inside (by decide)

/-- What the parser keeps of a written port: its number, which has sixteen bits, unless this is the
default one. -/
structure KeepsPort (scheme : List Char) (number? port : Option Nat) : Prop where
  bound : ∀ n ∈ number?, n ≤ 65535
  kept : port = if defaultPort? scheme = number? then none else number?

theorem keepsPort_none : KeepsPort scheme none none :=
  ⟨nofun, (ite_self none).symm⟩

theorem keepsPort_of_port? {port : Option Nat} (read : port? scheme text = some (port, rest))
    (plain : '\\' ∉ text) :
    rest = [] ∧ (∀ c ∈ text, c.isDigit = true) ∧ KeepsPort scheme (Decimal.toNat? text) port := by
  rw [port?] at read
  cases split : text.span Char.isDigit with
  | mk digits behind =>
    obtain ⟨rfl, all, _⟩ := Text.span_eq_iff.mp split
    simp only [split] at read
    obtain ⟨bound, read⟩ := Option.ite_none_left_eq_some.mp read
    obtain ⟨ends, same⟩ := Option.ite_none_right_eq_some.mp read
    obtain ⟨found, rfl⟩ := Prod.mk.inj (Option.some.inj same)
    have nothing : behind = [] := by
      obtain empty | bar := (Bool.or_eq_true _ _).mp ends
      · exact List.isEmpty_iff.mp empty
      · have head := List.mem_of_mem_head? (beq_iff_eq.mp bar)
        exact absurd (List.mem_append.mpr (.inr head)) plain
    subst nothing
    rw [List.append_nil]
    refine ⟨rfl, all, ?_⟩
    cases digits with
    | nil =>
      obtain rfl : none = port := found
      exact keepsPort_none
    | cons c digits =>
      have numeral := Decimal.isNumeral_iff.mpr ⟨List.cons_ne_nil c digits, all⟩
      rw [Decimal.toNat?, if_pos numeral, ← found]
      refine ⟨fun n same => ?_, ?_⟩
      · rw [← Option.some.inj same]
        exact Nat.not_lt.mp bound
      · simp only [List.isEmpty_cons, Bool.false_or, beq_iff_eq]

/-! ### Authorities -/

/-- What the parser has read from an authority. -/
structure Authority.Reads (a : Authority) (url : Url) : Prop where
  user : credentials (a.userinfo.getD []) = (url.username, url.password)
  host : hostOf? (isSpecial url.scheme) a.host = some url.host
  port : KeepsPort url.scheme a.number? url.port

/-- A URL that is read from an authority and a tail. -/
def FromAuthority (url : Url) (text : List Char) : Prop :=
  ∃ (a : Authority) (tail : List Char),
    text = a.text ++ tail ∧ a.IsWell ∧ Spelling.IsTail tail ∧ a.Reads url

theorem exists_userinfo {authority user hostPort : List Char}
    (cut : (Text.cutLast '@' authority).getD ([], authority) = (user, hostPort)) :
    ∃ userinfo : Option (List Char),
      authority = (userinfo.map (· ++ ['@'])).getD [] ++ hostPort ∧ userinfo.getD [] = user := by
  cases found : Text.cutLast '@' authority with
  | none =>
    rw [found] at cut
    obtain ⟨rfl, rfl⟩ := Prod.mk.inj cut
    exact ⟨none, rfl, rfl⟩
  | some parts =>
    rw [found] at cut
    obtain rfl : parts = (user, hostPort) := cut
    exact ⟨some user, by simpa using Text.append_of_cutLast found, rfl⟩

/-- A host that stands in a text. -/
theorem isWritten_of_hostOf? {special : Bool} {written : List Char} {host : Host}
    (read : hostOf? special written = some (some host)) : written ≠ [] ∧ Host.IsWritten written := by
  obtain ⟨found, accepted, same⟩ := Option.map_eq_some_iff.mp read
  obtain ⟨present, _⟩ := Option.ite_none_left_eq_some.mp same
  refine ⟨mt List.isEmpty_iff.mpr present, ?_⟩
  cases special with
  | true => exact Host.isWritten_of_ofSpecial? accepted
  | false => exact Host.isWritten_of_ofOpaque? accepted

theorem keepsPort_of_portAfter? {port : Option Nat} (read : portAfter? scheme text = some (port, rest))
    (colon : ∀ c ∈ text.head?, c = ':') (plain : '\\' ∉ text) :
    rest = [] ∧ ∃ digits : Option (List Char), text = (digits.map (':' :: ·)).getD [] ∧
      (∀ written ∈ digits, ∀ c ∈ written, c.isDigit = true) ∧
      KeepsPort scheme (digits.bind Decimal.toNat?) port := by
  cases text with
  | nil =>
    obtain ⟨rfl, rfl⟩ := Prod.mk.inj (Option.some.inj read)
    exact ⟨rfl, none, rfl, nofun, keepsPort_none⟩
  | cons c text =>
    obtain rfl := colon c rfl
    obtain ⟨nothing, digit, kept⟩ := keepsPort_of_port? read fun member =>
      plain (List.mem_cons_of_mem _ member)
    refine ⟨nothing, some text, rfl, ?_, kept⟩
    rintro written shape
    obtain rfl := Option.some.inj shape
    exact digit

/-- The parts that an authority is cut into, and the URL that is made of them. -/
theorem exists_parts_of_ofAuthority? (read : ofAuthority? scheme text = some url) :
    ∃ (userinfo : Option (List Char)) (written after : List Char) (host : Option Host)
      (port : Option Nat) (rest tail : List Char),
      text.span (!endsAuthority (isSpecial scheme) ·) =
        ((userinfo.map (· ++ ['@'])).getD [] ++ (written ++ after), tail) ∧
      (∀ c ∈ after.head?, c = ':') ∧ hostOf? (isSpecial scheme) written = some host ∧
      portAfter? scheme after = some (port, rest) ∧
      url = withAuthority scheme (userinfo.getD []) host port (rest ++ tail) := by
  rw [ofAuthority?] at read
  cases split : text.span (!endsAuthority (isSpecial scheme) ·) with
  | mk authority tail =>
    cases cut : (Text.cutLast '@' authority).getD ([], authority) with
    | mk user hostPort =>
      cases hosted : writtenHost false hostPort with
      | mk written after =>
        simp only [split, cut, hosted] at read
        obtain ⟨_, read⟩ := Option.ite_none_left_eq_some.mp read
        split at read
        case h_2 => contradiction
        rename_i host port rest hostRead portRead
        obtain ⟨_, same⟩ := Option.ite_none_left_eq_some.mp read
        obtain ⟨userinfo, rfl, rfl⟩ := exists_userinfo cut
        obtain ⟨rfl, colon⟩ := append_of_writtenHost hosted
        exact ⟨userinfo, written, after, host, port, rest, tail, rfl, colon, hostRead, portRead,
          (Option.some.inj same).symm⟩

theorem fromAuthority_of_ofAuthority? (read : ofAuthority? scheme text = some url)
    (host : url.host.isSome = true) (plain : hasBackslash text = false) :
    url.scheme = scheme ∧ url.FromAuthority text := by
  obtain ⟨userinfo, written, after, found, port, rest, tail, split, colon, hostRead, portRead, rfl⟩ :=
    exists_parts_of_ofAuthority? read
  obtain ⟨_, rfl⟩ := Option.isSome_iff_exists.mp host
  obtain ⟨rfl, noBar, inside, ends⟩ := span_endsAuthority split plain
  have noBarBehind : '\\' ∉ after := fun member => noBar (by simp [member])
  obtain ⟨rfl, digits, rfl, digit, kept⟩ := keepsPort_of_portAfter? portRead colon noBarBehind
  obtain ⟨present, hostWritten⟩ := isWritten_of_hostOf? hostRead
  refine ⟨rfl, ⟨userinfo, written, digits⟩, tail, rfl, ⟨?_, present, hostWritten, digit⟩, ends,
    ⟨rfl, hostRead, kept⟩⟩
  rintro user rfl c member
  exact inside c (by simp [member])

/-! ### URLs -/

theorem hostOf?_of_fileHost? {written : List Char} {host : Host}
    (read : fileHost? written = some (some host)) : hostOf? true written = some (some host) := by
  rw [fileHost?] at read
  split at read
  · exact absurd (Option.some.inj read) nofun
  · rename_i present
    obtain ⟨found, accepted, same⟩ := Option.map_eq_some_iff.mp read
    obtain ⟨_, same⟩ := Option.ite_none_left_eq_some.mp same
    obtain rfl := Option.some.inj same
    rw [hostOf?, if_pos rfl, accepted]
    exact congrArg some (if_neg present)

theorem fromAuthority_of_ofFileHost? (read : ofFileHost? "file".toList text = some url)
    (host : url.host.isSome = true) (plain : hasBackslash text = false) :
    url.scheme = "file".toList ∧ url.FromAuthority text := by
  rw [ofFileHost?] at read
  cases split : text.span (!endsAuthority true ·) with
  | mk written tail =>
    simp only [split] at read
    split at read
    · obtain rfl := Option.some.inj read
      contradiction
    · obtain ⟨found, hostRead, rfl⟩ := Option.map_eq_some_iff.mp read
      dsimp only at host
      split at host
      · contradiction
      · rename_i drive
        obtain ⟨found, rfl⟩ := Option.isSome_iff_exists.mp host
        obtain ⟨rfl, _, _, ends⟩ := span_endsAuthority split plain
        have special := hostOf?_of_fileHost? hostRead
        obtain ⟨present, hostWritten⟩ := isWritten_of_hostOf? special
        refine ⟨rfl, ⟨none, written, none⟩, tail, ?_, ⟨nofun, present, hostWritten, nofun⟩, ends,
          ⟨rfl, special.trans (congrArg some (if_neg drive).symm), keepsPort_none⟩⟩
        exact congrArg (· ++ tail) (List.append_nil written).symm

/-- How a URL is read from what follows its scheme: as a path, or from an authority behind slashes. -/
inductive ReadFrom (scheme rest : List Char) (url : Url) : Prop
  | path (same : url = ofPath scheme rest)
  | authority (slashes after : List Char) (shape : rest = slashes ++ after)
      (slash : ∀ c ∈ slashes, isSlash true c = true)
      (count : slashes.length = 2 ∨ (defaultPort? scheme).isSome = true)
      (read : ofAuthority? scheme after = some url ∨
        scheme = "file".toList ∧ ofFileHost? scheme after = some url)

theorem readFrom_of_parse? (read : parse? text = some url) :
    ∃ written rest, Spelling.IsScheme written ∧ clean text = written ++ ':' :: rest ∧
      ReadFrom (Ascii.lower written) rest url := by
  obtain ⟨⟨scheme, rest⟩, schemeRead, read⟩ := Option.bind_eq_some_iff.mp read
  obtain ⟨written, valid, shape, rfl⟩ := exists_scheme schemeRead
  refine ⟨written, rest, valid, shape, ?_⟩
  dsimp only at read
  split at read
  · rename_i file
    split at read
    · rename_i first second after
      split at read
      · rename_i slashes
        refine .authority [first, second] after rfl ?_ (.inl rfl) (.inr ⟨beq_iff_eq.mp file, read⟩)
        simpa [Bool.and_eq_true] using slashes
      · exact .path (Option.some.inj read).symm
    · exact .path (Option.some.inj read).symm
  · rename_i other
    split at read
    · rename_i special
      refine .authority (rest.takeWhile (isSlash true)) _ List.takeWhile_append_dropWhile.symm
        (fun c member => List.mem_takeWhile_imp member) (.inr ?_) (.inl read)
      exact ((Bool.or_eq_true _ _).mp special).resolve_right other
    · split at read
      · exact .authority ['/', '/'] _ rfl (List.all_eq_true.mp rfl) (.inl rfl) (.inl read)
      · exact .path (Option.some.inj read).symm

/-- How a text spells the URL that is read from it. -/
structure Spelling.Spells (s : Spelling) (text : List Char) (url : Url) : Prop where
  text : s.text = text
  well : s.IsWell
  scheme : url.scheme = Ascii.lower s.scheme
  authority : s.authority.Reads url

/-- What the scheme of a special URL leaves is read after its slashes, whatever their number. -/
theorem exists_spelling (read : parse? text = some url) (host : url.host.isSome = true)
    (bar : hasBackslash text = false) (blanks : hasBlanks text = false) :
    ∃ s : Spelling, s.Spells text url := by
  obtain ⟨written, rest, valid, shape, read⟩ := readFrom_of_parse? read
  rw [clean_eq_self blanks] at shape
  have inside : ∀ c ∈ written ++ [':'], endsPath c = false := by
    intro c member
    obtain first | colon := List.mem_append.mp member
    · exact endsPath_of_isSchemeChar (valid.all c first)
    · rw [List.mem_singleton.mp colon]
      rfl
  rw [shape, List.append_cons] at bar
  have plain := (hasBackslash_append inside bar).2
  cases read with
  | path same =>
    rw [same] at host
    contradiction
  | authority slashes after parted slash count read =>
    rw [parted] at plain
    obtain ⟨row, plain⟩ := replicate_of_isSlash slash plain
    have made : url.scheme = Ascii.lower written ∧ url.FromAuthority after := by
      obtain read | ⟨file, read⟩ := read
      · exact fromAuthority_of_ofAuthority? read host plain
      · rw [file] at read ⊢
        exact fromAuthority_of_ofFileHost? read host plain
    obtain ⟨same, a, tail, rfl, well, ends, reads⟩ := made
    refine ⟨⟨written, slashes.length, a, tail⟩, ?_, ⟨valid, count, well, ends⟩, same, reads⟩
    rw [shape, parted, Spelling.text, Spelling.behind, ← row]

end EnvTemplate.Url
