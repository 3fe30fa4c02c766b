import EnvTemplate.Proofs.Url.Reading
/-! The port among the parts of a URL. The parser leaves out a default port, so the text is searched for
one. The search finds the authority of a URL with two slashes; a special URL may have fewer of them, or
more, and then it looks in another place. -/
namespace EnvTemplate.Url

variable {text front rest : List Char} {parts : Entries Value}

/-! ### The search in an authority -/

theorem endsWithPort_of_notMem (absent : ']' ∉ front) :
    endsWithPort front = (Text.cutLast ':' front).any fun (_, port) => !port.isEmpty := by
  rw [endsWithPort, Text.cutLast_eq_none absent]
  rfl

theorem endsWithPort_brackets (absent : ']' ∉ rest) :
    endsWithPort (front ++ ']' :: rest) = endsWithPort rest := by
  rw [endsWithPort_of_notMem absent, endsWithPort, Text.cutLast_append absent]
  rfl

theorem takeWhile_authority (inside : ∀ c ∈ front, endsAuthority false c = false)
    (ends : Spelling.IsTail rest) :
    ((front ++ rest).takeWhile fun c => c != '/' && c != '?' && c != '#') = front := by
  have test (c : Char) : (c != '/' && c != '?' && c != '#') = !endsAuthority false c := by
    simp [endsAuthority, isSlash, bne]
  refine Text.takeWhile_append (fun c member => ?_) (fun c first => ?_)
  · rw [test, inside c member]
    rfl
  · rw [test, ends c first]
    rfl

namespace Authority
variable {a : Authority} {tail : List Char}

theorem isSome_number? {digits : List Char} (written : a.port = some digits)
    (digit : ∀ c ∈ digits, c.isDigit = true) : a.number?.isSome = !digits.isEmpty := by
  rw [number?, written, Option.bind_some, Decimal.toNat?, Decimal.isNumeral,
    List.all_eq_true.mpr digit, Bool.and_true]
  cases digits <;> rfl

/-- Behind any text that ends in no bracket a port is found. Without a port it is the text that counts. -/
theorem IsWell.endsWithPort_portText (well : a.IsWell) (absent : ']' ∉ front) :
    endsWithPort (front ++ a.portText) =
      if a.port.isSome then a.number?.isSome else endsWithPort front := by
  cases written : a.port with
  | none =>
    rw [portText, written, Option.map_none, Option.getD_none, List.append_nil]
    rfl
  | some digits =>
    have digit := well.port digits written
    have bracket : ']' ∉ digits := fun member => absurd (digit _ member) (by decide)
    have colon : ':' ∉ digits := fun member => absurd (digit _ member) (by decide)
    have whole : ']' ∉ front ++ ':' :: digits := by simp [absent, bracket]
    rw [portText, written, isSome_number? written digit]
    refine (endsWithPort_of_notMem whole).trans ?_
    rw [Text.cutLast_append colon]
    rfl

theorem number?_eq_none (absent : a.port.isSome = false) : a.number? = none := by
  rw [number?, Option.not_isSome_iff_eq_none.mp (Bool.eq_false_iff.mp absent)]
  rfl

/-- What stands before a host does not matter if a port or a bracket follows. -/
theorem IsWell.endsWithPort_append (well : a.IsWell) (absent : ']' ∉ front)
    (closed : a.port.isSome = true ∨ ']' ∈ a.host) :
    endsWithPort (front ++ a.hostPort) = a.number?.isSome := by
  obtain ⟨inner, brackets, _⟩ | plain := well.host
  · have last : ']' ∉ a.portText := fun member =>
      absurd (well.isDelimiter_of_mem_portText _ member (by decide)) (by decide)
    have shape : front ++ a.hostPort = (front ++ '[' :: inner) ++ ']' :: a.portText := by
      simp [hostPort, brackets]
    have behind := well.endsWithPort_portText (@List.not_mem_nil _ ']')
    rw [List.nil_append] at behind
    rw [shape, endsWithPort_brackets last, behind]
    split
    · rfl
    · rename_i none
      rw [number?_eq_none (Bool.eq_false_iff.mpr none)]
      rfl
  · have noBracket : ']' ∉ a.host := fun member => absurd (plain _ member) (by decide)
    have none : ']' ∉ front ++ a.host := by simp [absent, noBracket]
    rw [hostPort, ← List.append_assoc, well.endsWithPort_portText none,
      if_pos (closed.resolve_right noBracket)]

/-- Else the text counts that the host ends. -/
theorem endsWithPort_append_open (none : a.port = none) (absent : ']' ∉ front ++ a.host) :
    endsWithPort (front ++ a.hostPort) =
      (Text.cutLast ':' (front ++ a.host)).any fun (_, port) => !port.isEmpty := by
  rw [hostPort, portText, none, Option.map_none, Option.getD_none, List.append_nil,
    endsWithPort_of_notMem absent]

theorem IsWell.endsWithPort_hostPort (well : a.IsWell) :
    endsWithPort a.hostPort = a.number?.isSome := by
  by_cases closed : a.port.isSome = true ∨ ']' ∈ a.host
  · exact well.endsWithPort_append List.not_mem_nil closed
  · obtain ⟨portless, noBracket⟩ := not_or.mp closed
    have none := Option.not_isSome_iff_eq_none.mp portless
    have noColon : ':' ∉ a.host := well.host.plain noBracket (by decide)
    refine (@endsWithPort_append_open [] a none noBracket).trans ?_
    rw [number?_eq_none (Bool.eq_false_iff.mpr portless), List.nil_append,
      Text.cutLast_eq_none noColon]
    rfl

/-- A colon before a host makes a port of it, unless a port or a bracket follows. -/
theorem IsWell.endsWithPort_colon (well : a.IsWell) (absent : ']' ∉ front ++ [':']) :
    endsWithPort (front ++ [':'] ++ a.hostPort) =
      (a.number?.isSome || (a.port.isNone && !a.host.contains ']')) := by
  by_cases closed : a.port.isSome = true ∨ ']' ∈ a.host
  · rw [well.endsWithPort_append absent closed]
    obtain port | bracket := closed
    · rw [Option.isNone_eq_false_iff.mpr port, Bool.false_and, Bool.or_false]
    · rw [List.contains_iff_mem.mpr bracket, Bool.not_true, Bool.and_false, Bool.or_false]
  · obtain ⟨portless, plain⟩ := not_or.mp closed
    have none := Option.not_isSome_iff_eq_none.mp portless
    have noColon : ':' ∉ a.host := well.host.plain plain (by decide)
    have whole : ']' ∉ front ++ [':'] ++ a.host :=
      fun member => (List.mem_append.mp member).elim absent plain
    rw [endsWithPort_append_open none whole, ← List.append_cons, Text.cutLast_append noColon]
    simp [well.present, none, plain]

/-- What the search finds in an authority is its port. -/
theorem IsWell.opensWithPort_text (well : a.IsWell) (ends : Spelling.IsTail tail) :
    opensWithPort (a.text ++ tail) = a.number?.isSome := by
  rw [opensWithPort, takeWhile_authority well.endsAuthority_text ends, well.cutLast_text,
    ← well.endsWithPort_hostPort, text]
  cases a.userinfo <;> rfl

end Authority

/-! ### The search in a text -/

theorem writesPort_of_found (found : Text.cutPattern "://".toList text = some (front, rest)) :
    writesPort text = opensWithPort rest := by
  rw [writesPort, found]
  rfl

theorem writesPort_of_absent (absent : Text.cutPattern "://".toList text = none) :
    writesPort text = opensWithPort text := by
  rw [writesPort, absent]
  rfl

/-- A text that shows a port where the search looks for one: at the end of what stands before the first
slash, question mark or number sign, with a colon before it and neither an at sign nor a bracket in it. -/
def ShowsPort (text : List Char) : Prop :=
  ∃ port, port ≠ [] ∧ (∀ c ∈ [':', ']', '@'], c ∉ port) ∧
    ':' :: port <:+ text.takeWhile (!endsAuthority false ·)

theorem endsWithPort_iff :
    endsWithPort text = true ↔
      ∃ port, port ≠ [] ∧ ':' ∉ port ∧ ']' ∉ port ∧ ':' :: port <:+ text := by
  rw [endsWithPort]
  constructor
  · intro found
    cases cut : Text.cutLast ':' (((Text.cutLast ']' text).map Prod.snd).getD text) with
    | none => simp [cut] at found
    | some halves =>
      obtain ⟨front, port⟩ := halves
      have shape := Text.append_of_cutLast cut
      have nonempty : port ≠ [] := by simpa [cut] using found
      have ends : ':' :: port <:+ _ := ⟨front, shape.symm⟩
      have bracket : ']' ∉ ':' :: port := fun member =>
        Text.notMem_behindLast (ends.mem member)
      have colon : ':' ∉ port := by
        have last := @Text.notMem_behindLast _ _ ':' (((Text.cutLast ']' text).map Prod.snd).getD text)
        rwa [cut] at last
      exact ⟨port, nonempty, colon, List.not_mem_of_not_mem_cons bracket,
        (Text.suffix_behindLast_iff bracket).mp ends⟩
  · rintro ⟨port, nonempty, colon, bracket, ends⟩
    have absent : ']' ∉ ':' :: port := by simp [bracket]
    obtain ⟨front, shape⟩ := (Text.suffix_behindLast_iff absent).mpr ends
    rw [← shape, Text.cutLast_append colon]
    cases port with
    | nil => contradiction
    | cons => rfl

theorem opensWithPort_iff : opensWithPort text = true ↔ ShowsPort text := by
  have front : (text.takeWhile fun c => c != '/' && c != '?' && c != '#') =
      text.takeWhile (!endsAuthority false ·) := by
    congr 1
    funext c
    simp [endsAuthority, isSlash, bne]
  rw [opensWithPort, front, endsWithPort_iff, ShowsPort]
  refine exists_congr fun port => and_congr_right fun _ => ?_
  constructor
  · rintro ⟨colon, bracket, ends⟩
    have sign : '@' ∉ ':' :: port := fun member => Text.notMem_behindLast (ends.mem member)
    refine ⟨?_, (Text.suffix_behindLast_iff sign).mp ends⟩
    simpa [colon, bracket] using sign
  · rintro ⟨absent, ends⟩
    simp only [List.forall_mem_cons] at absent
    obtain ⟨colon, bracket, at_, _⟩ := absent
    have sign : '@' ∉ ':' :: port := by simp [at_]
    exact ⟨colon, bracket, (Text.suffix_behindLast_iff sign).mpr ends⟩

namespace Spelling
variable {s : Spelling}

theorem IsWell.notMem_scheme (well : s.IsWell) {c : Char} (delimiter : isDelimiter c = true) :
    c ∉ s.scheme := by
  intro member
  have other : isSchemeChar c = false := not_of_isDelimiter (by decide) delimiter
  exact Bool.eq_false_iff.mp other (well.scheme.all c member)

theorem IsWell.endsAuthority_scheme (well : s.IsWell) :
    ∀ c ∈ s.scheme ++ [':'], endsAuthority false c = false := by
  intro c member
  refine Bool.eq_false_iff.mpr fun ends => ?_
  obtain ⟨delimiter, outside⟩ := isDelimiter_of_endsAuthority ends
  obtain first | colon := List.mem_append.mp member
  · exact well.notMem_scheme delimiter first
  · rw [List.mem_singleton.mp colon] at outside
    exact outside (by decide)

/-- With two slashes and more the search begins behind the first two. -/
theorem IsWell.writesPort_of_slashes (well : s.IsWell) (more : Nat) (count : s.slashes = more + 2) :
    writesPort s.text =
      opensWithPort (List.replicate more '/' ++ (s.authority.text ++ s.tail)) := by
  have shape : s.text =
      s.scheme ++ ("://".toList ++ (List.replicate more '/' ++ (s.authority.text ++ s.tail))) := by
    rw [text, behind, count]
    rfl
  rw [shape]
  exact writesPort_of_found (Text.cutPattern_append (well.notMem_scheme (by decide)))

theorem IsWell.writesPort_of_two_slashes (well : s.IsWell) (two : s.slashes = 2) :
    writesPort s.text = s.authority.number?.isSome :=
  (well.writesPort_of_slashes 0 two).trans (well.authority.opensWithPort_text well.tail)

/-- A third slash hides the authority from the search. -/
theorem IsWell.writesPort_of_more_slashes (well : s.IsWell) (many : 2 < s.slashes) :
    writesPort s.text = false := by
  obtain ⟨more, count⟩ := Nat.exists_eq_add_of_lt many
  rw [well.writesPort_of_slashes (more + 1) (by omega)]
  rfl

/-- With one slash it is the scheme that is searched. -/
theorem IsWell.writesPort_of_one_slash (well : s.IsWell) (one : s.slashes = 1)
    (absent : Text.cutPattern "://".toList s.text = none) : writesPort s.text = false := by
  have shape : s.text = s.scheme ++ [':'] ++ '/' :: (s.authority.text ++ s.tail) := by
    rw [text, behind, one, ← List.append_cons]
    rfl
  have noAt : '@' ∉ s.scheme ++ [':'] := by simp [well.notMem_scheme (c := '@') (by decide)]
  have noBracket : ']' ∉ s.scheme ++ [':'] := by simp [well.notMem_scheme (c := ']') (by decide)]
  have ends : IsTail ('/' :: (s.authority.text ++ s.tail)) := fun c first => by
    rw [← Option.some.inj first]
    rfl
  rw [writesPort_of_absent absent, shape, opensWithPort,
    takeWhile_authority well.endsAuthority_scheme ends, Text.cutLast_eq_none noAt]
  refine (endsWithPort_of_notMem noBracket).trans ?_
  rw [Text.cutLast_append List.not_mem_nil]
  rfl

/-- Without slashes the scheme counts as a host, unless the host has a user before it, brackets, or a
port behind it. -/
theorem IsWell.writesPort_of_no_slash (well : s.IsWell) (zero : s.slashes = 0)
    (absent : Text.cutPattern "://".toList s.text = none) :
    writesPort s.text = (s.authority.number?.isSome ||
      (s.authority.userinfo.isNone && s.authority.port.isNone && !s.authority.host.contains ']')) := by
  have shape : s.text = s.scheme ++ [':'] ++ s.authority.text ++ s.tail := by
    rw [text, behind, zero, ← List.append_cons, List.append_assoc]
    rfl
  have inside : ∀ c ∈ s.scheme ++ [':'] ++ s.authority.text, endsAuthority false c = false := by
    intro c member
    obtain first | later := List.mem_append.mp member
    · exact well.endsAuthority_scheme c first
    · exact well.authority.endsAuthority_text c later
  have noAt : '@' ∉ s.authority.hostPort := well.authority.notMem_hostPort (by decide) (by decide)
  rw [writesPort_of_absent absent, shape, opensWithPort, takeWhile_authority inside well.tail,
    Authority.text]
  cases s.authority.userinfo with
  | some user =>
    have cut : Text.cutLast '@' (s.scheme ++ [':'] ++ (user ++ ['@'] ++ s.authority.hostPort)) =
        some (s.scheme ++ [':'] ++ user, s.authority.hostPort) := by
      rw [← Text.cutLast_append noAt]
      simp
    rw [Option.map_some, Option.getD_some, cut, Option.isNone_some, Bool.false_and, Bool.false_and,
      Bool.or_false]
    exact well.authority.endsWithPort_hostPort
  | none =>
    have noAt : '@' ∉ s.scheme ++ [':'] ++ s.authority.hostPort := by
      simp [noAt, well.notMem_scheme (c := '@') (by decide)]
    have noBracket : ']' ∉ s.scheme ++ [':'] := by simp [well.notMem_scheme (c := ']') (by decide)]
    rw [Option.map_none, Option.getD_none, List.nil_append, Text.cutLast_eq_none noAt,
      Option.isNone_none, Bool.true_and]
    exact well.authority.endsWithPort_colon noBracket

end Spelling

/-! ### The port of a spelling -/

def portValue : Option Nat → Value
  | some n => .int (.ofNat n)
  | none => .null

namespace Spelling
variable (s : Spelling)

def port : Value :=
  portValue s.authority.number?

def defaultPort? : Option Nat :=
  Url.defaultPort? (Ascii.lower s.scheme)

/-- Whether the parser leaves a port open: the scheme has a default one, and none else is written. -/
def LeavesOpen : Prop :=
  s.defaultPort?.isSome = true ∧ ∀ n ∈ s.authority.number?, s.defaultPort? = some n

/-- Whether the search decides wrongly on a port that the parser leaves open. -/
def Misleads : Prop :=
  s.LeavesOpen ∧ writesPort s.text ≠ s.authority.number?.isSome

variable {s} {url : Url}

theorem IsWell.isSome_defaultPort? (well : s.IsWell) (other : s.slashes ≠ 2) :
    s.defaultPort?.isSome = true :=
  well.slashes.resolve_left other

/-- Where no port is found, a written default port is lost. -/
theorem misleads_iff_of_not_found (default : s.defaultPort?.isSome = true)
    (missed : writesPort s.text = false) : s.Misleads ↔ s.authority.number? = s.defaultPort? := by
  obtain ⟨n, known⟩ := Option.isSome_iff_exists.mp default
  rw [Misleads, LeavesOpen, missed, known]
  cases s.authority.number? <;> simp [eq_comm]

theorem IsWell.misleads_of_more_slashes (well : s.IsWell) (many : 2 < s.slashes) :
    s.Misleads ↔ s.authority.number? = s.defaultPort? :=
  misleads_iff_of_not_found (well.isSome_defaultPort? (Nat.ne_of_gt many))
    (well.writesPort_of_more_slashes many)

theorem IsWell.misleads_of_one_slash (well : s.IsWell) (one : s.slashes = 1)
    (absent : Text.cutPattern "://".toList s.text = none) :
    s.Misleads ↔ s.authority.number? = s.defaultPort? :=
  misleads_iff_of_not_found (well.isSome_defaultPort? (by omega))
    (well.writesPort_of_one_slash one absent)

/-- Without slashes a host alone gets the default port. -/
theorem IsWell.misleads_of_no_slash (well : s.IsWell) (zero : s.slashes = 0)
    (absent : Text.cutPattern "://".toList s.text = none) :
    s.Misleads ↔ s.authority.userinfo = none ∧ s.authority.port = none ∧ ']' ∉ s.authority.host := by
  rw [Misleads, well.writesPort_of_no_slash zero absent]
  constructor
  · rintro ⟨_, wrong⟩
    cases known : s.authority.number? with
    | none => simpa [known] using wrong
    | some n => simp [known] at wrong
  · rintro ⟨user, port, bracket⟩
    have unknown : s.authority.number? = none := by rw [Authority.number?, port]; rfl
    refine ⟨⟨well.isSome_defaultPort? (by omega), by simp [unknown]⟩, ?_⟩
    simp [user, port, bracket, unknown]

/-- With fewer slashes a later colon that two slashes follow leads the search away. -/
theorem IsWell.misleads_of_found (well : s.IsWell) (few : s.slashes < 2)
    (found : Text.cutPattern "://".toList s.text = some (front, rest)) :
    s.Misleads ↔ s.authority.number? = none ∧ ShowsPort rest ∨
      s.authority.number? = s.defaultPort? ∧ ¬ ShowsPort rest := by
  obtain ⟨n, known⟩ := Option.isSome_iff_exists.mp (well.isSome_defaultPort? (by omega))
  rw [Misleads, LeavesOpen, writesPort_of_found found, known, ← opensWithPort_iff]
  cases s.authority.number? <;> cases opensWithPort rest <;> simp [eq_comm]

/-- The ways in which the search decides wrongly on a port. -/
inductive IsMisread (s : Spelling) : Prop
  /-- A written default port is lost where a slash ends the authority too early. -/
  | hidden : 2 < s.slashes ∨ s.slashes = 1 ∧ Text.cutPattern "://".toList s.text = none →
      s.authority.number? = s.defaultPort? → IsMisread s
  /-- A host that follows the colon of its scheme is taken for a port. -/
  | host : s.slashes = 0 → Text.cutPattern "://".toList s.text = none →
      s.authority.userinfo = none → s.authority.port = none → ']' ∉ s.authority.host → IsMisread s
  /-- What follows a later colon shows a port, and none is written. -/
  | invented {front rest : List Char} : s.slashes < 2 →
      Text.cutPattern "://".toList s.text = some (front, rest) → s.authority.number? = none →
      ShowsPort rest → IsMisread s
  /-- What follows a later colon shows no port, and the default one is written. -/
  | lost {front rest : List Char} : s.slashes < 2 →
      Text.cutPattern "://".toList s.text = some (front, rest) →
      s.authority.number? = s.defaultPort? → ¬ ShowsPort rest → IsMisread s

/-- Where the search goes wrong can be told by the spelling. -/
theorem IsWell.misleads_iff (well : s.IsWell) : s.Misleads ↔ s.IsMisread := by
  constructor
  · intro misled
    have other : s.slashes ≠ 2 := fun two => misled.2 (well.writesPort_of_two_slashes two)
    obtain few | many := Nat.lt_or_gt_of_ne other
    · cases cut : Text.cutPattern "://".toList s.text with
      | some halves =>
        obtain ⟨none, shows⟩ | ⟨default, hides⟩ := (well.misleads_of_found few cut).mp misled
        · exact .invented few cut none shows
        · exact .lost few cut default hides
      | none =>
        obtain zero | one : s.slashes = 0 ∨ s.slashes = 1 := by omega
        · obtain ⟨user, port, bracket⟩ := (well.misleads_of_no_slash zero cut).mp misled
          exact .host zero cut user port bracket
        · exact .hidden (.inr ⟨one, cut⟩) ((well.misleads_of_one_slash one cut).mp misled)
    · exact .hidden (.inl many) ((well.misleads_of_more_slashes many).mp misled)
  · intro misread
    cases misread with
    | hidden shape default =>
      obtain many | ⟨one, absent⟩ := shape
      · exact (well.misleads_of_more_slashes many).mpr default
      · exact (well.misleads_of_one_slash one absent).mpr default
    | host zero absent user port bracket =>
      exact (well.misleads_of_no_slash zero absent).mpr ⟨user, port, bracket⟩
    | invented few cut none shows =>
      exact (well.misleads_of_found few cut).mpr (.inl ⟨none, shows⟩)
    | lost few cut default hides =>
      exact (well.misleads_of_found few cut).mpr (.inr ⟨default, hides⟩)

/-- The port among the parts is the written one unless the search is misled. -/
theorem Spells.portValue_eq_iff {text : List Char} (spells : s.Spells text url) :
    portValue (url.explicitPort? text) = s.port ↔ ¬ s.Misleads := by
  have kept := spells.authority.port.kept
  rw [spells.scheme, ← defaultPort?] at kept
  rw [port, Misleads, LeavesOpen, spells.text, explicitPort?, spells.scheme, ← defaultPort?, kept]
  cases written : s.authority.number? with
  | none =>
    cases known : s.defaultPort? <;> cases writesPort text <;> simp [portValue]
  | some n =>
    by_cases same : s.defaultPort? = some n
    · cases writesPort text <;> simp [same, portValue]
    · simp [same]

end Spelling

theorem get?_port_parts (url : Url) (host text : List Char) :
    Entries.get? (url.parts host text) "port" = some (portValue (url.explicitPort? text)) :=
  rfl

/-- What a text with parts is made of. -/
theorem exists_of_decompose (accepted : decompose text = .ok parts) :
    ∃ (url : Url) (host : Host), parse? text = some url ∧ url.host = some host ∧
      hasBackslash text = false ∧ hasBlanks text = false ∧ parts = url.parts host.text text := by
  rw [decompose] at accepted
  split at accepted
  · contradiction
  · rename_i url read
    split at accepted
    · contradiction
    · rename_i host found
      split at accepted
      · contradiction
      · rename_i bar
        split at accepted
        · contradiction
        · rename_i blanks
          exact ⟨url, host, read, found, Bool.eq_false_iff.mpr bar, Bool.eq_false_iff.mpr blanks,
            (Except.ok.inj accepted).symm⟩

/-- The port among the parts of a text is the one that the text writes, be it the default of its scheme,
wherever two slashes stand behind the scheme. Elsewhere it is so unless the search is misled, which can
be told by the spelling. -/
theorem port_of_decompose (accepted : decompose text = .ok parts) :
    ∃ (url : Url) (s : Spelling), parse? text = some url ∧ s.Spells text url ∧
      (s.slashes = 2 → Entries.get? parts "port" = some s.port) ∧
      (Entries.get? parts "port" = some s.port ↔ ¬ s.Misleads) ∧ (s.Misleads ↔ s.IsMisread) := by
  obtain ⟨url, host, read, found, bar, blanks, rfl⟩ := exists_of_decompose accepted
  obtain ⟨s, spells⟩ := exists_spelling read (Option.isSome_iff_exists.mpr ⟨host, found⟩) bar blanks
  have exact : Entries.get? (url.parts host.text text) "port" = some s.port ↔ ¬ s.Misleads := by
    rw [get?_port_parts, Option.some_inj, spells.portValue_eq_iff]
  refine ⟨url, s, read, spells, fun two => exact.mpr fun misled => misled.2 ?_, exact,
    spells.well.misleads_iff⟩
  exact spells.well.writesPort_of_two_slashes two

/-- A default port behind a user and an address, with a leading zero, and another URL in the query. -/
theorem port_of_decompose_default :
    ∃ parts, decompose "HTTP://u:p@[::1]:080/x?y://z:1".toList = .ok parts ∧
      Entries.get? parts "port" = some (.int 80) := by
  have accepted : decompose "HTTP://u:p@[::1]:080/x?y://z:1".toList =
      .ok [("scheme", .string "http"), ("host", .string "[::1]"), ("port", .int 80),
        ("user", .string "u"), ("pass", .string "p"), ("path", .string "x"),
        ("query", .string "y://z:1"), ("fragment", .null)] := by rfl
  have address : ∀ c ∈ "::1".toList, isDelimiter c = true → c = ':' := by
    intro c member delimiter
    obtain rfl | rfl : c = ':' ∨ c = '1' := by simpa using member
    · rfl
    · contradiction
  have authority : Authority.IsWell ⟨"u:p".toList, "[::1]".toList, "080".toList⟩ := by
    refine ⟨?_, by decide, .inl ⟨"::1".toList, rfl, address⟩, ?_⟩
    · intro user same
      obtain rfl := Option.some.inj same
      exact fun c member => Bool.eq_false_iff.mpr (List.any_eq_false.mp rfl c member)
    · intro digits same
      obtain rfl := Option.some.inj same
      exact List.all_eq_true.mp rfl
  obtain ⟨url, s, _, spells, two, _⟩ := port_of_decompose accepted
  have same : s = ⟨"HTTP".toList, 2, ⟨"u:p".toList, "[::1]".toList, "080".toList⟩,
      "/x?y://z:1".toList⟩ :=
    spells.well.eq_of_text_eq
      { scheme := ⟨⟨'H', rfl, rfl⟩, List.all_eq_true.mp rfl⟩
        slashes := .inl rfl
        authority
        tail := fun c first => by rw [← Option.some.inj first]; rfl } spells.text
  have port : s.port = .int 80 := by rw [same]; rfl
  exact ⟨_, accepted, by rw [two (by rw [same]), port]⟩

/-- A host without slashes before it is taken for a port. -/
theorem port_of_no_slash :
    ∃ (s : Spelling) (parts : Entries Value), s.IsWell ∧ s.text = "http:example.com".toList ∧
      decompose s.text = .ok parts ∧ Entries.get? parts "port" ≠ some s.port := by
  have plain : ∀ c ∈ "example.com".toList, isDelimiter c = false :=
    fun c member => Bool.eq_false_iff.mpr (List.any_eq_false.mp rfl c member)
  exact ⟨⟨"http".toList, 0, ⟨none, "example.com".toList, none⟩, []⟩,
    [("scheme", .string "http"), ("host", .string "example.com"), ("port", .int 80),
      ("user", .null), ("pass", .null), ("path", .string ""), ("query", .null), ("fragment", .null)],
    { scheme := ⟨⟨'h', rfl, rfl⟩, List.all_eq_true.mp rfl⟩
      slashes := .inr rfl
      authority := ⟨nofun, by decide, .inr plain, nofun⟩
      tail := nofun }, rfl, by rfl, nofun⟩

end EnvTemplate.Url
