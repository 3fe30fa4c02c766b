import EnvTemplate.Resolve
import Mathlib.Data.List.Basic
/-! Chains of steps and the parts that stand for them. A heap is parsed exactly if its parts are the
tokens of a chain, and then no other chain has these tokens. Any other heap is refused for a fault in
its parts, whatever heap the error names. -/
namespace EnvTemplate

/-- Steps that may follow the first one: they work on the value that they are given. -/
def Step.IsLink (s : Step) : Prop :=
  match s.modifier.arity with
  | .lonely | .nameBearing => s.argument = none
  | .dualArgument => s.argument.isSome = true
  | .mandatoryArgument => False

/-- Steps that a chain may start from: they work on their argument. -/
def Step.IsOrigin (s : Step) : Prop :=
  s.modifier.isSource = true ∧ s.argument.isSome = true

namespace Heap

/-- A chain in the order in which its steps run. -/
def IsChain : List Step → Prop
  | [] => False
  | first :: rest => first.IsOrigin ∧ ∀ s ∈ rest, s.IsLink

/-- The parts that stand for steps, which come in the order in which they run. -/
def tokensOf (steps : List Step) : List String :=
  steps.reverse.flatMap Step.tokens

/-- Whether the parts of a heap are the tokens of a chain. -/
def Spells (heap : String) (steps : List Step) : Prop :=
  IsChain steps ∧ tokensOf steps = parts heap

/-- A chain in the order of its parts. -/
def IsRow : List Step → Prop
  | [] => False
  | [s] => s.IsOrigin
  | s :: rest => s.IsLink ∧ IsRow rest

/-- Whether the last part but one names a source. -/
def Sourced : List String → Prop
  | [] => False
  | [part, _] => (Modifier.ofToken? part).any Modifier.isSource = true
  | _ :: rest => Sourced rest

theorem isRow_append_origin {links : List Step} {first : Step} :
    IsRow (links ++ [first]) ↔ first.IsOrigin ∧ ∀ s ∈ links, s.IsLink := by
  induction links with
  | nil => simp [IsRow]
  | cons s links ih =>
    cases links with
    | nil => simp [IsRow, and_comm]
    | cons t links =>
      have unfolded : IsRow (s :: t :: links ++ [first]) ↔
          s.IsLink ∧ IsRow (t :: links ++ [first]) := Iff.rfl
      rw [unfolded, ih, List.forall_mem_cons (l := t :: links)]
      exact and_left_comm

theorem isRow_reverse_iff {steps : List Step} : IsRow steps.reverse ↔ IsChain steps := by
  cases steps with
  | nil => exact Iff.rfl
  | cons first rest =>
    rw [List.reverse_cons, isRow_append_origin]
    simp [IsChain]

theorem IsRow.cons {s : Step} {rest : List Step} (row : IsRow rest) (link : s.IsLink) :
    IsRow (s :: rest) := by
  cases rest with
  | nil => exact absurd row id
  | cons t rest => exact ⟨link, row⟩

/-! ### Reading a row of parts -/

theorem map_eq_ok {α β ε : Type} {f : α → β} {x : Except ε α} {result : β}
    (mapped : f <$> x = .ok result) : ∃ a, x = .ok a ∧ f a = result := by
  cases x with
  | error error => exact nomatch mapped
  | ok a => exact ⟨a, rfl, Except.ok.inj mapped⟩

theorem Sourced.exists_cons_cons {parts : List String} (sourced : Sourced parts) :
    ∃ a b rest, parts = a :: b :: rest := by
  match parts, sourced with
  | a :: b :: rest, _ => exact ⟨a, b, rest, rfl⟩

theorem Sourced.tail {part : String} {m : Modifier} {rest : List String}
    (sourced : Sourced (part :: rest)) (named : Modifier.ofToken? part = some m)
    (elsewhere : ∀ name, rest = [name] → m.isSource = false) : Sourced rest := by
  match rest, sourced with
  | [name], sourced =>
    simp only [Sourced, named, Option.any_some, elsewhere name rfl] at sourced
    contradiction
  | a :: b :: rest, sourced => exact sourced

/-- Parts with a source before the last one are read as a row that stands for just these parts. -/
theorem stepsOf_sound {heap : String} {parts : List String} {row : List Step}
    (sourced : Sourced parts) (parsed : stepsOf heap parts = .ok row) : IsRow row ∧ row.flatMap Step.tokens = parts := by
  fun_induction stepsOf heap parts generalizing row with
  | case1 => exact absurd sourced id
  | case2 | case7 | case9 => contradiction
  | case3 part rest m named lonely ih =>
    obtain ⟨tail, read, rfl⟩ := map_eq_ok parsed
    have inner := sourced.tail named fun _ _ => by simp [Modifier.isSource, lonely]
    obtain ⟨row, same⟩ := ih inner read
    refine ⟨row.cons (by simp [Step.IsLink, lonely]), ?_⟩
    simp [Step.tokens, same, Modifier.token_of_ofToken? named]
  | case4 part m named bearing name =>
    obtain rfl := Except.ok.inj parsed
    refine ⟨⟨by simp [Modifier.isSource, bearing], rfl⟩, ?_⟩
    simp [Step.tokens, Modifier.token_of_ofToken? named]
  | case5 part m named bearing rest several ih =>
    obtain ⟨tail, read, rfl⟩ := map_eq_ok parsed
    have inner := sourced.tail named fun name single => absurd single (several name)
    obtain ⟨row, same⟩ := ih inner read
    refine ⟨row.cons (by simp [Step.IsLink, bearing]), ?_⟩
    simp [Step.tokens, same, Modifier.token_of_ofToken? named]
  | case6 part m named mandatory argument =>
    obtain rfl := Except.ok.inj parsed
    refine ⟨⟨by simp [Modifier.isSource, mandatory], rfl⟩, ?_⟩
    simp [Step.tokens, Modifier.token_of_ofToken? named]
  | case8 part m named dual argument a b rest ih =>
    obtain ⟨tail, read, rfl⟩ := map_eq_ok parsed
    obtain ⟨row, same⟩ := ih sourced read
    refine ⟨row.cons (by simp [Step.IsLink, dual]), ?_⟩
    simp [Step.tokens, same, Modifier.token_of_ofToken? named]

theorem stepsOf_origin {s : Step} (origin : s.IsOrigin) (heap : String) :
    stepsOf heap s.tokens = .ok [s] := by
  obtain ⟨m, argument⟩ := s
  obtain ⟨source, some⟩ := origin
  obtain ⟨name, rfl⟩ := Option.isSome_iff_exists.mp some
  have named := Modifier.ofToken?_token m
  cases arity : m.arity with
  | nameBearing | mandatoryArgument => simp [Step.tokens, stepsOf, named, arity]
  | lonely | dualArgument => simp [Modifier.isSource, arity] at source

/-- A link takes its own tokens, and leaves the parts behind them to the other steps. -/
theorem stepsOf_link {s : Step} {parts : List String} (link : s.IsLink) (sourced : Sourced parts)
    (heap : String) : stepsOf heap (s.tokens ++ parts) = (s :: ·) <$> stepsOf heap parts := by
  obtain ⟨m, argument⟩ := s
  -- two parts at least are left, so the counts of parts decide as for a longer row
  obtain ⟨a, b, rest, rfl⟩ := sourced.exists_cons_cons
  have named := Modifier.ofToken?_token m
  cases arity : m.arity with
  | lonely | nameBearing =>
    obtain rfl : argument = none := by simpa [Step.IsLink, arity] using link
    simp only [Step.tokens, Option.toList_none, List.singleton_append]
    rw [stepsOf.eq_2]
    simp only [named, arity]
  | mandatoryArgument => simp [Step.IsLink, arity] at link
  | dualArgument =>
    obtain ⟨argument, rfl⟩ : ∃ text, argument = some text := by
      simpa [Step.IsLink, arity, Option.isSome_iff_exists] using link
    simp only [Step.tokens, Option.toList_some, List.cons_append, List.nil_append]
    rw [stepsOf.eq_2]
    simp only [named, arity]

theorem Sourced.append_left {parts : List String} (sourced : Sourced parts) (front : List String) :
    Sourced (front ++ parts) := by
  induction front with
  | nil => exact sourced
  | cons part front ih =>
    obtain ⟨a, b, rest, shape⟩ := ih.exists_cons_cons
    rw [List.cons_append, shape]
    rw [shape] at ih
    exact ih

theorem IsRow.sourced {row : List Step} (isRow : IsRow row) :
    Sourced (row.flatMap Step.tokens) := by
  induction row with
  | nil => exact isRow
  | cons s rest ih =>
    cases rest with
    | nil =>
      obtain ⟨source, some⟩ := isRow
      obtain ⟨name, argument⟩ := Option.isSome_iff_exists.mp some
      simpa [Step.tokens, argument, Sourced, Modifier.ofToken?_token] using source
    | cons t rest =>
      rw [List.flatMap_cons]
      exact (ih isRow.2).append_left s.tokens

/-- The parts that a row stands for are read as this row. -/
theorem stepsOf_complete {row : List Step} (isRow : IsRow row) (heap : String) :
    stepsOf heap (row.flatMap Step.tokens) = .ok row := by
  induction row with
  | nil => exact absurd isRow id
  | cons s rest ih =>
    cases rest with
    | nil => simpa using stepsOf_origin isRow heap
    | cons t rest =>
      rw [List.flatMap_cons, stepsOf_link isRow.1 isRow.2.sourced, ih isRow.2]
      rfl

/-! ### The parts of a heap -/

def sourceTokens : List String :=
  ["const", "direct", "env", "file", "require"]

theorem isSource_ofToken?_iff {part : String} :
    (Modifier.ofToken? part).any Modifier.isSource = true ↔ part ∈ sourceTokens := by
  constructor
  · intro source
    obtain ⟨m, named, source⟩ := (Option.any_eq_true _ _).mp source
    rw [← Modifier.token_of_ofToken? named]
    revert source
    cases m <;> decide
  · intro member
    simp only [sourceTokens, List.mem_cons, List.not_mem_nil, or_false] at member
    rcases member with rfl | rfl | rfl | rfl | rfl <;> decide

theorem sourced_append_iff (front : List String) {part name : String} :
    Sourced (front ++ [part, name]) ↔ part ∈ sourceTokens := by
  induction front with
  | nil => exact isSource_ofToken?_iff
  | cons other front ih =>
    rw [← ih]
    obtain ⟨a, b, rest, shape⟩ : ∃ a b rest, front ++ [part, name] = a :: b :: rest := by
      cases front with
      | nil => exact ⟨part, name, [], rfl⟩
      | cons a front => cases front <;> exact ⟨a, _, _, rfl⟩
    rw [List.cons_append, shape]
    exact Iff.rfl

theorem withSource_append (front : List String) (part name : String) :
    withSource (front ++ [part, name]) =
      front ++ part :: if part ∈ sourceTokens then [name] else [Modifier.env.token, name] := by
  induction front with
  | nil =>
    simp only [List.nil_append, withSource, isSource_ofToken?_iff]
    split <;> rfl
  | cons other front ih =>
    have several : ∀ last, front ++ [part, name] = [last] → False := by
      intro last single
      simpa using congrArg List.length single
    rw [List.cons_append, withSource.eq_2 _ _ several, ih, List.cons_append]

theorem rawParts_ne_nil (heap : String) : rawParts heap ≠ [] := by
  simp [rawParts]

/-- A single part gets the implicit source, and so does the last one of several if no source
stands before it. -/
theorem parts_spec (heap : String) :
    (∃ name, rawParts heap = [name] ∧ parts heap = ["env", name]) ∨
      ∃ front part name, rawParts heap = front ++ [part, name] ∧
        parts heap = front ++ part :: if part ∈ sourceTokens then [name] else ["env", name] := by
  rw [parts]
  split
  · rename_i name single
    exact Or.inl ⟨name, single, rfl⟩
  · rename_i several
    obtain nil | ⟨init, name, whole⟩ := List.eq_nil_or_concat' (rawParts heap)
    · exact absurd nil (rawParts_ne_nil heap)
    · obtain rfl | ⟨front, part, rfl⟩ := List.eq_nil_or_concat' init
      · exact absurd whole (several name)
      · rw [List.append_assoc] at whole
        exact Or.inr ⟨front, part, name, whole, whole ▸ withSource_append front part name⟩

theorem sourced_parts (heap : String) : Sourced (parts heap) := by
  obtain ⟨name, _, whole⟩ | ⟨front, part, name, _, whole⟩ := parts_spec heap
  · rw [whole]
    exact (sourced_append_iff []).mpr (by decide)
  · rw [whole]
    split
    · rename_i source
      exact (sourced_append_iff front).mpr source
    · have env : Sourced (["env", name]) := (sourced_append_iff []).mpr (by decide)
      exact (env.append_left [part]).append_left front

theorem parts_of_sourced {heap : String} (sourced : Sourced (rawParts heap)) :
    parts heap = rawParts heap := by
  obtain ⟨name, raw, _⟩ | ⟨front, part, name, raw, whole⟩ := parts_spec heap
  · rw [raw] at sourced
    exact absurd sourced id
  · rw [raw] at sourced
    rw [whole, raw, if_pos ((sourced_append_iff front).mp sourced)]

/-! ### Parsing -/

theorem parse_eq_ok_iff {heap : String} {steps : List Step} :
    parse heap = .ok steps ↔ Spells heap steps := by
  rw [Spells, ← isRow_reverse_iff, tokensOf]
  constructor
  · intro parsed
    obtain ⟨row, read, rfl⟩ := map_eq_ok parsed
    rw [List.reverse_reverse]
    exact stepsOf_sound (sourced_parts heap) read
  · rintro ⟨row, same⟩
    rw [parse, ← same, stepsOf_complete row]
    exact congrArg Except.ok (List.reverse_reverse steps)

theorem colon_notMem_token (m : Modifier) : ':' ∉ m.token.toList := by
  cases m <;> decide

theorem rawParts_intercalate {texts : List String} (nonempty : texts ≠ [])
    (whole : ∀ text ∈ texts, ':' ∉ text.toList) : rawParts (":".intercalate texts) = texts := by
  have split := List.splitOn_intercalate ':' (List.forall_mem_map.mpr whole) (by simpa using nonempty)
  rw [rawParts, String.toList_intercalate]
  refine (congrArg _ split).trans ?_
  simp

theorem parts_intercalate_tokensOf {steps : List Step} (chain : IsChain steps)
    (whole : ∀ s ∈ steps, ∀ argument ∈ s.argument, ':' ∉ argument.toList) :
    parts (":".intercalate (tokensOf steps)) = tokensOf steps := by
  have sourced : Sourced (tokensOf steps) := (isRow_reverse_iff.mpr chain).sourced
  have nonempty : tokensOf steps ≠ [] := by
    obtain ⟨a, b, rest, shape⟩ := sourced.exists_cons_cons
    simp [shape]
  have colonless : ∀ text ∈ tokensOf steps, ':' ∉ text.toList := by
    intro text member
    obtain ⟨s, inside, member⟩ := List.mem_flatMap.mp member
    rcases List.mem_cons.mp member with rfl | member
    · exact colon_notMem_token s.modifier
    · exact whole s (List.mem_reverse.mp inside) text (Option.mem_toList.mp member)
  have raw := rawParts_intercalate nonempty colonless
  rw [parts_of_sourced (raw.symm ▸ sourced), raw]

/-! ### Refused heaps -/

/-- Parts are read alike for every heap: as a row of steps, or not for a fault in one of them. -/
def ReadsAlike (parts : List String) (read : String → Except ResolveError (List Step)) : Prop :=
  (∃ row, ∀ heap, read heap = .ok row) ∨
    ∃ fault : Fault, (∀ part, fault = .unexpected part → part ∈ parts) ∧
      ∀ heap, read heap = .error (fault.error heap)

theorem ReadsAlike.link {rest : List String} {inner read : String → Except ResolveError (List Step)}
    (alike : ReadsAlike rest inner) (front : List String) (s : Step)
    (linked : ∀ heap, read heap = (s :: ·) <$> inner heap) : ReadsAlike (front ++ rest) read := by
  obtain ⟨row, made⟩ | ⟨fault, inside, failed⟩ := alike
  · refine Or.inl ⟨s :: row, fun heap => ?_⟩
    rw [linked, made]
    rfl
  · refine Or.inr ⟨fault, fun part same => ?_, fun heap => ?_⟩
    · exact List.mem_append_right front (inside part same)
    · rw [linked, failed]
      rfl

theorem readsAlike_stepsOf (parts : List String) : ReadsAlike parts (stepsOf · parts) := by
  induction parts using stepsOf.induct with
  | case1 => exact Or.inl ⟨[], fun _ => rfl⟩
  | case2 part rest unknown =>
    refine Or.inr ⟨.unexpected part, fun other same => ?_, fun heap => by simp only [stepsOf, unknown]⟩
    obtain rfl := Fault.unexpected.inj same
    exact List.mem_cons_self
  | case3 part rest m named lonely ih =>
    exact ih.link [part] ⟨m, none⟩ fun heap => by simp only [stepsOf, named, lonely]
  | case4 part m named bearing name =>
    exact Or.inl ⟨[⟨m, some name⟩], fun heap => by simp only [stepsOf, named, bearing]⟩
  | case5 part m named bearing rest several ih =>
    exact ih.link [part] ⟨m, none⟩ fun heap => by simp only [stepsOf, named, bearing]
  | case6 part m named mandatory argument =>
    exact Or.inl ⟨[⟨m, some argument⟩], fun heap => by simp only [stepsOf, named, mandatory]⟩
  | case7 part m named mandatory rest several =>
    exact Or.inr ⟨.onlyPenultimate m, nofun, fun heap => by simp only [stepsOf, named, mandatory]⟩
  | case8 part m named dual argument a b rest ih =>
    exact ih.link [part, argument] ⟨m, some argument⟩ fun heap => by
      simp only [stepsOf.eq_2 _ part, named, dual]
  | case9 part rest m named dual short =>
    exact Or.inr ⟨.missedArgument m, nofun, fun heap => by simp only [stepsOf, named, dual]⟩

/-- The parser objects to a heap as a whole and names it. -/
theorem exists_fault_of_parse {heap : String} {e : ResolveError} (refused : parse heap = .error e) :
    ∃ fault : Fault, (∀ part, fault = .unexpected part → part ∈ parts heap) ∧
      e = fault.error heap := by
  rw [parse] at refused
  obtain ⟨row, made⟩ | ⟨fault, inside, failed⟩ := readsAlike_stepsOf (parts heap)
  · simp only [made] at refused
    contradiction
  · simp only [failed] at refused
    exact ⟨fault, inside, (Except.error.inj refused).symm⟩

/-- A heap is parsed exactly if its parts are the tokens of a chain. The chain is then the only one
with these tokens; any other heap is refused by name. Chains written with colons are parsed back. -/
theorem parse_iff_chain (heap : String) :
    ((∃ name, rawParts heap = [name] ∧ parts heap = ["env", name]) ∨
      ∃ front part name, rawParts heap = front ++ [part, name] ∧
        parts heap = front ++ part :: if part ∈ sourceTokens then [name] else ["env", name]) ∧
    (∀ steps, parse heap = .ok steps ↔ Spells heap steps) ∧
    (∀ steps other, Spells heap steps → Spells heap other → steps = other) ∧
    ((¬ ∃ steps, Spells heap steps) →
      ∃ reason, parse heap = .error (.invalidHeap reason heap)) ∧
    ∀ steps, IsChain steps → (∀ s ∈ steps, ∀ argument ∈ s.argument, ':' ∉ argument.toList) →
      parse (":".intercalate (tokensOf steps)) = .ok steps := by
  refine ⟨parts_spec heap, fun steps => parse_eq_ok_iff, fun steps other spells others => ?_,
    fun none => ?_, fun steps chain whole => ?_⟩
  · rw [← parse_eq_ok_iff] at spells others
    exact Except.ok.inj (spells.symm.trans others)
  · cases parsed : parse heap with
    | error e =>
      obtain ⟨fault, _, rfl⟩ := exists_fault_of_parse parsed
      exact ⟨fault.text, rfl⟩
    | ok steps => exact absurd ⟨steps, parse_eq_ok_iff.mp parsed⟩ none
  · exact parse_eq_ok_iff.mpr ⟨chain, (parts_intercalate_tokensOf chain whole).symm⟩

/-- Tokens of modifiers serve as a name, as a key and as the type of an enum. -/
theorem parse_tokens_as_arguments :
    parse "const:enum:file:key:env:require:key" =
      .ok [⟨.require, some "key"⟩, ⟨.key, some "env"⟩, ⟨.enum, some "file"⟩, ⟨.const, none⟩] :=
  (parse_iff_chain "const:enum:file:key:env:require:key").2.2.2.2
    [⟨.require, some "key"⟩, ⟨.key, some "env"⟩, ⟨.enum, some "file"⟩, ⟨.const, none⟩]
    ⟨⟨rfl, rfl⟩, by simp [Step.IsLink, Modifier.arity]⟩ (by simp)

end Heap
end EnvTemplate
