import EnvTemplate.Proofs.Heap.Chain
import EnvTemplate.Proofs.World.Threading
/-! A step put before a heap. Its parts leave those of the heap as they are, its operation is the
last one to run, and so the value of the longer heap is what the step makes of the shorter one's. -/
namespace EnvTemplate

/-- What a step makes of the outcome of a shorter heap. An error names the longer one. -/
def World.followedBy (w : World) (s : Step) (heap : String) :
    Except Failure Value → Except Failure Value
  | .ok v => w.apply s v heap
  | .error failure => .error (failure.withHeap heap)

namespace Heap

theorem rawParts_append_colon {part : String} (heap : String) (whole : ':' ∉ part.toList) :
    rawParts (part ++ ":" ++ heap) = part :: rawParts heap := by
  have split : (part.toList ++ ':' :: heap.toList).splitOn ':' =
      part.toList :: heap.toList.splitOn ':' :=
    List.splitOn_append_cons_self_of_not_mem whole heap.toList
  have letters : (part ++ ":" ++ heap).toList = part.toList ++ ':' :: heap.toList := by simp
  rw [rawParts, letters, split, List.map_cons, String.ofList_toList, rawParts]

theorem length_rawParts_append_colon {part : String} (heap : String)
    (whole : ':' ∉ part.toList) : 2 ≤ (rawParts (part ++ ":" ++ heap)).length := by
  have nonempty := List.length_pos_iff.mpr (rawParts_ne_nil heap)
  rw [rawParts_append_colon heap whole, List.length_cons]
  omega

/-- The implicit source comes to stand in the same place, unless the new part is itself a source
right before the last one. -/
theorem parts_append_colon {part : String} (heap : String) (whole : ':' ∉ part.toList)
    (room : 2 ≤ (rawParts heap).length ∨ part ∉ sourceTokens) :
    parts (part ++ ":" ++ heap) = part :: parts heap := by
  have raw := rawParts_append_colon heap whole
  obtain ⟨name, single, completed⟩ | ⟨front, other, name, several, completed⟩ := parts_spec heap
  · have unsourced : part ∉ sourceTokens := by simpa [single] using room
    rw [single] at raw
    rw [parts, raw, completed]
    exact (withSource_append [] part name).trans (by rw [if_neg unsourced]; rfl)
  · rw [several] at raw
    rw [parts, raw, completed]
    cases front with
    | nil => exact withSource_append [part] other name
    | cons first front => exact withSource_append (part :: first :: front) other name

theorem parts_append_text {s : Step} (heap : String)
    (whole : ∀ argument ∈ s.argument, ':' ∉ argument.toList)
    (room : (rawParts heap).length = 1 → ∀ part ∈ s.tokens.getLast?, part ∉ sourceTokens) :
    parts (s.text ++ ":" ++ heap) = s.tokens ++ parts heap := by
  obtain ⟨m, argument⟩ := s
  have nonempty := List.length_pos_iff.mpr (rawParts_ne_nil heap)
  have choice : ∀ part ∈ (Step.tokens ⟨m, argument⟩).getLast?,
      2 ≤ (rawParts heap).length ∨ part ∉ sourceTokens := by
    intro part last
    rcases Nat.lt_or_ge 1 (rawParts heap).length with several | single
    · exact Or.inl several
    · exact Or.inr (room (by omega) part last)
  cases argument with
  | none => exact parts_append_colon heap (colon_notMem_token m) (choice m.token rfl)
  | some argument =>
    have text : Step.text ⟨m, some argument⟩ ++ ":" ++ heap =
        m.token ++ ":" ++ (argument ++ ":" ++ heap) := by
      simp only [Step.text, String.append_assoc]
    have inside := whole argument rfl
    rw [text, parts_append_colon _ (colon_notMem_token m)
      (Or.inl (length_rawParts_append_colon heap inside)),
      parts_append_colon heap inside (choice argument rfl)]
    rfl

theorem parse_append_text {s : Step} {heap : String} (link : s.IsLink)
    (split : parts (s.text ++ ":" ++ heap) = s.tokens ++ parts heap) :
    parse (s.text ++ ":" ++ heap) =
      (· ++ [s]) <$> (parse heap).mapError (·.withHeap (s.text ++ ":" ++ heap)) := by
  rw [parse, split, stepsOf_link link (sourced_parts heap),
    stepsOf_elsewhere heap (s.text ++ ":" ++ heap), parse]
  cases stepsOf heap (parts heap) with
  | error e => rfl
  | ok row => exact congrArg Except.ok List.reverse_cons

theorem token_notMem_sourceTokens {m : Modifier} (other : m.isSource = false) :
    m.token ∉ sourceTokens := by
  intro member
  have source := isSource_ofToken?_iff.mpr member
  simp [Modifier.ofToken?_token, other] at source

/-- An argument that is a source right before the last part stands for this source, and the step is
left without its argument. -/
theorem parse_dual_source {m : Modifier} {source heap : String} (dual : m.arity = .dualArgument)
    (single : (rawParts heap).length = 1) (member : source ∈ sourceTokens)
    (whole : ':' ∉ source.toList) :
    parse (m.token ++ ":" ++ source ++ ":" ++ heap) =
      .error (Fault.error (.missedArgument m) (m.token ++ ":" ++ source ++ ":" ++ heap)) := by
  have text : m.token ++ ":" ++ source ++ ":" ++ heap =
      m.token ++ ":" ++ (source ++ ":" ++ heap) := by
    simp only [String.append_assoc]
  obtain ⟨name, only⟩ := List.length_eq_one_iff.mp single
  have inner : rawParts (source ++ ":" ++ heap) = [source, name] := by
    rw [rawParts_append_colon heap whole, only]
  have sourced : Sourced (rawParts (source ++ ":" ++ heap)) := by
    rw [inner]
    exact (sourced_append_iff []).mpr member
  rw [text, parse, parts_append_colon _ (colon_notMem_token m)
    (Or.inl (length_rawParts_append_colon heap whole)), parts_of_sourced sourced, inner,
    stepsOf.eq_2]
  simp only [Modifier.ofToken?_token, dual]
  rfl

theorem rawParts_of_notMem {heap : String} (whole : ':' ∉ heap.toList) :
    rawParts heap = [heap] := by
  have split := rawParts_intercalate (List.cons_ne_nil heap []) (by simpa using whole)
  rwa [String.intercalate_singleton] at split

theorem two_le_length_rawParts {heap : String} (member : ':' ∈ heap.toList) :
    2 ≤ (rawParts heap).length := by
  obtain ⟨before, after, letters, whole⟩ := List.eq_append_cons_of_mem member
  have shape : heap = String.ofList before ++ ":" ++ String.ofList after :=
    String.ext (by simpa using letters)
  rw [shape]
  exact length_rawParts_append_colon _ (by simpa using whole)

theorem parse_direct (heap : String) :
    parse ("direct:" ++ heap) =
      if ':' ∈ heap.toList then .error (Fault.error (.onlyPenultimate .direct) ("direct:" ++ heap))
      else .ok [⟨.direct, some heap⟩] := by
  have whole : ':' ∉ "direct".toList := by decide
  have named : Modifier.ofToken? "direct" = some .direct := by decide
  have text : "direct:" ++ heap = "direct" ++ ":" ++ heap := rfl
  rw [text]
  split
  · rename_i member
    rw [parse, parts_append_colon heap whole (Or.inl (two_le_length_rawParts member))]
    obtain ⟨a, b, rest, shape⟩ := (sourced_parts heap).exists_cons_cons
    rw [shape, stepsOf.eq_2]
    simp only [named]
    rfl
  · rename_i single
    have raw := rawParts_append_colon heap whole
    rw [rawParts_of_notMem single] at raw
    have sourced : Sourced (rawParts ("direct" ++ ":" ++ heap)) := by
      rw [raw]
      exact (sourced_append_iff []).mpr (by decide)
    rw [parse, parts_of_sourced sourced, raw]
    exact congrArg _ (stepsOf_origin (s := ⟨.direct, some heap⟩) ⟨rfl, rfl⟩ _)

end Heap

namespace World

theorem run_concat (w : World) (steps : List Step) (s : Step) (v : Value) (heap : String) :
    w.run (steps ++ [s]) v heap = w.run steps v heap >>= fun v => w.apply s v heap := by
  simp [run, List.foldlM_append]

theorem interpret_concat (w : World) (steps : List Step) (s : Step) (longer heap : String) :
    w.interpret (steps ++ [s]) longer = w.followedBy s longer (w.interpret steps heap) := by
  have same : w.run steps .null longer = _ := (w.threads_run .null steps).elsewhere heap longer
  rw [interpret, run_concat, same, interpret]
  cases w.run steps .null heap <;> rfl

theorem resolve_of_parse (w : World) {s : Step} {longer heap : String}
    (parsed : Heap.parse longer = (· ++ [s]) <$> (Heap.parse heap).mapError (·.withHeap longer)) :
    w.resolve longer = w.followedBy s longer (w.resolve heap) := by
  rw [resolve, resolveBy, parsed, resolve, resolveBy]
  cases Heap.parse heap with
  | error e => rfl
  | ok steps => exact w.interpret_concat steps s longer heap

/-- A link before a heap runs on the value of this heap. -/
theorem resolve_append_text (w : World) {s : Step} (heap : String) (link : s.IsLink)
    (whole : ∀ argument ∈ s.argument, ':' ∉ argument.toList)
    (room : (Heap.rawParts heap).length = 1 →
      ∀ part ∈ s.tokens.getLast?, part ∉ Heap.sourceTokens) :
    w.resolve (s.text ++ ":" ++ heap) =
      w.followedBy s (s.text ++ ":" ++ heap) (w.resolve heap) :=
  w.resolve_of_parse (Heap.parse_append_text link (Heap.parts_append_text heap whole room))

theorem resolve_of_refused (w : World) {heap : String} {e : ResolveError}
    (refused : Heap.parse heap = .error e) : w.resolve heap = .error (.reported e) := by
  rw [resolve, resolveBy, refused]
  rfl

/-- A modifier put before a heap works on the value of this heap, and leaves a failure as it is but
for the heap that an error names. A key or an enum is refused if its argument is a source and a single
part follows, and a direct value if it has a colon. -/
theorem resolve_prefixed (w : World) (heap : String) :
    (∀ m : Modifier,
      m.arity = .lonely ∨ m.arity = .nameBearing ∧ 2 ≤ (Heap.rawParts heap).length →
      w.resolve (m.token ++ ":" ++ heap) =
        w.followedBy ⟨m, none⟩ (m.token ++ ":" ++ heap) (w.resolve heap)) ∧
    (∀ (m : Modifier) (argument : String), m.arity = .dualArgument → ':' ∉ argument.toList →
      w.resolve (m.token ++ ":" ++ argument ++ ":" ++ heap) =
        if (Heap.rawParts heap).length = 1 ∧ argument ∈ Heap.sourceTokens then
          .error (.reported (Heap.Fault.error (.missedArgument m)
            (m.token ++ ":" ++ argument ++ ":" ++ heap)))
        else w.followedBy ⟨m, some argument⟩ (m.token ++ ":" ++ argument ++ ":" ++ heap)
          (w.resolve heap)) ∧
    w.resolve ("direct:" ++ heap) =
      if ':' ∈ heap.toList then
        .error (.reported (Heap.Fault.error (.onlyPenultimate .direct) ("direct:" ++ heap)))
      else .ok (.string heap) := by
  refine ⟨fun m taken => ?_, fun m argument dual whole => ?_, ?_⟩
  · have link : Step.IsLink ⟨m, none⟩ := by
      rcases taken with arity | ⟨arity, _⟩ <;> simp [Step.IsLink, arity]
    refine w.resolve_append_text (s := ⟨m, none⟩) heap link (by simp) fun single part last => ?_
    obtain rfl := Option.some.inj last
    rcases taken with arity | ⟨arity, several⟩
    · exact Heap.token_notMem_sourceTokens (by simp [Modifier.isSource, arity])
    · omega
  · split
    · rename_i refused
      exact w.resolve_of_refused (Heap.parse_dual_source dual refused.1 refused.2 whole)
    · rename_i free
      refine w.resolve_append_text (s := ⟨m, some argument⟩) heap
        (by simp [Step.IsLink, dual]) (by simpa using whole) fun single part last => ?_
      obtain rfl := Option.some.inj last
      exact fun member => free ⟨single, member⟩
  · have parsed := Heap.parse_direct heap
    split
    · rename_i member
      rw [if_pos member] at parsed
      exact w.resolve_of_refused parsed
    · rename_i single
      rw [if_neg single] at parsed
      rw [resolve, resolveBy, parsed]
      rfl

def ofVariables (pairs : Entries String) : World where
  lookupVariable? := Entries.get? pairs
  lookupConstant? _ := none
  isBackedEnum _ := false
  enumCase? _ _ := none
  isFile _ := false
  fileBytes path := .error (.notFound path)
  loadDocument path := .error (.unsupported path)

/-- A variable that names another one, a type that is no enum, and a key that is a source. -/
theorem resolve_variable_prefixes :
    (ofVariables [("A", "B"), ("B", "x")]).resolve "env:env:A" = .ok (.string "x") ∧
    (ofVariables [("A", "B"), ("B", "x")]).resolve "enum:T:A" =
      .error (.reported (.invalidEnum "T" "enum:T:A")) ∧
    (ofVariables [("A", "B"), ("B", "x")]).resolve "key:env:A" =
      .error (.reported (.invalidHeap "Missed argument of \"key\"" "key:env:A")) := by
  have indirect := ((ofVariables [("A", "B"), ("B", "x")]).resolve_prefixed "env:A").1 .env
    (Or.inr ⟨rfl, by decide⟩)
  have direct := ((ofVariables [("A", "B"), ("B", "x")]).resolve_prefixed "A").2.1
  exact ⟨indirect.trans rfl, (direct .enum "T" rfl (by decide)).trans rfl,
    (direct .key "env" rfl (by decide)).trans rfl⟩

end World
end EnvTemplate
