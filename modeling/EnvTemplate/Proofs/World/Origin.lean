import EnvTemplate.Proofs.World.Prefixing
/-! Chains run from their first step alone. It works on its argument, so the value before it does
not matter; and no step of a chain is left without an argument that it needs, or given one that it
refuses. -/
namespace EnvTemplate

/-- Whether an error objects to a missing argument, or to one that is refused. -/
def ResolveError.IsMisapplied (e : ResolveError) : Prop :=
  (∃ heap, e = Objection.directUndefined.error heap) ∨
    ∃ m heap, e = (Objection.takesNoArgument m).error heap

theorem ResolveError.IsMisapplied.exists_eq {e : ResolveError} (misapplied : e.IsMisapplied) :
    ∃ reason heap, e = .invalidValue reason heap := by
  obtain ⟨heap, rfl⟩ | ⟨m, heap, rfl⟩ := misapplied
  · exact ⟨_, heap, rfl⟩
  · exact ⟨_, heap, rfl⟩

/-- Of all objections only these two begin with their letters. -/
theorem Objection.not_isMisapplied {objection : Objection}
    (direct : objection ≠ .directUndefined) (argument : ∀ m, objection ≠ .takesNoArgument m)
    (heap : String) : ¬ (objection.error heap).IsMisapplied := by
  have first : objection.text.toList.head? ≠ some 'U' ∧ objection.text.toList.head? ≠ some 'M' := by
    cases objection with
    | directUndefined => exact absurd rfl direct
    | takesNoArgument m => exact absurd rfl (argument m)
    | base64 fault => cases fault <;> decide
    | url refusal => cases refusal <;> decide
    | json error => simp [text]
    | base64NotScalar | enumType | notInteger | notFloat | jsonNotUtf8 | jsonNotScalar
    | notIndexable | csvNotScalar => decide
  rintro (⟨_, same⟩ | ⟨m, _, same⟩)
  · have texts : objection.text = Objection.directUndefined.text :=
      (ResolveError.invalidValue.inj same).1
    rw [texts] at first
    exact first.1 (by decide)
  · have texts : objection.text = (Objection.takesNoArgument m).text :=
      (ResolveError.invalidValue.inj same).1
    rw [texts] at first
    exact first.2 (by simp [text])

/-- Whether a step has an argument where it needs one, and none where it refuses one. -/
def Step.Fits (s : Step) : Prop :=
  (s.modifier = .direct → s.argument.isSome = true) ∧
    (s.modifier = .bool ∨ s.modifier = .not → s.argument = none)

theorem Step.IsLink.fits {s : Step} (link : s.IsLink) : s.Fits := by
  constructor
  · intro direct
    rw [Step.IsLink, direct] at link
    exact absurd link id
  · rintro (bool | not)
    · rw [Step.IsLink, bool] at link
      exact link
    · rw [Step.IsLink, not] at link
      exact link

theorem Step.IsOrigin.fits {s : Step} (origin : s.IsOrigin) : s.Fits := by
  obtain ⟨source, argument⟩ := origin
  refine ⟨fun _ => argument, ?_⟩
  rintro (bool | not)
  · rw [bool] at source
    contradiction
  · rw [not] at source
    contradiction

/-- Of all modifiers only `direct`, `bool` and `not` look at whether they have an argument. -/
theorem Step.Fits.not_isMisapplied {w : World} {s : Step} {v : Value} (fits : s.Fits)
    {raise : String → ResolveError} (raises : w.Raises v s raise) (heap : String) :
    ¬ (raise heap).IsMisapplied := by
  cases raises with
  | objection objects =>
    refine Objection.not_isMisapplied ?_ ?_ heap
    · rintro rfl
      cases objects
      exact absurd (fits.1 rfl) Bool.false_ne_true
    · rintro m rfl
      cases objects with
      | takesNoArgument refuses => exact absurd (fits.2 refuses) (Option.some_ne_none _)
  | name | undefined | key | enumType | enumCase | missing | file | document =>
    intro misapplied
    obtain ⟨_, _, same⟩ := misapplied.exists_eq
    contradiction

theorem not_isMisapplied_of_run {w : World} {steps : List Step} (fits : ∀ s ∈ steps, s.Fits)
    {v : Value} {heap : String} {e : ResolveError}
    (failed : w.run steps v heap = .error (.reported e)) : ¬ e.IsMisapplied := by
  obtain ⟨before, s, after, u, rfl, _, unmade⟩ := World.run_eq_error_iff.mp failed
  obtain ⟨raise, raises, rfl⟩ := World.raises_of_apply unmade
  exact (fits s (by simp)).not_isMisapplied raises heap

/-! ### Chains -/

/-- The operand of an origin is its argument, whatever stands before it. -/
theorem Step.IsOrigin.nameOperand {s : Step} (origin : s.IsOrigin) :
    ∃ name, s.argument = some name ∧
      ∀ v subject heap, s.nameOperand v subject heap = .ok name := by
  obtain ⟨name, given⟩ := Option.isSome_iff_exists.mp origin.2
  refine ⟨name, given, fun v subject heap => ?_⟩
  rw [Step.nameOperand, Step.operand, given]

theorem Step.IsOrigin.apply_eq {s : Step} (origin : s.IsOrigin) (w : World) (v u : Value)
    (heap : String) : w.apply s v heap = w.apply s u heap := by
  obtain ⟨name, _, operand⟩ := origin.nameOperand
  have source := origin.1
  cases modifier : s.modifier with
  | const => simp only [World.apply, modifier, World.constant, operand]
  | env => simp only [World.apply, modifier, World.environmentVariable, operand]
  | file => simp only [World.apply, modifier, World.fileContent, World.existingFile, operand]
  | require => simp only [World.apply, modifier, World.document, World.existingFile, operand]
  | direct => simp only [World.apply, modifier]
  | base64 | bool | enum | float | int | json | key | not | queryString | strcsv | string | trim
  | url | urlencode =>
    rw [modifier] at source
    contradiction

namespace Heap

theorem IsChain.fits {steps : List Step} (chain : IsChain steps) : ∀ s ∈ steps, s.Fits := by
  cases steps with
  | nil => exact absurd chain id
  | cons first rest =>
    exact List.forall_mem_cons.mpr ⟨chain.1.fits, fun s member => (chain.2 s member).fits⟩

theorem IsChain.argument_of_dual {steps : List Step} (chain : IsChain steps) {s : Step}
    (member : s ∈ steps) (dual : s.modifier.arity = .dualArgument) :
    ∃ argument, s.argument = some argument := by
  cases steps with
  | nil => exact absurd chain id
  | cons first rest =>
    obtain rfl | later := List.mem_cons.mp member
    · have source := chain.1.1
      simp [Modifier.isSource, dual] at source
    · have link := chain.2 s later
      rw [Step.IsLink, dual] at link
      exact Option.isSome_iff_exists.mp link

/-- The steps of a heap run from its first one, which takes its argument and makes the same of any
value before it. No step fails for want of an argument or for having one, and every key and enum
has the argument that it looks up. -/
theorem run_of_parse {heap : String} {steps : List Step} (parsed : parse heap = .ok steps)
    (w : World) :
    (∀ v, w.run steps v heap = w.run steps .null heap) ∧
    (∀ v e, w.run steps v heap = .error (.reported e) →
      e ≠ .invalidValue "Undefined direct value" heap ∧
      ∀ m : Modifier,
        e ≠ .invalidValue ("Modifier \"" ++ m.token ++ "\" takes no argument") heap) ∧
    (∃ first rest name, steps = first :: rest ∧ first.argument = some name ∧
      (∀ v subject, first.nameOperand v subject heap = .ok name) ∧
      ∀ v u, w.apply first v heap = w.apply first u heap) ∧
    ∀ s ∈ steps, s.modifier = .enum ∨ s.modifier = .key →
      ∃ argument, s.argument = some argument := by
  have chain : IsChain steps := (parse_eq_ok_iff.mp parsed).1
  obtain ⟨first, rest, rfl⟩ : ∃ first rest, steps = first :: rest := by
    cases steps with
    | nil => exact absurd chain id
    | cons first rest => exact ⟨first, rest, rfl⟩
  obtain ⟨name, given, operand⟩ := chain.1.nameOperand
  have same := chain.1.apply_eq w
  refine ⟨fun v => ?_, fun v e failed => ?_, ?_, fun s member looksUp => ?_⟩
  · rw [World.run, List.foldlM_cons, same v .null, World.run, List.foldlM_cons]
  · have reason := not_isMisapplied_of_run chain.fits failed
    refine ⟨?_, fun m => ?_⟩
    · rintro rfl
      exact reason (Or.inl ⟨heap, rfl⟩)
    · rintro rfl
      exact reason (Or.inr ⟨m, heap, rfl⟩)
  · exact ⟨first, rest, name, rfl, given, fun v subject => operand v subject heap,
      fun v u => same v u heap⟩
  · refine chain.argument_of_dual member ?_
    obtain enum | key := looksUp
    · rw [enum]
      rfl
    · rw [key]
      rfl

/-- An item of a variable, whatever value was there before. -/
theorem run_item_of_variable :
    parse "key:0:json:A" = .ok [⟨.env, some "A"⟩, ⟨.json, none⟩, ⟨.key, some "0"⟩] ∧
    (World.ofVariables [("A", "[true]")]).run
      [⟨.env, some "A"⟩, ⟨.json, none⟩, ⟨.key, some "0"⟩] (.string "B") "key:0:json:A" =
        .ok (.bool true) := by
  have parsed : parse "key:0:json:A" =
      .ok [⟨.env, some "A"⟩, ⟨.json, none⟩, ⟨.key, some "0"⟩] := rfl
  obtain ⟨same, _⟩ := run_of_parse parsed (World.ofVariables [("A", "[true]")])
  exact ⟨parsed, (same _).trans rfl⟩

end Heap
end EnvTemplate
