import EnvTemplate.Proofs.Entries
import EnvTemplate.Proofs.Json.Problem
import EnvTemplate.Proofs.Value.Unmarked
import EnvTemplate.Proofs.World.Prefixing
/-! Worlds in which the name inside the marker does not occur. A heap without the name gets a value or
an error without it from them, unless a modifier that reads or writes a code puts it together. -/
namespace EnvTemplate
open Template

/-- Modifiers that read or write a code, whose results need not stand in what they are given. -/
def Modifier.recodes : Modifier → Bool
  | .base64 | .json | .queryString | .strcsv | .url | .urlencode => true
  | .bool | .const | .direct | .enum | .env | .file | .float | .int | .key | .not | .require
  | .string | .trim => false

theorem Modifier.unmarked_token (m : Modifier) : Template.Unmarked m.token.toList := by
  cases m <;> exact .ofList (by decide)

/-! ### Errors -/

def ResolveError.Unmarked : ResolveError → Prop
  | .invalidHeap text heap | .invalidEnum text heap | .invalidValue text heap
  | .undefinedReference _ text heap | .fileNotFound text heap =>
    Template.Unmarked text.toList ∧ Template.Unmarked heap.toList
  | .invalidName text other heap | .keyNotFound text other heap | .unsupportedCase text other heap
  | .fileRead text other heap | .load text other heap =>
    Template.Unmarked text.toList ∧ Template.Unmarked other.toList ∧ Template.Unmarked heap.toList
  | .nestingDepthExceeded _ => True

def Failure.Unmarked : Failure → Prop
  | .reported error => error.Unmarked
  | .overflow => True

theorem Json.Error.unmarked_message {error : Json.Error} (fixed : error.problem.isFixed = true) :
    Template.Unmarked error.message.toList := by
  obtain ⟨problem, line, column⟩ := error
  have text : Template.Unmarked problem.text.toList := by
    cases problem <;> first | contradiction | exact .ofList (by decide)
  have lines : Template.Unmarked (String.ofList (Decimal.ofNat line)).toList :=
    .ofList (Decimal.unmarked_ofNat line)
  have columns : Template.Unmarked (String.ofList (Decimal.ofNat column)).toList :=
    .ofList (Decimal.unmarked_ofNat column)
  have atLine : Separates " at line ".toList := .ofList (by decide)
  have atColumn : Separates " column ".toList := .ofList (by decide)
  exact atColumn.between_strings (atLine.between_strings text lines) columns

/-- The heap at the end of a message does not put the name together with what stands before it. -/
theorem unmarked_append_origin {text heap : String} (before : Template.Unmarked text.toList)
    (behind : Template.Unmarked heap.toList) :
    Template.Unmarked (text ++ ResolveError.origin heap).toList := by
  have opens : Separates " (resolved from \"".toList := .ofList (by decide)
  have closes : Separates "\")".toList := .ofList (by decide)
  have shape : ResolveError.origin heap = " (resolved from \"" ++ heap ++ "\")" := rfl
  rw [shape, ← String.append_assoc, ← String.append_assoc, String.toList_append]
  exact (opens.between_strings before behind).append_separator closes

theorem ResolveError.Unmarked.message {e : ResolveError} (unmarked : e.Unmarked) :
    Template.Unmarked e.message.toList := by
  have quote : Separates "\"".toList := .ofList (by decide)
  cases e with
  | invalidHeap reason heap =>
    have inHeap : Separates " in heap: ".toList := .ofList (by decide)
    exact inHeap.between_strings unmarked.1 unmarked.2
  | invalidName subject found heap =>
    refine unmarked_append_origin ?_ unmarked.2.2
    have nonScalar : Separates "\" is non-scalar".toList := .ofList (by decide)
    rw [String.toList_append]
    exact (unmarked.1.opened unmarked.2.1 (.ofList (by decide))
      (.ofList (by decide))).append_separator nonScalar
  | invalidEnum enumType heap =>
    refine unmarked_append_origin ?_ unmarked.2
    exact unmarked.1.framed quote (.ofList (by decide))
  | invalidValue reason heap => exact unmarked_append_origin unmarked.1 unmarked.2
  | undefinedReference kind name heap =>
    refine unmarked_append_origin ?_ unmarked.2
    have noun : Template.Unmarked kind.text.toList := by
      cases kind <;> exact .ofList (by decide)
    rw [String.toList_append]
    exact (noun.opened unmarked.1 (.ofList (by decide)) (.ofList (by decide))).append_separator quote
  | unsupportedCase enumType value heap =>
    refine unmarked_append_origin ?_ unmarked.2.2
    rw [String.toList_append]
    exact (unmarked.2.1.opened unmarked.1 (.ofList (by decide))
      (.ofList (by decide))).append_separator quote
  | fileNotFound path heap =>
    refine unmarked_append_origin ?_ unmarked.2
    exact unmarked.1.framed (.ofList (by decide)) (.ofList (by decide))
  | keyNotFound text other heap | fileRead text other heap | load text other heap =>
    refine unmarked_append_origin ?_ unmarked.2.2
    exact unmarked.1.opened unmarked.2.1 (.ofList (by decide)) (.ofList (by decide))
  | nestingDepthExceeded limit =>
    have numeral : Template.Unmarked (String.ofList (Decimal.ofNat limit)).toList :=
      .ofList (Decimal.unmarked_ofNat limit)
    exact numeral.framed (.ofList (by decide)) (.ofList (by decide))

/-! ### Steps -/

/-- A result of which `P` holds, or a failure in which the name does not occur. -/
def Answers {α : Type} (P : α → Prop) : Except Failure α → Prop
  | .ok x => P x
  | .error failure => failure.Unmarked

def Step.Unmarked (s : Step) : Prop :=
  ∀ argument ∈ s.argument, Template.Unmarked argument.toList

/-- The name inside the marker does not occur in what a world gives, and in no failure that it gives
for a path without it. -/
structure World.Unmarked (w : World) : Prop where
  ofVariable : ∀ name text, w.lookupVariable? name = some text → Template.Unmarked text.toList
  ofConstant : ∀ name value, w.lookupConstant? name = some value → value.Unmarked
  ofEnum : ∀ enumType v case, Template.Unmarked enumType.toList → v.Unmarked →
    w.enumCase? enumType v = some case → case.Unmarked
  ofFile : ∀ path bytes, w.fileBytes path = .ok bytes → (Value.ofBytes bytes).Unmarked
  ofFileError : ∀ path error, Template.Unmarked path.toList → w.fileBytes path = .error error →
    Template.Unmarked error.message.toList
  ofDocument : ∀ path value, w.loadDocument path = .ok value → value.Unmarked
  ofLoadError : ∀ path error, Template.Unmarked path.toList → w.loadDocument path = .error error →
    Template.Unmarked error.message.toList

section
variable {w : World} {s : Step} {v result : Value} {heap : String}

theorem Step.Unmarked.getD_argument (argument : s.Unmarked) :
    Template.Unmarked (s.argument.getD "").toList := by
  cases given : s.argument with
  | none => decide
  | some text => exact argument text given

theorem Value.unmarked_typeName (v : Value) : Template.Unmarked v.typeName.toList := by
  cases v <;> exact .ofList (by decide)

theorem Value.Unmarked.trim (unmarked : v.Unmarked) : v.trim.Unmarked := by
  have inside := Text.infix_strip Ascii.isTrimmed v.toText.toList
  rw [Value.trim, Unmarked, String.toList_ofList]
  exact unmarked.toText.of_part inside

theorem Step.Takes.unmarked {text : String} (takes : s.Takes v text) (argument : s.Unmarked)
    (unmarked : v.Unmarked) : Template.Unmarked text.toList := by
  obtain given | ⟨_, scalar⟩ := Option.or_eq_some_iff.mp takes
  · exact argument text given
  · exact unmarked.scalarText scalar

theorem Step.Objects.unmarked_text {objection : Objection} (objects : s.Objects objection) :
    Template.Unmarked objection.text.toList := by
  cases objects with
  | base64 fault => cases fault <;> exact .ofList (by decide)
  | @takesNoArgument m => exact m.unmarked_token.framed (.ofList (by decide)) (.ofList (by decide))
  | json failed =>
    have message := Json.Error.unmarked_message (Json.isFixed_of_ofText failed)
    exact message.framed (.ofList (by decide)) (.ofList (by decide))
  | url refusal => cases refusal <;> exact .ofList (by decide)
  | base64NotScalar | directUndefined | enumType | notInteger | notFloat | jsonNotUtf8
  | jsonNotScalar | notIndexable | csvNotScalar => exact .ofList (by decide)

namespace World

theorem Makes.unmarked (made : w.Makes v s result) (world : w.Unmarked) (argument : s.Unmarked)
    (unmarked : v.Unmarked) (plain : s.modifier.recodes = false) : result.Unmarked := by
  cases made with
  | base64 | json | queryString | strcsv | url | urlencode => contradiction
  | bool | not | float | int => trivial
  | const _ found => exact world.ofConstant _ _ found
  | direct => exact argument _ rfl
  | enum found => exact world.ofEnum _ v _ argument.getD_argument unmarked found
  | env _ found => exact world.ofVariable _ _ found
  | file _ content => exact world.ofFile _ _ content
  | item same _ at_i =>
    subst same
    exact unmarked.of_mem (List.mem_of_getElem? at_i)
  | entry same found =>
    subst same
    exact unmarked.of_mem (Entries.mem_of_get? found)
  | require _ loaded => exact world.ofDocument _ _ loaded
  | string => exact unmarked.toText
  | trim => exact unmarked.trim

theorem Raises.unmarked {raise : String → ResolveError} (raises : w.Raises v s raise)
    (world : w.Unmarked) (argument : s.Unmarked) (unmarked : v.Unmarked)
    (origin : Template.Unmarked heap.toList) : (raise heap).Unmarked := by
  cases raises with
  | objection objects => exact ⟨objects.unmarked_text, origin⟩
  | @name subject named =>
    have plain : Template.Unmarked subject.toList := by
      simp only [List.mem_cons, List.not_mem_nil, or_false] at named
      obtain rfl | rfl | rfl := named <;> exact .ofList (by decide)
    exact ⟨plain, v.unmarked_typeName, origin⟩
  | undefined kind takes => exact ⟨takes.unmarked argument unmarked, origin⟩
  | key => exact ⟨argument.getD_argument, unmarked.jsonText, origin⟩
  | enumType => exact ⟨argument.getD_argument, origin⟩
  | enumCase => exact ⟨argument.getD_argument, unmarked.jsonText, origin⟩
  | missing takes => exact ⟨takes.unmarked argument unmarked, origin⟩
  | file takes content =>
    have path := takes.unmarked argument unmarked
    exact ⟨path, world.ofFileError _ _ path content, origin⟩
  | document takes loaded =>
    have path := takes.unmarked argument unmarked
    exact ⟨path, world.ofLoadError _ _ path loaded, origin⟩

theorem Unmarked.apply (world : w.Unmarked) (argument : s.Unmarked) (unmarked : v.Unmarked)
    (origin : Template.Unmarked heap.toList)
    (recoded : s.modifier.recodes = true →
      ∀ result, w.apply s v heap = .ok result → result.Unmarked) :
    Answers Value.Unmarked (w.apply s v heap) := by
  cases applied : w.apply s v heap with
  | ok result =>
    cases recodes : s.modifier.recodes with
    | true => exact recoded recodes result applied
    | false => exact (makes_of_apply applied).unmarked world argument unmarked recodes
  | error failure =>
    cases failure with
    | reported e =>
      obtain ⟨raise, raises, rfl⟩ := raises_of_apply applied
      exact raises.unmarked world argument unmarked origin
    | overflow => trivial

/-! ### Runs -/

/-- The modifiers among the steps of a heap that read or write a code do not put the name together. -/
def RecodesUnmarked (w : World) (heap : String) (steps : List Step) : Prop :=
  ∀ front s behind v result, steps = front ++ s :: behind → s.modifier.recodes = true →
    w.run front .null heap = .ok v → w.apply s v heap = .ok result → result.Unmarked

theorem recodesUnmarked_nil (w : World) (heap : String) : w.RecodesUnmarked heap [] := by
  intro front s behind v result split
  simp at split

theorem recodesUnmarked_concat {steps : List Step} :
    w.RecodesUnmarked heap (steps ++ [s]) ↔ w.RecodesUnmarked heap steps ∧
      (s.modifier.recodes = true → ∀ v result, w.run steps .null heap = .ok v →
        w.apply s v heap = .ok result → result.Unmarked) := by
  constructor
  · intro recoded
    refine ⟨fun front t behind v result split => ?_, fun recodes v result => ?_⟩
    · exact recoded front t (behind ++ [s]) v result (by simp [split])
    · exact recoded steps s [] v result rfl recodes
  · rintro ⟨before, last⟩ front t behind v result split recodes ran applied
    obtain rfl | ⟨behind, u, rfl⟩ := List.eq_nil_or_concat' behind
    · obtain ⟨rfl, same⟩ := List.append_inj' split rfl
      obtain rfl := List.singleton_inj.mp same
      exact last recodes v result ran applied
    · rw [← List.cons_append, ← List.append_assoc] at split
      exact before front t behind v result (List.append_inj' split rfl).1 recodes ran applied

/-- What every step keeps, a run keeps. -/
theorem Unmarked.run (world : w.Unmarked) {steps : List Step}
    (arguments : ∀ s ∈ steps, s.Unmarked) (origin : Template.Unmarked heap.toList)
    (recoded : w.RecodesUnmarked heap steps) : Answers Value.Unmarked (w.run steps .null heap) := by
  -- from the last step, because a recoding step is judged by what the steps before it give
  induction steps using List.reverseRecOn with
  | nil => trivial
  | append_singleton steps s ih =>
    obtain ⟨earlier, last⟩ := recodesUnmarked_concat.mp recoded
    have before := ih (fun t member => arguments t (List.mem_append_left _ member)) earlier
    rw [run_concat]
    cases ran : w.run steps .null heap with
    | error failure => rwa [ran] at before
    | ok v =>
      rw [ran] at before
      have argument := arguments s (List.mem_append_right _ List.mem_cons_self)
      exact world.apply argument before origin fun recodes result => last recodes v result ran

end World

end

namespace Heap

/-- The parts of a heap stand in it, up to the implicit source. -/
theorem unmarked_of_mem_parts {heap part : String} (unmarked : Template.Unmarked heap.toList)
    (member : part ∈ parts heap) : Template.Unmarked part.toList := by
  have env : Template.Unmarked "env".toList := .ofList (by decide)
  have raw : ∀ part ∈ rawParts heap, Template.Unmarked part.toList := by
    intro part member
    obtain ⟨text, among, rfl⟩ := List.mem_map.mp member
    have inside : text <:+: List.intercalate [':'] (heap.toList.splitOn ':') :=
      Text.infix_intercalate_of_mem among
    rw [List.intercalate_splitOn] at inside
    rw [String.toList_ofList]
    exact unmarked.of_part inside
  obtain ⟨name, single, whole⟩ | ⟨front, source, name, several, whole⟩ := parts_spec heap
  · rw [whole] at member
    rw [single] at raw
    obtain rfl | member := List.mem_cons.mp member
    · exact env
    · exact raw part member
  · rw [whole] at member
    rw [several] at raw
    obtain member | member := List.mem_append.mp member
    · exact raw part (List.mem_append_left _ member)
    · obtain rfl | member := List.mem_cons.mp member
      · exact raw _ (List.mem_append_right _ List.mem_cons_self)
      · have last : Template.Unmarked name.toList := raw name (by simp)
        split at member
        · obtain rfl := List.mem_singleton.mp member
          exact last
        · obtain rfl | member := List.mem_cons.mp member
          · exact env
          · obtain rfl := List.mem_singleton.mp member
            exact last

theorem Fault.unmarked_text {fault : Fault}
    (unmarked : ∀ part, fault = .unexpected part → Template.Unmarked part.toList) :
    Template.Unmarked fault.text.toList := by
  cases fault with
  | unexpected part =>
    exact (unmarked part rfl).framed (.ofList (by decide)) (.ofList (by decide))
  | onlyPenultimate m => exact m.unmarked_token.framed (.ofList (by decide)) (.ofList (by decide))
  | missedArgument m => exact m.unmarked_token.framed (.ofList (by decide)) (.ofList (by decide))

theorem answers_parse {heap : String} (unmarked : Template.Unmarked heap.toList) :
    Answers (fun steps => ∀ s ∈ steps, s.Unmarked) (reported (parse heap)) := by
  have inside : ∀ part ∈ parts heap, Template.Unmarked part.toList :=
    fun part member => unmarked_of_mem_parts unmarked member
  cases parsed : parse heap with
  | ok steps =>
    intro s member argument given
    refine inside argument ?_
    rw [← (parse_eq_ok_iff.mp parsed).2]
    refine List.mem_flatMap.mpr ⟨s, List.mem_reverse.mpr member, ?_⟩
    exact List.mem_cons_of_mem _ (Option.mem_toList.mpr given)
  | error e =>
    obtain ⟨fault, named, rfl⟩ := exists_fault_of_parse parsed
    exact ⟨Fault.unmarked_text fun part same => inside part (named part same), unmarked⟩

end Heap

/-- A heap without the name inside the marker gets a value or a failure without it. -/
theorem World.Unmarked.resolve {w : World} (world : w.Unmarked) {heap : String}
    (unmarked : Template.Unmarked heap.toList)
    (recoded : ∀ steps, Heap.parse heap = .ok steps → w.RecodesUnmarked heap steps) :
    Answers Value.Unmarked (w.resolve heap) := by
  have read := Heap.answers_parse unmarked
  rw [World.resolve, resolveBy]
  cases parsed : Heap.parse heap with
  | error e => rwa [parsed] at read
  | ok steps =>
    rw [parsed] at read
    exact world.run read unmarked (recoded steps parsed)

end EnvTemplate
