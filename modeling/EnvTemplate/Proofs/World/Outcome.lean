import EnvTemplate.Proofs.Failure
import EnvTemplate.Resolve
/-! What a step can do. Every place that a step comes to has a result or raises an error for the heap
that it is given. Which results and errors these can be is said once for all modifiers, and what holds
of steps follows from it by cases. -/
namespace EnvTemplate

/-- What comes of a place for any heap: a result, an error that is raised for the heap, or the overflow
of an index. -/
inductive Outcome {α : Type} (Gives : α → Prop) (Raises : (String → ResolveError) → Prop)
    (place : String → Except Failure α) : Prop
  | ok (result : α) : Gives result → (∀ heap, place heap = .ok result) → Outcome Gives Raises place
  | error (raise : String → ResolveError) : Raises raise →
      (∀ heap, place heap = .error (.reported (raise heap))) → Outcome Gives Raises place
  | overflow : (∀ heap, place heap = .error .overflow) → Outcome Gives Raises place

section
variable {α β : Type} {G G' : α → Prop} {H : β → Prop} {R R' : (String → ResolveError) → Prop}

theorem outcome_ok {result : α} (gives : G result) : Outcome G R fun _ => .ok result :=
  .ok result gives fun _ => rfl

theorem outcome_error {raise : String → ResolveError} (raises : R raise) :
    Outcome G R fun heap => .error (.reported (raise heap)) :=
  .error raise raises fun _ => rfl

namespace Outcome

variable {place : String → Except Failure α}

theorem mono (outcome : Outcome G R place) (gives : ∀ result, G result → G' result)
    (raises : ∀ raise, R raise → R' raise) : Outcome G' R' place := by
  cases outcome with
  | ok result given made => exact .ok result (gives result given) made
  | error raise raised failed => exact .error raise (raises raise raised) failed
  | overflow stopped => exact .overflow stopped

theorem bind {next : α → String → Except Failure β} (outcome : Outcome G R place)
    (later : ∀ a, G a → Outcome H R (next a)) :
    Outcome H R fun heap => place heap >>= fun a => next a heap := by
  cases outcome with
  | ok result given made =>
    simp only [made]
    exact later result given
  | error raise raised failed =>
    simp only [failed]
    exact outcome_error raised
  | overflow stopped =>
    simp only [stopped]
    exact .overflow fun _ => rfl

theorem map {f : α → β} (outcome : Outcome G R place) (later : ∀ a, G a → H (f a)) :
    Outcome H R fun heap => (place heap).map f :=
  outcome.bind fun a gives => outcome_ok (later a gives)

theorem of_ok (outcome : Outcome G R place) {heap : String} {result : α}
    (given : place heap = .ok result) : G result := by
  cases outcome with
  | ok other gives made => exact Except.ok.inj ((made heap).symm.trans given) ▸ gives
  | error raise raised failed => simp [failed] at given
  | overflow stopped => simp [stopped] at given

theorem of_error (outcome : Outcome G R place) {heap : String} {e : ResolveError}
    (failed : place heap = .error (.reported e)) : ∃ raise, R raise ∧ e = raise heap := by
  cases outcome with
  | ok result gives made => simp [made] at failed
  | error raise raised always =>
    rw [always] at failed
    exact ⟨raise, raised, (Failure.reported.inj (Except.error.inj failed)).symm⟩
  | overflow stopped => simp [stopped] at failed

end Outcome

end

/-! ### The outcomes of a step -/

/-- A text that a step works on: its argument, or else the present value. -/
def Step.Takes (s : Step) (v : Value) (text : String) : Prop :=
  s.argument.or v.scalarText? = some text

/-- What a step can object to. -/
inductive Step.Objects : Step → Objection → Prop
  | base64NotScalar {argument : Option String} : Objects ⟨.base64, argument⟩ .base64NotScalar
  | base64 {argument : Option String} (fault : Base64.Fault) :
      Objects ⟨.base64, argument⟩ (.base64 fault)
  | takesNoArgument {m : Modifier} {argument : String} : m = .bool ∨ m = .not →
      Objects ⟨m, some argument⟩ (.takesNoArgument m)
  | directUndefined : Objects ⟨.direct, none⟩ .directUndefined
  | enumType {argument : Option String} : Objects ⟨.enum, argument⟩ .enumType
  | notInteger {argument : Option String} : Objects ⟨.int, argument⟩ .notInteger
  | notFloat {argument : Option String} : Objects ⟨.float, argument⟩ .notFloat
  | jsonNotUtf8 {argument : Option String} : Objects ⟨.json, argument⟩ .jsonNotUtf8
  | jsonNotScalar {argument : Option String} : Objects ⟨.json, argument⟩ .jsonNotScalar
  | json {argument : Option String} {text : String} {error : Json.Error} :
      Json.ofText text = .error error → Objects ⟨.json, argument⟩ (.json error)
  | notIndexable {argument : Option String} : Objects ⟨.key, argument⟩ .notIndexable
  | csvNotScalar {argument : Option String} : Objects ⟨.strcsv, argument⟩ .csvNotScalar
  | url {argument : Option String} (refusal : Url.Refusal) : Objects ⟨.url, argument⟩ (.url refusal)

namespace World

/-- The values that a step can make of the present one. -/
inductive Makes (w : World) (v : Value) : Step → Value → Prop
  | base64 {argument : Option String} {payload : String} {bytes : List UInt8} :
      Step.Takes ⟨.base64, argument⟩ v payload → Base64.decode payload.toList = .ok bytes →
      Makes w v ⟨.base64, argument⟩ (.ofBytes bytes)
  | bool {argument : Option String} (b : Bool) : Makes w v ⟨.bool, argument⟩ (.bool b)
  | not {argument : Option String} (b : Bool) : Makes w v ⟨.not, argument⟩ (.bool b)
  | const {argument : Option String} {name : String} {value : Value} :
      Step.Takes ⟨.const, argument⟩ v name → w.lookupConstant? name = some value →
      Makes w v ⟨.const, argument⟩ value
  | direct {text : String} : Makes w v ⟨.direct, some text⟩ (.string text)
  | enum {argument : Option String} {case : EnumCase} :
      w.enumCase? (argument.getD "") v = some case → Makes w v ⟨.enum, argument⟩ (.enumCase case)
  | env {argument : Option String} {name text : String} :
      Step.Takes ⟨.env, argument⟩ v name → w.lookupVariable? name = some text →
      Makes w v ⟨.env, argument⟩ (.string text)
  | file {argument : Option String} {path : String} {bytes : List UInt8} :
      Step.Takes ⟨.file, argument⟩ v path → w.fileBytes path = .ok bytes →
      Makes w v ⟨.file, argument⟩ (.ofBytes bytes)
  | float {argument : Option String} {x : Binary64} :
      v.toFloat? = some x → Makes w v ⟨.float, argument⟩ (.float x)
  | int {argument : Option String} {n : Int64} :
      v.toInt? = some n → Makes w v ⟨.int, argument⟩ (.int n)
  | json {argument : Option String} {text : String} {document : Json} :
      Json.ofText text = .ok document → Makes w v ⟨.json, argument⟩ (.ofJson document)
  | item {argument : Option String} {items : List Value} {i : Nat} {value : Value} :
      v = .sequence items → sequenceIndex? (argument.getD "") = some i → items[i]? = some value →
      Makes w v ⟨.key, argument⟩ value
  | entry {argument : Option String} {entries : Entries Value} {value : Value} :
      v = .mapping entries → Entries.get? entries (argument.getD "") = some value →
      Makes w v ⟨.key, argument⟩ value
  | queryString {argument : Option String} {query : List Char} {entries : Entries Value} :
      Query.parse query = some entries → Makes w v ⟨.queryString, argument⟩ (.mapping entries)
  | require {argument : Option String} {path : String} {value : Value} :
      Step.Takes ⟨.require, argument⟩ v path → w.loadDocument path = .ok value →
      Makes w v ⟨.require, argument⟩ value
  | strcsv {argument : Option String} (fields : List String) :
      Makes w v ⟨.strcsv, argument⟩ (.sequence (fields.map .string))
  | string {argument : Option String} : Makes w v ⟨.string, argument⟩ (.string v.toText)
  | trim {argument : Option String} : Makes w v ⟨.trim, argument⟩ v.trim
  | url {argument : Option String} {text : List Char} {parts : Entries Value} :
      Url.decompose text = .ok parts → Makes w v ⟨.url, argument⟩ (.mapping parts)
  | urlencode {argument : Option String} : Makes w v ⟨.urlencode, argument⟩ v.urlencode

/-- The errors that a step can raise for a heap. -/
inductive Raises (w : World) (v : Value) (s : Step) : (String → ResolveError) → Prop
  | objection {objection : Objection} : s.Objects objection → Raises w v s objection.error
  | name {subject : String} : subject ∈ ["constant", "environment", "file"] →
      Raises w v s (.invalidName subject v.typeName)
  | undefined (kind : Reference) {name : String} : s.Takes v name →
      Raises w v s (.undefinedReference kind name)
  | key : Raises w v s (.keyNotFound (s.argument.getD "") v.jsonText)
  | enumType : Raises w v s (.invalidEnum (s.argument.getD ""))
  | enumCase : Raises w v s (.unsupportedCase (s.argument.getD "") v.jsonText)
  | missing {path : String} : s.Takes v path → Raises w v s (.fileNotFound path)
  | file {path : String} {error : FileError} : s.Takes v path → w.fileBytes path = .error error →
      Raises w v s (.fileRead path error.message)
  | document {path : String} {error : LoadError} : s.Takes v path →
      w.loadDocument path = .error error → Raises w v s (.load path error.message)

/-- What comes of a place that a step comes to. -/
abbrev Leads (w : World) (v : Value) (s : Step) (place : String → Except Failure Value) : Prop :=
  Outcome (w.Makes v s) (w.Raises v s) place

end World

section
variable {w : World} {v : Value} {s : Step} {argument : Option String}
  {R : (String → ResolveError) → Prop}

theorem outcome_objection {α : Type} {G : α → Prop} {objection : Objection}
    (objects : s.Objects objection) :
    Outcome G (w.Raises v s) fun heap => .error (.reported (objection.error heap)) :=
  outcome_error (.objection objects)

theorem Step.outcome_operand {refusal : String → ResolveError} (raises : R refusal) :
    Outcome (s.Takes v) R fun heap => reported (s.operand v (refusal heap)) := by
  simp only [operand]
  cases given : s.argument with
  | some text => exact outcome_ok (by simp [Takes, given])
  | none =>
    cases scalar : v.scalarText? with
    | some text => exact outcome_ok (by simp [Takes, given, scalar])
    | none => exact outcome_error raises

theorem Step.outcome_nameOperand {subject : String}
    (named : subject ∈ ["constant", "environment", "file"]) :
    Outcome (s.Takes v) (w.Raises v s) fun heap => reported (s.nameOperand v subject heap) :=
  outcome_operand (.name named)

theorem Step.outcome_decodeBase64 :
    w.Leads v ⟨.base64, argument⟩ fun heap => reported (Step.decodeBase64 ⟨.base64, argument⟩ v heap) := by
  simp only [decodeBase64, reported_bind]
  refine (outcome_operand (.objection .base64NotScalar)).bind fun payload taken => ?_
  cases decoded : Base64.decode payload.toList with
  | ok bytes => exact outcome_ok (.base64 taken decoded)
  | error fault => exact outcome_objection (.base64 fault)

theorem Step.outcome_truth {m : Modifier} (refuses : m = .bool ∨ m = .not) (f : Bool → Bool)
    (makes : ∀ b, w.Makes v ⟨m, argument⟩ (.bool b)) :
    w.Leads v ⟨m, argument⟩ fun heap =>
      reported ((Step.truth ⟨m, argument⟩ v heap).map fun b => .bool (f b)) := by
  cases argument with
  | some text => exact outcome_objection (.takesNoArgument refuses)
  | none => exact outcome_ok (makes (f v.isTruthy))

theorem Step.outcome_direct :
    w.Leads v ⟨.direct, argument⟩ fun heap => reported (Step.direct ⟨.direct, argument⟩ heap) := by
  cases argument with
  | some text => exact outcome_ok .direct
  | none => exact outcome_objection .directUndefined

theorem Step.outcome_index :
    w.Leads v ⟨.key, argument⟩ fun heap => reported (Step.index ⟨.key, argument⟩ v heap) := by
  unfold index
  cases v with
  | sequence items =>
    dsimp only
    cases found : (sequenceIndex? (argument.getD "")).bind (items[·]?) with
    | some part =>
      obtain ⟨i, index, at_i⟩ := Option.bind_eq_some_iff.mp found
      exact outcome_ok (.item rfl index at_i)
    | none => exact outcome_error .key
  | mapping entries =>
    dsimp only
    cases found : Entries.get? entries (argument.getD "") with
    | some part => exact outcome_ok (.entry rfl found)
    | none => exact outcome_error .key
  | null | bool | int | float | string | bytes | enumCase => exact outcome_objection .notIndexable

theorem Value.outcome_parseJson :
    w.Leads v ⟨.json, argument⟩ fun heap => reported (v.parseJson heap) := by
  have spelled (u : Value) :
      w.Leads v ⟨.json, argument⟩ fun heap => reported (parseJson.spelled heap u) := by
    simp only [parseJson.spelled]
    cases u.scalarText? with
    | none => exact outcome_objection .jsonNotScalar
    | some text =>
      dsimp only
      cases read : Json.ofText text with
      | ok document => exact outcome_ok (.json read)
      | error error => exact outcome_objection (.json read)
  simp only [parseJson]
  split
  · split
    · exact outcome_objection .jsonNotUtf8
    · exact spelled _
  · exact spelled v

theorem Value.outcome_parseCsv :
    w.Leads v ⟨.strcsv, argument⟩ fun heap => reported (v.parseCsv heap) := by
  simp only [parseCsv]
  cases v.scalarText? with
  | none => exact outcome_objection .csvNotScalar
  | some text =>
    dsimp only
    split
    · exact outcome_ok (.strcsv [])
    · refine outcome_ok ?_
      rw [← Function.comp_def, ← List.map_map]
      exact .strcsv _

theorem Value.outcome_parseUrl :
    w.Leads v ⟨.url, argument⟩ fun heap => reported (v.parseUrl heap) := by
  simp only [parseUrl]
  cases v.scalarText? with
  | none => exact outcome_objection (.url .invalid)
  | some text =>
    dsimp only
    cases decomposed : Url.decompose text.toList with
    | ok parts => exact outcome_ok (.url decomposed)
    | error refusal => exact outcome_objection (.url refusal)

theorem Value.outcome_parseQuery : w.Leads v ⟨.queryString, argument⟩ fun _ => v.parseQuery := by
  simp only [parseQuery, ofQuery]
  cases parsed : Query.parse (Query.component v.toText.toList) with
  | some entries => exact outcome_ok (.queryString parsed)
  | none => exact .overflow fun _ => rfl

theorem Value.outcome_toFloatValue :
    w.Leads v ⟨.float, argument⟩ fun heap => reported (v.toFloatValue heap) := by
  simp only [toFloatValue]
  cases read : v.toFloat? with
  | some x => exact outcome_ok (.float read)
  | none => exact outcome_objection .notFloat

theorem Value.outcome_toIntValue :
    w.Leads v ⟨.int, argument⟩ fun heap => reported (v.toIntValue heap) := by
  simp only [toIntValue]
  cases read : v.toInt? with
  | some n => exact outcome_ok (.int read)
  | none => exact outcome_objection .notInteger

namespace World

theorem outcome_constant :
    w.Leads v ⟨.const, argument⟩ fun heap => reported (w.constant ⟨.const, argument⟩ v heap) := by
  simp only [constant, reported_bind]
  refine (Step.outcome_nameOperand (by simp)).bind fun name taken => ?_
  cases found : w.lookupConstant? name with
  | some value => exact outcome_ok (.const taken found)
  | none => exact outcome_error (.undefined .constant taken)

theorem outcome_environmentVariable : w.Leads v ⟨.env, argument⟩ fun heap =>
    reported (w.environmentVariable ⟨.env, argument⟩ v heap) := by
  simp only [environmentVariable, reported_bind]
  refine (Step.outcome_nameOperand (by simp)).bind fun name taken => ?_
  cases found : w.lookupVariable? name with
  | some text => exact outcome_ok (.env taken found)
  | none => exact outcome_error (.undefined .environmentVariable taken)

theorem outcome_enumCase :
    w.Leads v ⟨.enum, argument⟩ fun heap => reported (w.enumCase ⟨.enum, argument⟩ v heap) := by
  have search : w.Leads v ⟨.enum, argument⟩ fun heap =>
      reported (w.caseOf (argument.getD "") v heap) := by
    simp only [caseOf]
    split
    · exact outcome_error .enumType
    · cases found : w.enumCase? (argument.getD "") v with
      | some case => exact outcome_ok (.enum found)
      | none => exact outcome_error .enumCase
  simp only [enumCase]
  cases v with
  | string | int => exact search
  | null | bool | float | bytes | sequence | mapping | enumCase => exact outcome_objection .enumType

theorem outcome_existingFile : Outcome (s.Takes v) (w.Raises v s) fun heap =>
    reported (w.existingFile s v heap) := by
  simp only [existingFile, reported_bind]
  refine (Step.outcome_nameOperand (by simp)).bind fun path taken => ?_
  split
  · exact outcome_ok taken
  · exact outcome_error (.missing taken)

theorem outcome_fileContent :
    w.Leads v ⟨.file, argument⟩ fun heap => reported (w.fileContent ⟨.file, argument⟩ v heap) := by
  simp only [fileContent, reported_bind]
  refine outcome_existingFile.bind fun path taken => ?_
  cases content : w.fileBytes path with
  | ok bytes => exact outcome_ok (.file taken content)
  | error error =>
    cases error with
    | notFound => exact outcome_error (.missing taken)
    | permissionDenied | io => exact outcome_error (.file taken content)

theorem outcome_document :
    w.Leads v ⟨.require, argument⟩ fun heap => reported (w.document ⟨.require, argument⟩ v heap) := by
  simp only [document, reported_bind]
  refine outcome_existingFile.bind fun path taken => ?_
  cases loaded : w.loadDocument path with
  | ok value => exact outcome_ok (.require taken loaded)
  | error error => exact outcome_error (.document taken loaded)

theorem outcome_apply (w : World) (s : Step) (v : Value) : w.Leads v s (w.apply s v) := by
  obtain ⟨modifier, argument⟩ := s
  cases modifier with
  | base64 => exact Step.outcome_decodeBase64
  | bool => exact Step.outcome_truth (.inl rfl) id .bool
  | not => exact Step.outcome_truth (.inr rfl) (!·) .not
  | const => exact outcome_constant
  | direct => exact Step.outcome_direct
  | enum => exact outcome_enumCase
  | env => exact outcome_environmentVariable
  | file => exact outcome_fileContent
  | float => exact Value.outcome_toFloatValue
  | int => exact Value.outcome_toIntValue
  | json => exact Value.outcome_parseJson
  | key => exact Step.outcome_index
  | queryString => exact Value.outcome_parseQuery
  | require => exact outcome_document
  | strcsv => exact Value.outcome_parseCsv
  | string => exact outcome_ok .string
  | trim => exact outcome_ok .trim
  | url => exact Value.outcome_parseUrl
  | urlencode => exact outcome_ok .urlencode

theorem makes_of_apply {heap : String} {result : Value} (given : w.apply s v heap = .ok result) :
    w.Makes v s result :=
  (w.outcome_apply s v).of_ok given

theorem raises_of_apply {heap : String} {e : ResolveError}
    (failed : w.apply s v heap = .error (.reported e)) :
    ∃ raise, w.Raises v s raise ∧ e = raise heap :=
  (w.outcome_apply s v).of_error failed

/-! ### Runs -/

/-- A run fails where the first step fails on the value that the steps before it have made. -/
theorem run_eq_error_iff {steps : List Step} {first : Value} {heap : String} {failure : Failure} :
    w.run steps first heap = .error failure ↔
      ∃ before s after v, steps = before ++ s :: after ∧ w.run before first heap = .ok v ∧
        w.apply s v heap = .error failure := by
  induction steps generalizing first with
  | nil => simp [run, pure, Except.pure]
  | cons s steps ih =>
    have next : w.run (s :: steps) first heap =
        (w.apply s first heap).bind fun v => w.run steps v heap := rfl
    rw [next]
    -- the first step fails, or the others fail on the value that it makes
    constructor
    · intro failed
      cases applied : w.apply s first heap with
      | error other =>
        obtain rfl : other = failure := by simpa [applied, Except.bind] using failed
        exact ⟨[], s, steps, first, rfl, rfl, applied⟩
      | ok v =>
        rw [applied] at failed
        obtain ⟨before, t, after, u, rfl, made, unmade⟩ := ih.mp failed
        refine ⟨s :: before, t, after, u, rfl, ?_, unmade⟩
        rw [run, List.foldlM_cons, applied]
        exact made
    · rintro ⟨before, t, after, u, shape, made, unmade⟩
      cases before with
      | nil =>
        obtain ⟨rfl, rfl⟩ := List.cons.inj shape
        obtain rfl : first = u := Except.ok.inj made
        rw [unmade]
        rfl
      | cons _ before =>
        obtain ⟨rfl, rfl⟩ := List.cons.inj shape
        rw [run, List.foldlM_cons] at made
        cases applied : w.apply s first heap with
        | error other => simp [applied, bind, Except.bind] at made
        | ok v =>
          rw [applied] at made
          exact ih.mpr ⟨before, t, after, u, rfl, made, unmade⟩

end World

end

end EnvTemplate
