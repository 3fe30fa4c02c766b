import EnvTemplate.Json.Reader
/-! The problems that reading a JSON text can have. Their texts are fixed: none of them quotes the
input. -/
namespace EnvTemplate.Json

/-- Problems whose text holds nothing of the input. -/
def Problem.isFixed : Problem → Bool
  | .invalidType _ _ | .invalidValue _ _ | .duplicateField _ => false
  | _ => true

/-- What fails does so with a fixed problem. -/
def FailsFixed {α : Type} (result : Except Fault α) : Prop :=
  ∀ fault, result = .error fault → fault.problem.isFixed = true

variable {α β : Type}

@[simp]
theorem failsFixed_ok (x : α) : FailsFixed (.ok x) := by
  simp [FailsFixed]

@[simp]
theorem failsFixed_error {fault : Fault} :
    FailsFixed (.error fault : Except Fault α) ↔ fault.problem.isFixed = true := by
  simp [FailsFixed]

theorem FailsFixed.map {result : Except Fault α} (fixed : FailsFixed result) (f : α → β) :
    FailsFixed (result.map f) := by
  cases result with
  | error fault => simpa [Except.map] using fixed
  | ok x => simp [Except.map]

theorem FailsFixed.bind {result : Except Fault α} {f : α → Except Fault β}
    (fixed : FailsFixed result) (later : ∀ x, FailsFixed (f x)) :
    FailsFixed (result >>= f) := by
  cases result with
  | error fault => simpa [Bind.bind, Except.bind] using fixed
  | ok x => exact later x

namespace Reader

@[simp]
theorem failsFixed_failBefore {problem : Problem} {rest : List UInt8} :
    FailsFixed (failBefore problem rest : Result α) ↔ problem.isFixed = true :=
  failsFixed_error

@[simp]
theorem failsFixed_failOn {problem : Problem} {rest : List UInt8} :
    FailsFixed (failOn problem rest : Result α) ↔ problem.isFixed = true :=
  failsFixed_error

theorem failsFixed_ident (expected : List Char) (input : List UInt8) :
    FailsFixed (ident expected input) := by
  fun_induction ident expected input <;> simp_all [Problem.isFixed]

theorem failsFixed_finishFloat (negative : Bool) (significand : Nat) (scale : Int)
    (input : List UInt8) : FailsFixed (finishFloat negative significand scale input) := by
  rw [finishFloat]
  split <;> simp [Problem.isFixed]

theorem failsFixed_exponentDigits (negative : Bool) (significand : Nat) (scale : Int)
    (negativeExponent : Bool) (exponent : Nat) (input : List UInt8) :
    FailsFixed (exponentDigits negative significand scale negativeExponent exponent input) := by
  fun_induction exponentDigits negative significand scale negativeExponent exponent input <;>
    simp_all [Problem.isFixed, failsFixed_finishFloat]

theorem failsFixed_exponentPart (negative : Bool) (significand : Nat) (scale : Int)
    (input : List UInt8) : FailsFixed (exponentPart negative significand scale input) := by
  fun_cases exponentPart negative significand scale input <;>
    simp_all [Problem.isFixed, failsFixed_exponentDigits]

theorem failsFixed_afterFraction (negative : Bool) (significand : Nat) (scale : Int)
    (input : List UInt8) : FailsFixed (afterFraction negative significand scale input) := by
  fun_cases afterFraction negative significand scale input <;>
    simp_all [failsFixed_finishFloat, failsFixed_exponentPart]

theorem failsFixed_fractionDigits (negative first : Bool) (significand : Nat) (scale : Int)
    (input : List UInt8) : FailsFixed (fractionDigits negative first significand scale input) := by
  fun_induction fractionDigits negative first significand scale input <;>
    simp_all [Problem.isFixed, failsFixed_afterFraction]

theorem failsFixed_longInteger (negative : Bool) (significand : Nat) (scale : Int)
    (input : List UInt8) : FailsFixed (longInteger negative significand scale input) := by
  fun_induction longInteger negative significand scale input <;>
    simp_all [failsFixed_finishFloat, failsFixed_fractionDigits, failsFixed_exponentPart]

theorem failsFixed_afterInteger (negative : Bool) (significand : Nat) (input : List UInt8) :
    FailsFixed (afterInteger negative significand input) := by
  fun_cases afterInteger negative significand input <;>
    simp_all [failsFixed_fractionDigits, failsFixed_exponentPart]

theorem failsFixed_integerDigits (negative : Bool) (significand : Nat) (input : List UInt8) :
    FailsFixed (integerDigits negative significand input) := by
  fun_induction integerDigits negative significand input <;>
    simp_all [failsFixed_afterInteger, failsFixed_longInteger]

theorem failsFixed_number (negative : Bool) (input : List UInt8) :
    FailsFixed (number negative input) := by
  fun_cases number negative input <;>
    simp_all [Problem.isFixed, failsFixed_afterInteger, failsFixed_integerDigits]

theorem failsFixed_prepend (front : List UInt8) {result : Result (List UInt8)}
    (fixed : FailsFixed result) : FailsFixed (prepend front result) := by
  fun_cases prepend front result <;> simp_all

theorem failsFixed_stringBytes (input : List UInt8) : FailsFixed (stringBytes input) := by
  fun_induction stringBytes input <;> simp_all [Problem.isFixed, failsFixed_prepend]

theorem failsFixed_string (input : List UInt8) : FailsFixed (string input) := by
  have bytes := failsFixed_stringBytes input
  fun_cases string input <;> simp_all [Problem.isFixed]

theorem failsFixed_valueWith {container : UInt8 → Reader Json}
    (inner : ∀ opening rest, FailsFixed (container opening rest)) (input : List UInt8) :
    FailsFixed (valueWith container input) := by
  fun_cases valueWith container input <;>
    simp_all [Problem.isFixed, FailsFixed.map, failsFixed_ident, failsFixed_number,
      failsFixed_string]

theorem failsFixed_nextItem (first : Bool) (input : List UInt8) :
    FailsFixed (nextItem first input) := by
  fun_cases nextItem first input <;> simp_all [Problem.isFixed]

theorem failsFixed_items {item : Reader Json} (inner : ∀ input, FailsFixed (item input))
    (bound : Nat) (first : Bool) (input : List UInt8) :
    FailsFixed (items item bound first input) := by
  induction bound generalizing first input with
  | zero => simp [items, Problem.isFixed]
  | succ bound ih =>
    have next := failsFixed_nextItem first input
    rw [items]
    split
    · simp_all
    · simp
    · rename_i start _ _
      have here := inner start
      split
      · simp_all
      · rename_i rest _
        have later := ih false rest
        split <;> simp_all

theorem failsFixed_nextKey (first : Bool) (input : List UInt8) :
    FailsFixed (nextKey first input) := by
  fun_cases nextKey first input <;> simp_all [Problem.isFixed]

theorem failsFixed_colon (input : List UInt8) : FailsFixed (colon input) := by
  fun_cases colon input <;> simp_all [Problem.isFixed]

theorem failsFixed_members {value : Reader Json} (inner : ∀ input, FailsFixed (value input))
    (bound : Nat) (first : Bool) (input : List UInt8) :
    FailsFixed (members value bound first input) := by
  induction bound generalizing first input with
  | zero => simp [members, Problem.isFixed]
  | succ bound ih =>
    have next := failsFixed_nextKey first input
    rw [members]
    split
    · simp_all
    · simp
    · refine (failsFixed_string _).bind fun _ => (failsFixed_colon _).bind fun _ => ?_
      exact (inner _).bind fun _ => (ih false _).bind fun _ => failsFixed_ok _

theorem failsFixed_value (depth : Nat) (input : List UInt8) : FailsFixed (value depth input) := by
  induction depth generalizing input with
  | zero => exact failsFixed_valueWith (fun _ _ => by simp [Problem.isFixed]) input
  | succ depth ih =>
    refine failsFixed_valueWith (fun opening rest => ?_) input
    split
    · exact (failsFixed_items ih _ _ _).map _
    · exact (failsFixed_members ih _ _ _).map _

end Reader

theorem FailsFixed.finish {result : Result α} (fixed : FailsFixed result) :
    FailsFixed (finish result) := by
  cases result with
  | error fault => simpa [Json.finish] using fixed
  | ok pair =>
    obtain ⟨x, rest⟩ := pair
    rw [Json.finish]
    split <;> simp [Problem.isFixed]

/-- Reading a document fails with a fixed problem. -/
theorem isFixed_of_ofText {text : String} {error : Error} (failed : ofText text = .error error) :
    error.problem.isFixed = true := by
  have whole := (Reader.failsFixed_value maxDepth (utf8 text)).finish
  rw [ofText, read, readAll] at failed
  split at failed
  · contradiction
  · rename_i fault place
    obtain rfl := Except.error.inj failed
    exact whole fault place

end EnvTemplate.Json
