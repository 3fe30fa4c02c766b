import EnvTemplate.Proofs.Entries.History
import EnvTemplate.Proofs.Failure
import EnvTemplate.Resolve
import EnvTemplate.Tables
/-! Cases of enums after any history of registrations. Only the latest registration of a type counts.
Among its names, in the order in which they first came, the first one answers whose last backing is
the value. -/
namespace EnvTemplate

open Entries (IsLast IsFirst)

theorem Backing.admits_iff {backing : Backing} {v : Value} :
    backing.admits v = true ↔ backing.toValue = v := by
  cases backing <;> cases v <;> simp [admits, toValue]

namespace EnumTypes

abbrev Registration := String × List (String × Backing)

def ofRegistrations (calls : List Registration) : EnumTypes :=
  calls.foldl (fun enums call => enums.register call.1 call.2) []

theorem get?_ofRegistrations (calls : List Registration) (enumType : String) :
    Entries.get? (ofRegistrations calls) enumType =
      (Entries.get? (Entries.ofPairs calls) enumType).map Entries.ofPairs := by
  induction calls using List.reverseRecOn with
  | nil => rfl
  | append_singleton front call ih =>
    have step : ofRegistrations (front ++ [call]) =
        (ofRegistrations front).register call.1 call.2 := by
      rw [ofRegistrations, List.foldl_append]
      rfl
    rw [step, register, Entries.get?_insert, ih, Entries.ofPairs_concat, Entries.get?_insert]
    split <;> rfl

theorem find?_admits_eq_some_iff {cases : List (String × Backing)} {v : Value} {name : String}
    {backing : Backing} :
    (Entries.ofPairs cases).find? (fun entry => entry.2.admits v) = some (name, backing) ↔
      IsFirst (·.toValue = v) cases name backing := by
  have first := @Entries.find?_ofPairs_eq_some_iff _ (·.admits v) cases name backing
  simpa only [Backing.admits_iff] using first

theorem find?_admits_eq_none_iff {cases : List (String × Backing)} {v : Value} :
    (Entries.ofPairs cases).find? (fun entry => entry.2.admits v) = none ↔
      ∀ name backing, IsLast cases name backing → Backing.toValue backing ≠ v := by
  rw [List.find?_eq_none]
  constructor
  · intro none name backing last same
    exact none _ (Entries.isLast_iff_mem.mp last) (Backing.admits_iff.mpr same)
  · intro none entry present admits
    exact none _ _ (Entries.isLast_iff_mem.mpr present) (Backing.admits_iff.mp admits)

/-- What a type answers for a value after registrations: only a string or an integer backs a case,
the type has to be registered, and of its latest cases the first one with this backing answers. -/
inductive Answer (calls : List Registration) (enumType : String) (v : Value) (heap : String) :
    Except Failure Value → Prop
  | refused : (∀ backing : Backing, backing.toValue ≠ v) →
      Answer calls enumType v heap (.error (.reported (Objection.enumType.error heap)))
  | unknown {backing : Backing} : backing.toValue = v → enumType ∉ Entries.keys calls →
      Answer calls enumType v heap (.error (.reported (.invalidEnum enumType heap)))
  | case {cases : List (String × Backing)} {name : String} {backing : Backing} :
      IsLast calls enumType cases → IsFirst (·.toValue = v) cases name backing →
      Answer calls enumType v heap (.ok (.enumCase ⟨enumType, name, backing⟩))
  | unsupported {backing : Backing} {cases : List (String × Backing)} : backing.toValue = v →
      IsLast calls enumType cases →
      (∀ name other, IsLast cases name other → Backing.toValue other ≠ v) →
      Answer calls enumType v heap
        (.error (.reported (.unsupportedCase enumType v.jsonText heap)))

theorem exists_answer (calls : List Registration) (enumType : String) (v : Value) (heap : String) :
    ∃ answer, Answer calls enumType v heap answer := by
  by_cases backed : ∃ backing : Backing, backing.toValue = v
  · obtain ⟨backing, backed⟩ := backed
    cases latest : Entries.get? (Entries.ofPairs calls) enumType with
    | none => exact ⟨_, .unknown backed (Entries.get?_ofPairs_eq_none_iff.mp latest)⟩
    | some cases =>
      have latest := Entries.get?_ofPairs_eq_some_iff.mp latest
      cases found : (Entries.ofPairs cases).find? fun entry => entry.2.admits v with
      | none => exact ⟨_, .unsupported backed latest (find?_admits_eq_none_iff.mp found)⟩
      | some entry => exact ⟨_, .case latest (find?_admits_eq_some_iff.mp found)⟩
  · exact ⟨_, .refused fun backing same => backed ⟨backing, same⟩⟩

/-- The latest registration alone answers in the same way. -/
theorem Answer.of_isLast {calls : List Registration} {enumType heap : String} {v : Value}
    {answer : Except Failure Value} (answers : Answer calls enumType v heap answer)
    {cases : List (String × Backing)} (latest : IsLast calls enumType cases) :
    Answer [(enumType, cases)] enumType v heap answer := by
  have single : IsLast [(enumType, cases)] enumType cases := ⟨[], [], rfl, List.not_mem_nil⟩
  cases answers with
  | refused other => exact .refused other
  | unknown _ absent => exact absurd latest.mem_keys absent
  | case last first =>
    obtain rfl := last.unique latest
    exact .case single first
  | unsupported backed last none =>
    obtain rfl := last.unique latest
    exact .unsupported backed single none

theorem Answer.toText_eq {calls : List Registration} {enumType heap : String} {v part : Value}
    (answers : Answer calls enumType v heap (.ok part)) : part.toText = v.toText := by
  cases answers with
  | @case cases name backing _ first =>
    have backed : backing.toValue = v := first.holds
    rw [← backed]
    cases backing <;> rfl

end EnumTypes

namespace World

open EnumTypes (Registration Answer)

def registering (w : World) (calls : List Registration) : World :=
  { w with
    isBackedEnum := (EnumTypes.ofRegistrations calls).isRegistered
    enumCase? := (EnumTypes.ofRegistrations calls).case? }

variable (w : World) {calls : List Registration} {argument : Option String} {v : Value}
  {heap : String}

/-- A string or an integer is looked up in the cases of the type. -/
theorem apply_enum_toValue (backing : Backing) :
    (w.registering calls).apply ⟨.enum, argument⟩ backing.toValue heap =
      (Entries.get? (EnumTypes.ofRegistrations calls) (argument.getD "")).elim
        (.error (.reported (.invalidEnum (argument.getD "") heap))) fun cases =>
          (cases.find? fun entry => entry.2.admits backing.toValue).elim
            (.error (.reported
              (.unsupportedCase (argument.getD "") backing.toValue.jsonText heap))) fun entry =>
              .ok (.enumCase ⟨argument.getD "", entry.1, entry.2⟩) := by
  have search : (w.registering calls).apply ⟨.enum, argument⟩ backing.toValue heap =
      reported ((w.registering calls).caseOf (argument.getD "") backing.toValue heap) := by
    cases backing <;> rfl
  rw [search, caseOf]
  cases latest : Entries.get? (EnumTypes.ofRegistrations calls) (argument.getD "") with
  | none => simp [registering, EnumTypes.isRegistered, latest]
  | some cases =>
    cases found : cases.find? fun entry => entry.2.admits backing.toValue with
    | none => simp [registering, EnumTypes.isRegistered, EnumTypes.case?, latest, found]
    | some entry => simp [registering, EnumTypes.isRegistered, EnumTypes.case?, latest, found]

theorem apply_of_answer {answer : Except Failure Value}
    (answers : Answer calls (argument.getD "") v heap answer) :
    (w.registering calls).apply ⟨.enum, argument⟩ v heap = answer := by
  have apply_toValue : ∀ backing : Backing,
      (w.registering calls).apply ⟨.enum, argument⟩ backing.toValue heap = _ :=
    w.apply_enum_toValue
  simp only [EnumTypes.get?_ofRegistrations] at apply_toValue
  cases answers with
  | refused other =>
    -- Strings and integers are what backs a case; the step refuses the rest without a look-up.
    cases v with
    | string s => exact absurd rfl (other (.string s))
    | int n => exact absurd rfl (other (.int n))
    | _ => rfl
  | @unknown backing backed absent =>
    subst backed
    rw [apply_toValue, Entries.get?_ofPairs_eq_none_iff.mpr absent]
    rfl
  | @case cases name backing latest first =>
    have backed : backing.toValue = v := first.holds
    have found := EnumTypes.find?_admits_eq_some_iff.mpr first
    subst backed
    rw [apply_toValue, Entries.get?_ofPairs_eq_some_iff.mpr latest]
    simp only [Option.map_some, Option.elim_some, found]
  | @unsupported backing cases backed latest none =>
    have missing := EnumTypes.find?_admits_eq_none_iff.mpr none
    subst backed
    rw [apply_toValue, Entries.get?_ofPairs_eq_some_iff.mpr latest]
    simp only [Option.map_some, Option.elim_some, missing, Option.elim_none]

/-- Whatever has been registered before, the step answers by the latest registration of its type: it
refuses what is no string and no integer, then a type that is not registered, and then what backs no
case; else it gives the first case with this backing. The text of the case is that of the value, and
without the earlier registrations the answer is the same. -/
theorem apply_enum_eq_iff (calls : List Registration) (argument : Option String) (v : Value)
    (heap : String) :
    (∀ answer, (w.registering calls).apply ⟨.enum, argument⟩ v heap = answer ↔
      Answer calls (argument.getD "") v heap answer) ∧
    (∀ part, (w.registering calls).apply ⟨.enum, argument⟩ v heap = .ok part →
      part.toText = v.toText) ∧
    ∀ cases, IsLast calls (argument.getD "") cases →
      (w.registering calls).apply ⟨.enum, argument⟩ v heap =
        (w.registering [(argument.getD "", cases)]).apply ⟨.enum, argument⟩ v heap := by
  have answered : ∀ answer, (w.registering calls).apply ⟨.enum, argument⟩ v heap = answer ↔
      Answer calls (argument.getD "") v heap answer := by
    intro answer
    constructor
    · rintro rfl
      obtain ⟨answer, answers⟩ := EnumTypes.exists_answer calls (argument.getD "") v heap
      rwa [w.apply_of_answer answers]
    · exact w.apply_of_answer
  refine ⟨answered, ?_, ?_⟩
  · intro part same
    exact ((answered _).mp same).toText_eq
  · intro cases latest
    have answers := ((answered _).mp rfl).of_isLast latest
    exact (w.apply_of_answer answers).symm

/-- Cases of which the first name gets two backings. -/
def twiceBacked : List (String × Backing) :=
  [("X", .string "7"), ("Y", .int 7), ("X", .int 7), ("Z", .string "7")]

/-- A type that is registered twice. -/
def repeatedly : List Registration :=
  [("T", [("A", .int 1)]), ("U", []), ("T", twiceBacked)]

/-- An integer that backs the first name of the latest cases, a string with the same digits that no
longer does, and the integer of an earlier registration, which the latest one alone refuses too. -/
theorem apply_enum_repeatedly :
    IsLast repeatedly "T" twiceBacked ∧
      ((Tables.world {}).registering repeatedly).apply ⟨.enum, some "T"⟩ (.int 7) "h" =
        .ok (.enumCase ⟨"T", "X", .int 7⟩) ∧
      (Value.enumCase ⟨"T", "X", .int 7⟩).toText = (Value.int 7).toText ∧
      ((Tables.world {}).registering repeatedly).apply ⟨.enum, some "T"⟩ (.string "7") "h" =
        .ok (.enumCase ⟨"T", "Z", .string "7"⟩) ∧
      ((Tables.world {}).registering repeatedly).apply ⟨.enum, some "T"⟩ (.int 1) "h" =
        .error (.reported (.unsupportedCase "T" (Value.int 1).jsonText "h")) ∧
      ((Tables.world {}).registering [("T", twiceBacked)]).apply ⟨.enum, some "T"⟩ (.int 1) "h" =
        .error (.reported (.unsupportedCase "T" (Value.int 1).jsonText "h")) := by
  have latest : IsLast repeatedly "T" twiceBacked :=
    ⟨[("T", [("A", .int 1)]), ("U", [])], [], rfl, List.not_mem_nil⟩
  have backed : Backing.toValue (.int 1) = .int 1 := rfl
  obtain ⟨ofInt, sameText, _⟩ :=
    (Tables.world {}).apply_enum_eq_iff repeatedly (some "T") (.int 7) "h"
  obtain ⟨ofString, _, _⟩ :=
    (Tables.world {}).apply_enum_eq_iff repeatedly (some "T") (.string "7") "h"
  obtain ⟨ofEarlier, _, alone⟩ :=
    (Tables.world {}).apply_enum_eq_iff repeatedly (some "T") (.int 1) "h"
  have first := (ofInt _).mpr (.case latest (EnumTypes.find?_admits_eq_some_iff.mp rfl))
  have last := (ofString _).mpr (.case latest (EnumTypes.find?_admits_eq_some_iff.mp rfl))
  have gone := (ofEarlier _).mpr
    (.unsupported backed latest (EnumTypes.find?_admits_eq_none_iff.mp rfl))
  exact ⟨latest, first, sameText _ first, last, gone, (alone _ latest).symm.trans gone⟩

end World

end EnvTemplate
