import EnvTemplate.Proofs.Template.Parts
import EnvTemplate.Proofs.World.Unmarked
/-! The name inside the marker in what substitution gives back. Results and failures are free of it,
as are the text and the world, if no placeholder holds a doubled percent sign and the data do not put
the name together. A placeholder that holds one hands the marker to its steps. -/
namespace EnvTemplate
open Template Placeholder Relation

theorem Value.Unmarked.renderPlain {v : Value} (unmarked : v.Unmarked) :
    Template.Unmarked (renderPlain v).toList := by
  cases v with
  | string s => exact unmarked
  | bytes bs =>
    rw [Template.renderPlain, String.toList_ofList]
    exact unmarked
  | null | bool | int | float | sequence | mapping | enumCase => exact unmarked.jsonText

namespace World

/-- Parts that passes over the parts of a text lead to. -/
def Reaches (w : World) (text : String) : List (List Char) → Prop :=
  ReflTransGen (Pass w.resolve renderPlain) (escapeParts text.toList)

/-- What keeps the name inside the marker out of a substitution: no placeholder holds a doubled
percent sign, no modifier that reads or writes a code puts the name together, and it does not come
about across a border of a value. -/
structure KeepsApart (w : World) (text : String) : Prop where
  outside : ∀ parts, w.Reaches text parts → MarksOutside parts
  recoded : ∀ parts, w.Reaches text parts → ∀ part ∈ parts, ∀ heap,
    .placeholder heap ∈ pieces part → ∀ steps, Heap.parse (String.ofList heap) = .ok steps →
      w.RecodesUnmarked (String.ofList heap) steps
  seamless : ∀ parts, w.Reaches text parts → ∀ part ∈ parts,
    Seamless w.resolve renderPlain [] (pieces part)

variable {w : World} {text : String} {parts : List (List Char)}

/-- A heap in parts without the name gets an answer without it. -/
theorem KeepsApart.resolve (apart : w.KeepsApart text) (world : w.Unmarked)
    (reached : w.Reaches text parts) (unmarked : ∀ part ∈ parts, Template.Unmarked part)
    {part heap : List Char} (member : part ∈ parts) (found : .placeholder heap ∈ pieces part) :
    Answers Value.Unmarked (w.resolve (String.ofList heap)) := by
  refine world.resolve ?_ (apart.recoded parts reached part member heap found)
  rw [String.toList_ofList]
  exact (unmarked part member).of_part (heap_infix_of_mem_pieces found)

/-- Passes keep the name out of all parts. -/
theorem KeepsApart.unmarked (apart : w.KeepsApart text) (world : w.Unmarked)
    (plain : Template.Unmarked text.toList) (reached : w.Reaches text parts) :
    ∀ part ∈ parts, Template.Unmarked part := by
  induction reached with
  | refl => exact fun part member => unmarked_of_mem_escapeParts plain member
  | @tail parts later run pass ih =>
    intro out member
    obtain ⟨part, among, filled⟩ := pass.exists_fill member
    have before : Template.Unmarked ([] ++ (pieces part).flatMap Piece.text) := by
      rw [List.nil_append, flatMap_text_pieces]
      exact ih part among
    have written : ∀ heap, .placeholder heap ∈ pieces part → ∀ v,
        w.resolve (String.ofList heap) = .ok v → Template.Unmarked (renderPlain v).toList := by
      intro heap found v value
      have answer := apart.resolve world run ih among found
      rw [value] at answer
      exact answer.renderPlain
    exact unmarked_append_of_fill (apart.seamless parts run part among) List.nil_suffix before
      written filled

/-- No result holds the whole marker. If the text and the world lack the name inside it, and it is
kept apart, then substitution is the one without a marker, and neither its result nor its failure
holds the name. -/
theorem substitute_unmarked (w : World) (limit : Nat) (text : String) :
    (∀ out, substitute w.resolve renderPlain limit text = .ok out → ¬ marker <:+: out.toList) ∧
    (w.Unmarked → Template.Unmarked text.toList → w.KeepsApart text →
      substitute w.resolve renderPlain limit text =
        substituteParts w.resolve renderPlain limit text ∧
      (∀ out, substitute w.resolve renderPlain limit text = .ok out →
        Template.Unmarked out.toList) ∧
      ∀ error, substitute w.resolve renderPlain limit text = .error (.reported error) →
        error.Unmarked ∧ Template.Unmarked error.message.toList) := by
  constructor
  · intro out done
    rw [substitute] at done
    cases passed : passes w.resolve renderPlain limit limit (mask text.toList) with
    | error error => simp [passed, Except.map] at done
    | ok last =>
      rw [passed, Except.map] at done
      obtain rfl := Except.ok.inj done
      rw [String.toList_ofList]
      exact not_marker_infix_unmask last
  · intro world plain apart
    have unmarked := fun parts (reached : w.Reaches text parts) =>
      apart.unmarked world plain reached
    have same : substitute w.resolve renderPlain limit text =
        substituteParts w.resolve renderPlain limit text :=
      substitute_eq_substituteParts apart.outside unmarked
    refine ⟨same, ?_⟩
    rw [same, substituteParts]
    obtain ⟨last, reached, done | ⟨failure, failed, ends⟩ | exceeded⟩ :=
      exists_partPasses w.resolve renderPlain limit limit (escapeParts text.toList)
    · rw [done, Except.map]
      refine ⟨fun out made => ?_, fun error failed => by contradiction⟩
      obtain rfl := Except.ok.inj made
      rw [String.toList_ofList]
      exact unmarked_intercalate (by decide) (unmarked last reached)
    · rw [ends, Except.map]
      refine ⟨fun out made => by contradiction, fun error made => ?_⟩
      obtain rfl := Except.error.inj made
      obtain ⟨part, member, heap, found, unresolved⟩ := exists_of_fillParts_error failed
      have answer := apart.resolve world reached (unmarked last reached) member found
      rw [unresolved] at answer
      exact ⟨answer, answer.message⟩
    · rw [exceeded, Except.map]
      refine ⟨fun out made => by contradiction, fun error made => ?_⟩
      obtain rfl := Failure.reported.inj (Except.error.inj made)
      have depth : (ResolveError.nestingDepthExceeded limit).Unmarked := trivial
      exact ⟨depth, depth.message⟩

/-- Where the first pass leaves no percent sign, there is nothing else to reach. -/
theorem Reaches.eq_or_eq {later : List (List Char)} (reached : w.Reaches text parts)
    (filled : Pass w.resolve renderPlain (escapeParts text.toList) later)
    (plain : ∀ part ∈ later, '%' ∉ part) : parts = escapeParts text.toList ∨ parts = later := by
  induction reached with
  | refl => exact Or.inl rfl
  | tail _ pass ih =>
    obtain rfl | rfl := ih
    · exact Or.inr (Except.ok.inj (pass.symm.trans filled))
    · exact Or.inr (Except.ok.inj (pass.symm.trans (pass_of_plain plain)))

/-- Where the first pass leaves no percent sign, only the text itself is to be looked at. -/
theorem keepsApart_of_pass {later : List (List Char)}
    (filled : Pass w.resolve renderPlain (escapeParts text.toList) later)
    (plain : ∀ part ∈ later, '%' ∉ part) (outside : MarksOutside (escapeParts text.toList))
    (recoded : ∀ part ∈ escapeParts text.toList, ∀ heap, .placeholder heap ∈ pieces part →
      ∀ steps, Heap.parse (String.ofList heap) = .ok steps →
        w.RecodesUnmarked (String.ofList heap) steps)
    (seamless : ∀ part ∈ escapeParts text.toList,
      Seamless w.resolve renderPlain [] (pieces part)) : w.KeepsApart text where
  outside parts reached := by
    obtain rfl | rfl := reached.eq_or_eq filled plain
    · exact outside
    · exact marksOutside_of_plain plain
  recoded parts reached part member heap found := by
    obtain rfl | rfl := reached.eq_or_eq filled plain
    · exact recoded part member heap found
    · rw [pieces_of_notMem (plain part member)] at found
      simp at found
  seamless parts reached part member := by
    obtain rfl | rfl := reached.eq_or_eq filled plain
    · exact seamless part member
    · rw [pieces_of_notMem (plain part member)]
      exact seamless_map_char _ _

theorem ofVariables_unmarked {pairs : Entries String}
    (unmarked : ∀ pair ∈ pairs, Template.Unmarked pair.2.toList) : (ofVariables pairs).Unmarked where
  ofVariable _ _ found := unmarked _ (Entries.mem_of_get? found)
  ofConstant _ _ found := nomatch found
  ofEnum _ _ _ _ _ found := nomatch found
  ofFile _ _ read := nomatch read
  ofFileError path _ plain failed := by
    obtain rfl := Except.error.inj failed
    have opens : Separates "File not found: ".toList := .ofList (by decide)
    have shape : (FileError.notFound path).message = "File not found: " ++ path := rfl
    rw [shape, String.toList_append]
    exact opens.append plain
  ofDocument _ _ loaded := nomatch loaded
  ofLoadError path _ plain failed := by
    obtain rfl := Except.error.inj failed
    have opens : Separates "unsupported document: ".toList := .ofList (by decide)
    have shape : (LoadError.unsupported path).message = "unsupported document: " ++ path := rfl
    rw [shape, String.toList_append]
    exact opens.append plain

theorem recodesUnmarked_urlencode :
    ∀ steps, Heap.parse "urlencode:A" = .ok steps →
      (ofVariables [("A", "a b")]).RecodesUnmarked "urlencode:A" steps := by
  intro steps read
  have parsed : Heap.parse "urlencode:A" = .ok ([] ++ [⟨.env, some "A"⟩] ++ [⟨.urlencode, none⟩]) :=
    rfl
  obtain rfl := Except.ok.inj (parsed.symm.trans read)
  refine recodesUnmarked_concat.mpr ⟨recodesUnmarked_concat.mpr
    ⟨recodesUnmarked_nil _ _, fun codes => (nomatch codes)⟩, fun _ v result ran applied => ?_⟩
  obtain rfl := Except.ok.inj ran
  obtain rfl := Except.ok.inj applied
  exact (by decide : Template.Unmarked "a+b".toList)

/-- An escaped percent sign beside a placeholder, whose value is written in a code. -/
theorem keepsApart_beside :
    (ofVariables [("A", "a b")]).KeepsApart "100%% %env(urlencode:A)%" := by
  have cut : escapeParts "100%% %env(urlencode:A)%".toList =
      ["100".toList, " %env(urlencode:A)%".toList] := by decide
  have percent : pieces "100".toList = "100".toList.map .char := pieces_of_notMem (by decide)
  have coded : pieces " %env(urlencode:A)%".toList =
      [.char ' ', .placeholder "urlencode:A".toList] := by decide
  have filled : Pass (ofVariables [("A", "a b")]).resolve renderPlain
      (escapeParts "100%% %env(urlencode:A)%".toList) ["100".toList, " a+b".toList] := rfl
  refine keepsApart_of_pass filled (by decide) ?_ ?_ ?_
  · intro heap found
    have shape : pieces (List.intercalate marker (escapeParts "100%% %env(urlencode:A)%".toList)) =
        "100".toList.map .char ++ marker.map .char ++
          [.char ' ', .placeholder "urlencode:A".toList] := by decide
    rw [shape] at found
    obtain rfl : heap = "urlencode:A".toList := by simpa using found
    decide
  · simp only [cut, List.forall_mem_cons, percent, coded]
    simpa using recodesUnmarked_urlencode
  · simp only [cut, List.forall_mem_cons, percent, coded]
    refine ⟨seamless_map_char _ _, fun v back value done => ?_, by simp⟩
    obtain rfl := Except.ok.inj done
    exact ⟨not_straddles_concat (by decide) [] _, not_straddles_nil _, trivial⟩

theorem substitute_percent_beside :
    (ofVariables [("A", "a b")]).Unmarked ∧
      Template.Unmarked "100%% %env(urlencode:A)%".toList ∧
      (ofVariables [("A", "a b")]).KeepsApart "100%% %env(urlencode:A)%" ∧
      substitute (ofVariables [("A", "a b")]).resolve renderPlain 1 "100%% %env(urlencode:A)%" =
        .ok "100% a+b" ∧
      Template.Unmarked "100% a+b".toList := by
  have world : (ofVariables [("A", "a b")]).Unmarked := ofVariables_unmarked (by decide)
  have plain : Template.Unmarked "100%% %env(urlencode:A)%".toList := by decide
  have apart := keepsApart_beside
  obtain ⟨same, results, _⟩ := (substitute_unmarked _ 1 _).2 world plain apart
  have made : substitute _ _ 1 _ = .ok "100% a+b" := same.trans rfl
  exact ⟨world, plain, apart, made, results _ made⟩

/-- The steps of a placeholder get the marker in place of an escaped percent sign in its heap, and
write it in a code or report it as a name. -/
theorem substitute_percent_in_heap :
    (ofVariables []).Unmarked ∧
      Template.Unmarked "%env(urlencode:direct:50%%)%".toList ∧
      substitute (ofVariables []).resolve renderPlain defaultLimit "%env(urlencode:direct:50%%)%" =
        .ok "50%00__ESCAPED_PERCENT__%00" ∧
      Template.Unmarked "%env(A%%)%".toList ∧
      substitute (ofVariables []).resolve renderPlain defaultLimit "%env(A%%)%" =
        .error (.reported (.undefinedReference .environmentVariable
          "A\x00__ESCAPED_PERCENT__\x00" "A\x00__ESCAPED_PERCENT__\x00")) := by
  refine ⟨ofVariables_unmarked (by simp), by decide, ?_, by decide, ?_⟩
  · have filled : fill (ofVariables []).resolve renderPlain
        (pieces (mask "%env(urlencode:direct:50%%)%".toList)) =
          .ok "50%00__ESCAPED_PERCENT__%00".toList := rfl
    have bare : ∀ heap, .placeholder heap ∉ pieces "50%00__ESCAPED_PERCENT__%00".toList := by
      have cut : pieces "50%00__ESCAPED_PERCENT__%00".toList =
          "50%00__ESCAPED_PERCENT__%00".toList.map .char := by decide
      rw [cut]
      simp
    rw [substitute, defaultLimit, passes_of_fill _ _ _ _ filled bare]
    rfl
  · have failed : fill (ofVariables []).resolve renderPlain (pieces (mask "%env(A%%)%".toList)) =
        .error (.reported (.undefinedReference .environmentVariable
          "A\x00__ESCAPED_PERCENT__\x00" "A\x00__ESCAPED_PERCENT__\x00")) := rfl
    rw [substitute, defaultLimit, passes_of_fill_error failed]
    rfl

end World
end EnvTemplate
