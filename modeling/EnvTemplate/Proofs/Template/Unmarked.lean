import EnvTemplate.Proofs.Template.Escape
/-! Texts in which the name inside the marker does not occur. The name has only capital letters and an
underscore, so a text that is put together with other characters between its parts lacks the name
exactly if every part does. -/
namespace EnvTemplate.Template
open Placeholder (Piece)

def markName : List Char := "ESCAPED_PERCENT".toList

/-- The name inside the marker does not occur in a text. -/
def Unmarked (text : List Char) : Prop :=
  ¬ markName <:+: text

instance : DecidablePred Unmarked :=
  fun _ => decidable_of_iff _ (not_congr Text.contains_iff_infix)

theorem unmarked_nil : Unmarked [] := by
  decide

theorem Unmarked.of_part {part text : List Char} (unmarked : Unmarked text)
    (inside : part <:+: text) : Unmarked part :=
  fun found => unmarked (found.trans inside)

theorem unmarked_of_notMem {c : Char} {text : List Char} (letter : c ∈ markName)
    (absent : c ∉ text) : Unmarked text :=
  fun found => absent (found.subset letter)

theorem unmarked_append_cons {c : Char} {front rest : List Char} (foreign : c ∉ markName) :
    Unmarked (front ++ c :: rest) ↔ Unmarked front ∧ Unmarked rest := by
  rw [Unmarked, Text.infix_append_cons_iff foreign, not_or]
  exact Iff.rfl

theorem unmarked_cons {c : Char} {rest : List Char} (foreign : c ∉ markName) :
    Unmarked (c :: rest) ↔ Unmarked rest := by
  have whole : Unmarked ([] ++ c :: rest) ↔ Unmarked [] ∧ Unmarked rest :=
    unmarked_append_cons foreign
  rwa [List.nil_append, and_iff_right unmarked_nil] at whole

/-- A literal is decided by its characters. -/
theorem Unmarked.ofList {text : List Char} (unmarked : Unmarked text) :
    Unmarked (String.ofList text).toList := by
  rwa [String.toList_ofList]

theorem Unmarked.enclosed {a b : Char} {text : List Char} (unmarked : Unmarked text)
    (opens : a ∉ markName) (closes : b ∉ markName) : Unmarked (a :: (text ++ [b])) :=
  (unmarked_cons opens).mpr ((unmarked_append_cons closes).mpr ⟨unmarked, unmarked_nil⟩)

theorem unmarked_intercalate {c : Char} {parts : List (List Char)} (foreign : c ∉ markName)
    (unmarked : ∀ part ∈ parts, Unmarked part) : Unmarked (List.intercalate [c] parts) := by
  induction parts with
  | nil => exact unmarked_nil
  | cons part rest ih =>
    obtain ⟨front, later⟩ := List.forall_mem_cons.mp unmarked
    cases rest with
    | nil => rwa [List.intercalate_singleton]
    | cons next rest =>
      rw [List.intercalate_cons_cons, List.append_assoc, List.singleton_append]
      exact (unmarked_append_cons foreign).mpr ⟨front, ih later⟩

/-! ### Borders -/

/-- An occurrence of the name begins before the border of two texts and ends behind it. -/
def Straddles (front rest : List Char) : Prop :=
  ∃ left right, left ++ right = markName ∧ left ≠ [] ∧ right ≠ [] ∧ left <:+ front ∧ right <+: rest

theorem Straddles.of_suffix {ending front rest : List Char} (straddles : Straddles ending rest)
    (ends : ending <:+ front) : Straddles front rest := by
  obtain ⟨left, right, whole, before, behind, inFront, inRest⟩ := straddles
  exact ⟨left, right, whole, before, behind, inFront.trans ends, inRest⟩

theorem not_straddles_concat {c : Char} (foreign : c ∉ markName) (front rest : List Char) :
    ¬ Straddles (front ++ [c]) rest := by
  rintro ⟨left, right, whole, before, _, inFront, _⟩
  obtain none | ⟨init, rfl, _⟩ := List.suffix_concat_iff.mp inFront
  · exact before none
  · exact foreign (whole ▸ by simp)

theorem not_straddles_cons {c : Char} (foreign : c ∉ markName) (front rest : List Char) :
    ¬ Straddles front (c :: rest) := by
  rintro ⟨left, right, whole, _, behind, _, inRest⟩
  obtain ⟨d, right, rfl⟩ := List.exists_cons_of_ne_nil behind
  obtain ⟨rfl, _⟩ := List.cons_prefix_cons.mp inRest
  exact foreign (whole ▸ by simp)

theorem not_straddles_nil (front : List Char) : ¬ Straddles front [] := by
  rintro ⟨left, right, _, _, behind, _, inRest⟩
  exact behind (List.prefix_nil.mp inRest)

/-- An occurrence in two texts is one in either of them, or it straddles their border. -/
theorem Unmarked.append {front rest : List Char} (before : Unmarked front) (behind : Unmarked rest)
    (apart : ¬ Straddles front rest) : Unmarked (front ++ rest) := by
  rintro ⟨s, t, whole⟩
  -- first where the occurrence ends, then where it begins
  obtain ⟨a, rfl, _⟩ | ⟨right, reach, rfl⟩ := List.append_eq_append_iff.mp whole
  · exact before ⟨s, a, rfl⟩
  · obtain ⟨left, rfl, name⟩ | ⟨b, _, rfl⟩ := List.append_eq_append_iff.mp reach
    · by_cases early : right = []
      · rw [early, List.append_nil] at name
        exact before (name ▸ (List.suffix_append s left).isInfix)
      · by_cases late : left = []
        · rw [late, List.nil_append] at name
          exact behind (name ▸ (List.prefix_append right t).isInfix)
        · exact apart ⟨left, right, name.symm, late, early, List.suffix_append s left,
            List.prefix_append right t⟩
    · exact behind ⟨b, t, rfl⟩

/-! ### Texts between others -/

/-- A text without the name that begins and ends with other characters. -/
def Separates (text : List Char) : Prop :=
  Unmarked text ∧ text.head?.any (· ∉ markName) ∧ text.getLast?.any (· ∉ markName)

instance : DecidablePred Separates :=
  fun _ => inferInstanceAs (Decidable (_ ∧ _))

theorem Separates.ofList {text : List Char} (separates : Separates text) :
    Separates (String.ofList text).toList := by
  rwa [String.toList_ofList]

theorem separates_iff {text : List Char} :
    Separates text ↔ Unmarked text ∧ (∃ c rest, text = c :: rest ∧ c ∉ markName) ∧
      ∃ init c, text = init ++ [c] ∧ c ∉ markName := by
  have first : text.head?.any (· ∉ markName) ↔ ∃ c rest, text = c :: rest ∧ c ∉ markName := by
    cases text <;> simp
  have last : text.getLast?.any (· ∉ markName) ↔ ∃ init c, text = init ++ [c] ∧ c ∉ markName := by
    cases text using List.reverseRecOn <;> simp
  rw [Separates, first, last]

theorem Separates.append {text rest : List Char} (separates : Separates text)
    (behind : Unmarked rest) : Unmarked (text ++ rest) := by
  obtain ⟨before, _, init, c, rfl, foreign⟩ := separates_iff.mp separates
  exact before.append behind (not_straddles_concat foreign init rest)

theorem Unmarked.append_separator {front text : List Char} (before : Unmarked front)
    (separates : Separates text) : Unmarked (front ++ text) := by
  obtain ⟨behind, ⟨c, rest, rfl, foreign⟩, _⟩ := separates_iff.mp separates
  exact before.append behind (not_straddles_cons foreign front rest)

theorem Separates.between {front text rest : List Char} (separates : Separates text)
    (before : Unmarked front) (behind : Unmarked rest) : Unmarked (front ++ text ++ rest) := by
  have whole := before.append_separator separates
  obtain ⟨_, _, init, c, rfl, foreign⟩ := separates_iff.mp separates
  rw [← List.append_assoc] at whole ⊢
  exact whole.append behind (not_straddles_concat foreign (front ++ init) rest)

/-- A text within a message. -/
theorem Unmarked.framed {opens closes text : String} (unmarked : Unmarked text.toList)
    (before : Separates opens.toList) (behind : Separates closes.toList) :
    Unmarked (opens ++ text ++ closes).toList := by
  rw [String.toList_append, String.toList_append]
  exact (before.append unmarked).append_separator behind

/-- Two texts within a message. -/
theorem Separates.between_strings {front text rest : String} (separates : Separates text.toList)
    (before : Unmarked front.toList) (behind : Unmarked rest.toList) :
    Unmarked (front ++ text ++ rest).toList := by
  rw [String.toList_append, String.toList_append]
  exact separates.between before behind

theorem Unmarked.opened {opens text between rest : String} (unmarked : Unmarked text.toList)
    (behind : Unmarked rest.toList) (before : Separates opens.toList)
    (separates : Separates between.toList) :
    Unmarked (opens ++ text ++ between ++ rest).toList := by
  refine separates.between_strings ?_ behind
  rw [String.toList_append]
  exact before.append unmarked

/-! ### Escapes -/

/-- What begins an escaped text and has only characters that escapes lack begins the text itself. -/
theorem prefix_of_prefix_flatMap {escape : Char → List Char} {front text : List Char}
    (kept : ∀ c, escape c = [c] ∨ ∃ d rest, escape c = d :: rest ∧ d ∉ front)
    (found : front <+: text.flatMap escape) : front <+: text := by
  induction text generalizing front with
  | nil => exact found
  | cons c text ih =>
    cases front with
    | nil => exact List.nil_prefix
    | cons f front =>
      rw [List.flatMap_cons] at found
      obtain same | ⟨d, rest, escaped, foreign⟩ := kept c
      · rw [same] at found
        obtain ⟨rfl, behind⟩ := List.cons_prefix_cons.mp found
        have later : ∀ c, escape c = [c] ∨ ∃ d rest, escape c = d :: rest ∧ d ∉ front := by
          intro c
          refine (kept c).imp_right ?_
          rintro ⟨d, rest, escaped, foreign⟩
          exact ⟨d, rest, escaped, fun member => foreign (List.mem_cons_of_mem _ member)⟩
        exact List.cons_prefix_cons.mpr ⟨rfl, ih later behind⟩
      · rw [escaped] at found
        obtain ⟨rfl, _⟩ := List.cons_prefix_cons.mp found
        exact absurd List.mem_cons_self foreign

/-- Escapes without a character of the name keep it out. -/
theorem Unmarked.flatMap {escape : Char → List Char} {text : List Char} (unmarked : Unmarked text)
    (kept : ∀ c, escape c = [c] ∨ escape c ≠ [] ∧ (escape c).all (· ∉ markName)) :
    Unmarked (text.flatMap escape) := by
  have begins : ∀ c, escape c = [c] ∨ ∃ d rest, escape c = d :: rest ∧ d ∉ markName := by
    intro c
    refine (kept c).imp_right ?_
    rintro ⟨nonempty, foreign⟩
    obtain ⟨d, rest, escaped⟩ := List.exists_cons_of_ne_nil nonempty
    rw [escaped, List.all_cons, Bool.and_eq_true, decide_eq_true_iff] at foreign
    exact ⟨d, rest, escaped, foreign.1⟩
  induction text with
  | nil => exact unmarked
  | cons c text ih =>
    have later := ih (unmarked.of_part (List.suffix_cons c text).isInfix)
    obtain same | ⟨_, foreign⟩ := kept c
    · intro found
      rw [List.flatMap_cons, same, List.singleton_append] at found
      obtain front | behind := List.infix_cons_iff.mp found
      · refine unmarked (prefix_of_prefix_flatMap begins ?_).isInfix
        rwa [List.flatMap_cons, same, List.singleton_append]
      · exact later behind
    · rw [List.flatMap_cons]
      generalize escape c = escaped at foreign
      induction escaped with
      | nil => exact later
      | cons d escaped ih =>
        rw [List.all_cons, Bool.and_eq_true, decide_eq_true_iff] at foreign
        exact (unmarked_cons foreign.1).mpr (ih foreign.2)

/-! ### Values in place of placeholders -/

section
variable {resolve : Resolver} {render : Renderer}

/-- No occurrence of the name runs across a border of a value that comes in place of a placeholder.
The text before the pieces is what stands to their left. -/
def Seamless (resolve : Resolver) (render : Renderer) : List Char → List Piece → Prop
  | _, [] => True
  | front, .char c :: rest => Seamless resolve render (front ++ [c]) rest
  | front, .placeholder heap :: rest => ∀ v back, resolve (String.ofList heap) = .ok v →
      fill resolve render rest = .ok back →
        ¬ Straddles front ((render v).toList ++ back) ∧
        ¬ Straddles (front ++ (render v).toList) back ∧
        Seamless resolve render (front ++ (render v).toList) rest

theorem seamless_map_char (front text : List Char) :
    Seamless resolve render front (text.map .char) := by
  induction text generalizing front with
  | nil => trivial
  | cons c text ih => exact ih (front ++ [c])

/-- Values between pieces of a text without the name keep it out. The letters are those behind the
last value. -/
theorem unmarked_append_of_fill {front letters out : List Char} {ps : List Piece}
    (seamless : Seamless resolve render front ps) (ends : letters <:+ front)
    (plain : Unmarked (letters ++ ps.flatMap Piece.text))
    (written : ∀ heap, .placeholder heap ∈ ps → ∀ v, resolve (String.ofList heap) = .ok v →
      Unmarked (render v).toList)
    (filled : fill resolve render ps = .ok out) : Unmarked (letters ++ out) := by
  -- the letters grow with every character, and start anew behind a value
  induction ps generalizing front letters out with
  | nil =>
    obtain rfl := Except.ok.inj filled
    exact plain
  | cons p ps ih =>
    have later := fun heap found => written heap (List.mem_cons_of_mem p found)
    cases p with
    | char c =>
      obtain ⟨back, behind, rfl⟩ := (fill_char_eq_ok_iff resolve render).mp filled
      have further : letters ++ [c] <:+ front ++ [c] := by
        obtain ⟨lead, rfl⟩ := ends
        exact ⟨lead, by simp⟩
      have kept : Unmarked (letters ++ [c] ++ ps.flatMap Piece.text) := by
        simpa [Piece.text] using plain
      have moved := ih seamless further kept later behind
      rwa [List.append_assoc, List.singleton_append] at moved
    | placeholder heap =>
      obtain ⟨back, v, behind, value, rfl⟩ := (fill_placeholder_eq_ok_iff resolve render).mp filled
      obtain ⟨opens, closes, seamless⟩ := seamless v back value behind
      rw [List.flatMap_cons] at plain
      have first : Unmarked letters := plain.of_part (List.prefix_append _ _).isInfix
      have kept : Unmarked (ps.flatMap Piece.text) :=
        plain.of_part ((List.suffix_append _ _).trans (List.suffix_append _ _)).isInfix
      have rest : Unmarked ([] ++ back) := ih seamless List.nil_suffix kept later behind
      have here := written heap List.mem_cons_self v value
      have tail : Unmarked ((render v).toList ++ back) :=
        here.append rest fun straddles => closes (straddles.of_suffix (List.suffix_append _ _))
      exact first.append tail fun straddles => opens (straddles.of_suffix ends)

end

/-! ### Marks between texts -/

/-- No marker begins within a text that lacks its name, also where a marker follows. -/
theorem not_marker_prefix_append {front rest : List Char} (unmarked : Unmarked front)
    (nonempty : front ≠ []) : ¬ marker <+: front ++ (marker ++ rest) := by
  intro found
  by_cases fits : marker.length ≤ front.length
  · have inside : marker <+: front :=
      List.prefix_of_prefix_length_le found (List.prefix_append _ _) fits
    have named : markName <:+: marker := by decide
    exact unmarked (named.trans inside.isInfix)
  · have short : front.length < marker.length := Nat.lt_of_not_le fits
    obtain ⟨tail, whole⟩ : front <+: marker :=
      List.prefix_of_prefix_length_le (List.prefix_append _ _) found (Nat.le_of_lt short)
    have dropped : marker.drop front.length = tail := by
      rw [← whole, List.drop_left]
    have border : tail <+: marker := by
      nth_rewrite 1 [← whole] at found
      refine List.prefix_of_prefix_length_le ((List.prefix_append_right_inj front).mp found)
        (List.prefix_append _ _) ?_
      rw [← dropped, List.length_drop]
      exact Nat.sub_le _ _
    obtain none | all := eq_of_drop_marker_prefix short (dropped ▸ border)
    · exact nonempty (List.length_eq_zero_iff.mp none)
    · have same : front = stump := (List.append_inj (whole.trans marker_eq_stump_append) all).1
      have named : markName <:+: stump := by decide
      exact unmarked (same ▸ named)

theorem unmask_append_marker {front : List Char} (unmarked : Unmarked front) (rest : List Char) :
    unmask (front ++ (marker ++ rest)) = front ++ '%' :: unmask rest := by
  induction front with
  | nil => exact unmask_marker_append rest
  | cons c front ih =>
    have outside : ¬ marker <+: (c :: front) ++ (marker ++ rest) :=
      not_marker_prefix_append unmarked (List.cons_ne_nil c front)
    have kept : unmask (c :: (front ++ (marker ++ rest))) =
        c :: unmask (front ++ (marker ++ rest)) :=
      Text.replaceAll_cons outside
    rw [List.cons_append, kept, ih (unmarked.of_part (List.suffix_cons c front).isInfix),
      List.cons_append]

theorem unmask_of_unmarked {text : List Char} (unmarked : Unmarked text) : unmask text = text := by
  induction text with
  | nil => rfl
  | cons c text ih =>
    have named : markName <:+: marker := by decide
    have kept : unmask (c :: text) = c :: unmask text :=
      Text.replaceAll_cons fun found => unmarked (named.trans found.isInfix)
    rw [kept, ih (unmarked.of_part (List.suffix_cons c text).isInfix)]

/-- The marks between texts that lack their name are turned back, and nothing else is. -/
theorem unmask_intercalate_marker {parts : List (List Char)}
    (unmarked : ∀ part ∈ parts, Unmarked part) :
    unmask (List.intercalate marker parts) = List.intercalate ['%'] parts := by
  induction parts with
  | nil => rfl
  | cons part rest ih =>
    obtain ⟨front, later⟩ := List.forall_mem_cons.mp unmarked
    cases rest with
    | nil => rw [List.intercalate_singleton, List.intercalate_singleton, unmask_of_unmarked front]
    | cons next rest =>
      rw [List.intercalate_cons_cons, List.intercalate_cons_cons, List.append_assoc,
        unmask_append_marker front, ih later, List.append_assoc, List.singleton_append]

/-- No whole marker is left, and none is made by the percent signs. -/
theorem not_marker_infix_unmask (text : List Char) : ¬ marker <:+: unmask text :=
  Text.not_infix_replaceAll (by decide) (by decide) text

end EnvTemplate.Template
