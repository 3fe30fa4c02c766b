import EnvTemplate.Proofs.Template.Mask
import EnvTemplate.Proofs.Template.Pass
/-! Texts with every percent sign doubled. No placeholder is found in them, so substitution only
masks the pairs and turns the masks back. It gives the text itself exactly if nothing else in the
masked text is taken for a mask. -/
namespace EnvTemplate.Template

/-- The marker without its last character. -/
def stump : List Char := "\x00__ESCAPED_PERCENT__".toList

theorem marker_eq_stump_append : marker = stump ++ ['\x00'] := by
  decide

/-- Whether a text holds a marker of its own, or one that a masked percent sign completes. -/
def Collides (text : List Char) : Prop :=
  marker <:+: text ∨ stump ++ ['%'] <:+: text

/-- Only its last character can be shared by two overlapping markers. -/
theorem eq_of_drop_marker_prefix {n : Nat} (short : n < marker.length)
    (border : marker.drop n <+: marker) : n = 0 ∨ n = stump.length := by
  have borders : ∀ n < marker.length,
      (marker.drop n).isPrefixOf marker = true → n = 0 ∨ n = stump.length := by
    decide
  exact borders n short (List.isPrefixOf_iff_prefix.mpr border)

theorem marked_cons_percent (text : List Char) : marked ('%' :: text) = marker ++ marked text := rfl

theorem marked_cons {c : Char} (different : c ≠ '%') (text : List Char) :
    marked (c :: text) = c :: marked text := by
  simp [marked, different]

theorem marked_append (front rest : List Char) : marked (front ++ rest) = marked front ++ marked rest :=
  List.flatMap_append

theorem marked_of_notMem {text : List Char} (plain : '%' ∉ text) : marked text = text := by
  induction text with
  | nil => rfl
  | cons c text ih =>
    obtain ⟨different, plain⟩ : '%' ≠ c ∧ '%' ∉ text := by simpa using plain
    rw [marked_cons (Ne.symm different), ih plain]

/-- What a marked text begins with stands there as it is, or runs into a mark. -/
theorem prefix_of_prefix_marked {pattern text : List Char} (found : pattern <+: marked text) :
    pattern <+: text ∨ ∃ n rest, n < pattern.length ∧ text = pattern.take n ++ '%' :: rest ∧
      pattern.drop n <+: marker ++ marked rest := by
  induction text generalizing pattern with
  | nil => exact Or.inl found
  | cons c text ih =>
    cases pattern with
    | nil => exact Or.inl (List.nil_prefix)
    | cons p pattern =>
      by_cases percent : c = '%'
      · subst percent
        exact Or.inr ⟨0, text, Nat.succ_pos _, rfl, found⟩
      · rw [marked_cons percent] at found
        obtain ⟨rfl, behind⟩ := List.cons_prefix_cons.mp found
        obtain whole | ⟨n, rest, short, rfl, runs⟩ := ih behind
        · exact Or.inl (List.cons_prefix_cons.mpr ⟨rfl, whole⟩)
        · exact Or.inr ⟨n + 1, rest, Nat.succ_lt_succ short, rfl, runs⟩

/-- A marker at the front of a marked text is the mark of its first character, or a collision. -/
theorem marker_prefix_marked_iff {c : Char} {text : List Char} (different : c ≠ '%') :
    marker <+: marked (c :: text) ↔ marker <+: c :: text ∨ stump ++ ['%'] <+: c :: text := by
  constructor
  · intro found
    obtain whole | ⟨n, rest, short, shape, runs⟩ := prefix_of_prefix_marked found
    · exact Or.inl whole
    · have border : marker.drop n <+: marker := by
        refine List.prefix_of_prefix_length_le runs (List.prefix_append _ _) ?_
        simp
      obtain rfl | rfl := eq_of_drop_marker_prefix short border
      · obtain ⟨rfl, rfl⟩ := List.cons.inj shape
        contradiction
      · rw [shape]
        refine Or.inr ⟨rest, ?_⟩
        rw [marker_eq_stump_append, List.take_left, List.append_assoc, List.singleton_append]
  · rintro (⟨rest, whole⟩ | ⟨rest, whole⟩)
    · rw [← whole, marked_append, marked_of_notMem (by decide)]
      exact List.prefix_append _ _
    · obtain ⟨inner, begins⟩ := marker_eq
      have plain : marked stump = stump := marked_of_notMem (by decide)
      rw [← whole, List.append_assoc, marked_append, List.singleton_append, marked_cons_percent, plain]
      refine ⟨inner ++ marked rest, ?_⟩
      calc marker ++ (inner ++ marked rest)
          = stump ++ ['\x00'] ++ (inner ++ marked rest) := by rw [← marker_eq_stump_append]
        _ = stump ++ ('\x00' :: inner ++ marked rest) := by simp
        _ = stump ++ (marker ++ marked rest) := by rw [← begins]

theorem collides_cons_percent {text : List Char} : Collides ('%' :: text) ↔ Collides text := by
  have front : ∀ pattern : List Char, ¬ '\x00' :: pattern <+: '%' :: text := by
    intro pattern found
    exact absurd (List.cons_prefix_cons.mp found).1 (by decide)
  obtain ⟨inner, whole⟩ := marker_eq
  obtain ⟨before, shape⟩ : ∃ before, stump ++ ['%'] = '\x00' :: before := ⟨_, rfl⟩
  rw [Collides, Collides, List.infix_cons_iff, List.infix_cons_iff, whole, shape,
    or_iff_right (front inner), or_iff_right (front before)]

theorem collides_cons {c : Char} {text : List Char} (different : c ≠ '%') :
    Collides (c :: text) ↔ marker <+: marked (c :: text) ∨ Collides text := by
  rw [Collides, List.infix_cons_iff, List.infix_cons_iff, marker_prefix_marked_iff different, Collides]
  constructor
  · rintro ((front | later) | (front | later))
    · exact Or.inl (Or.inl front)
    · exact Or.inr (Or.inl later)
    · exact Or.inl (Or.inr front)
    · exact Or.inr (Or.inr later)
  · rintro ((front | front) | (later | later))
    · exact Or.inl (Or.inl front)
    · exact Or.inr (Or.inl front)
    · exact Or.inl (Or.inr later)
    · exact Or.inr (Or.inr later)

/-- The marks of a text are turned back into this text exactly if it holds no collision. -/
theorem unmask_marked_eq_iff {text : List Char} :
    unmask (marked text) = text ↔ ¬ Collides text := by
  induction text with
  | nil =>
    have absent : ¬ Collides [] := by
      rintro (found | found)
      · exact absurd (List.infix_nil.mp found) (by decide)
      · exact absurd (List.infix_nil.mp found) (by decide)
    exact iff_of_true rfl absent
  | cons c text ih =>
    by_cases percent : c = '%'
    · subst percent
      rw [marked_cons_percent, unmask_marker_append, collides_cons_percent, ← ih]
      exact ⟨fun same => (List.cons.inj same).2, congrArg ('%' :: ·)⟩
    · rw [collides_cons percent]
      by_cases front : marker <+: marked (c :: text)
      · -- the marker found here gives a percent sign, which the text does not begin with
        obtain ⟨rest, whole⟩ := front
        rw [← whole, unmask_marker_append]
        refine iff_of_false (fun same => ?_) (fun absent => absent (Or.inl (List.prefix_append _ _)))
        exact percent (List.cons.inj same).1.symm
      · rw [or_iff_right front, ← ih]
        rw [marked_cons percent] at front ⊢
        have kept : unmask (c :: marked text) = c :: unmask (marked text) :=
          Text.replaceAll_cons front
        rw [kept]
        exact ⟨fun same => (List.cons.inj same).2, congrArg (c :: ·)⟩

theorem mask_doubled (text : List Char) : mask (doubled text) = marked text := by
  have whole := mask_doubled_append text []
  rwa [mask_nil, List.append_nil, List.append_nil] at whole

/-- A text with every percent sign doubled holds no placeholder, and neither the resolver nor the
limit has a part in its result. The result is the text with single percent signs exactly if this
text holds neither the marker nor a marker whose last character a percent sign replaces. -/
theorem substitute_doubled_iff (text : String) :
    Placeholder.innermost (mask (doubled text.toList)) = [] ∧
    (∀ (resolve : Resolver) (render : Renderer) (limit : Nat),
      substitute resolve render limit (String.ofList (doubled text.toList)) =
        .ok (String.ofList (unmask (marked text.toList)))) ∧
    ((∀ (resolve : Resolver) (render : Renderer) (limit : Nat),
      substitute resolve render limit (String.ofList (doubled text.toList)) = .ok text) ↔
        ¬ Collides text.toList) := by
  have bare : ∀ heap, .placeholder heap ∉ Placeholder.pieces (mask (doubled text.toList)) := by
    rw [mask_doubled, Placeholder.pieces_of_notMem (percent_notMem_marked _)]
    simp
  have result : ∀ (resolve : Resolver) (render : Renderer) (limit : Nat),
      substitute resolve render limit (String.ofList (doubled text.toList)) =
        .ok (String.ofList (unmask (marked text.toList))) := by
    intro resolve render limit
    rw [substitute, String.toList_ofList, passes_of_bare resolve render limit limit bare, mask_doubled]
    rfl
  refine ⟨?_, result, ?_⟩
  · rw [Placeholder.innermost_eq_spansFrom]
    exact spansFrom_eq_nil_iff.mpr bare
  · rw [← unmask_marked_eq_iff]
    constructor
    · intro faithful
      have same := faithful emptyResolver renderPlain 0
      rw [result] at same
      simpa using congrArg String.toList (Except.ok.inj same)
    · intro faithful resolve render limit
      rw [result, faithful, String.ofList_toList]

/-- A text that is the marker, and one that a masked percent sign makes the marker. -/
theorem substitute_doubled_marker :
    substitute emptyResolver renderPlain 0
        (String.ofList (doubled "\x00__ESCAPED_PERCENT__\x00".toList)) = .ok "%" ∧
      substitute emptyResolver renderPlain 0
        (String.ofList (doubled "\x00__ESCAPED_PERCENT__%".toList)) =
          .ok "%__ESCAPED_PERCENT__\x00" :=
  ⟨rfl, rfl⟩

end EnvTemplate.Template
