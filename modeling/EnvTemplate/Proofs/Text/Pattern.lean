import EnvTemplate.Text.Cut
import Mathlib.Data.List.Infix
/-! Patterns in lists of characters. Replacement is described by what it does at the front of a
text, so that it can be followed along a text that is written piece by piece. -/
namespace EnvTemplate.Text

variable {α : Type} [DecidableEq α] {pattern replacement : List α}

-- these are followed member by member
attribute [local simp] afterFront? cutWhere replaceFrom cutPattern

theorem afterFront?_eq_some_iff {front xs rest : List α} :
    afterFront? front xs = some rest ↔ xs = front ++ rest := by
  induction front generalizing xs with
  | nil => simp
  | cons f fs ih =>
    cases xs with
    | nil => simp
    | cons x xs =>
      by_cases same : f = x
      · simp [same, ih]
      · simp [same, Ne.symm same]

theorem cut_eq_none {separator : α} {xs : List α} (absent : separator ∉ xs) :
    cut separator xs = none := by
  induction xs with
  | nil => rfl
  | cons x xs ih =>
    obtain ⟨different, absent⟩ : separator ≠ x ∧ separator ∉ xs := by simpa using absent
    have tail : cutWhere (· == separator) xs = none := ih absent
    simp [cut, Ne.symm different, tail]

theorem contains_iff_infix {xs : List α} : contains pattern xs = true ↔ pattern <:+: xs := by
  induction xs with
  | nil => simp [contains]
  | cons x xs ih =>
    rw [List.infix_cons_iff, ← ih]
    simp [contains, List.isPrefixOf_iff_prefix]

theorem replaceFrom_skip (skip : Nat) (xs : List α) :
    replaceFrom pattern replacement skip xs = replaceAll pattern replacement (xs.drop skip) := by
  induction skip generalizing xs with
  | zero => simp [replaceAll]
  | succ skip ih =>
    cases xs with
    | nil => simp [replaceAll]
    | cons x xs => simpa only [replaceFrom, List.drop_succ_cons] using ih xs

/-- An occurrence at the front is replaced, and the search goes on behind it. -/
theorem replaceAll_pattern_append (nonempty : pattern ≠ []) (rest : List α) :
    replaceAll pattern replacement (pattern ++ rest) =
      replacement ++ replaceAll pattern replacement rest := by
  cases pattern with
  | nil => contradiction
  | cons p ps =>
    have front : (p :: ps).isPrefixOf (p :: (ps ++ rest)) = true :=
      List.isPrefixOf_iff_prefix.mpr (List.prefix_append (p :: ps) rest)
    rw [List.cons_append, replaceAll, replaceFrom, if_pos front, replaceFrom_skip]
    simp

/-- Where no occurrence begins, a member stays. -/
theorem replaceAll_cons {x : α} {xs : List α} (absent : ¬ pattern <+: x :: xs) :
    replaceAll pattern replacement (x :: xs) = x :: replaceAll pattern replacement xs := by
  rw [replaceAll, replaceFrom, if_neg (fun front => absent (List.isPrefixOf_iff_prefix.mp front)),
    replaceAll]

/-- A part without the first member of the pattern stays as it is. -/
theorem replaceAll_append_of_notMem {p : α} {ps front : List α} (absent : p ∉ front)
    (rest : List α) :
    replaceAll (p :: ps) replacement (front ++ rest) =
      front ++ replaceAll (p :: ps) replacement rest := by
  induction front with
  | nil => rfl
  | cons x xs ih =>
    obtain ⟨different, absent⟩ : p ≠ x ∧ p ∉ xs := by simpa using absent
    rw [List.cons_append, replaceAll_cons, ih absent, List.cons_append]
    intro front
    exact different (List.cons_prefix_cons.mp front).1

theorem replaceAll_of_notMem {p : α} {ps xs : List α} (absent : p ∉ xs) :
    replaceAll (p :: ps) replacement xs = xs := by
  have kept := @replaceAll_append_of_notMem _ _ replacement p ps xs absent []
  simpa [replaceAll] using kept

theorem length_replaceFrom_le (shorter : replacement.length ≤ pattern.length)
    (nonempty : pattern ≠ []) (skip : Nat) (xs : List α) :
    (replaceFrom pattern replacement skip xs).length ≤ (xs.drop skip).length := by
  induction xs generalizing skip with
  | nil => simp
  | cons x xs ih =>
    cases skip with
    | succ skip => simpa only [replaceFrom, List.drop_succ_cons] using ih skip
    | zero =>
      rw [replaceFrom]
      split
      · rename_i front
        have fits := (List.isPrefixOf_iff_prefix.mp front).length_le
        have positive := List.length_pos_iff.mpr nonempty
        have behind := ih (pattern.length - 1)
        simp only [List.length_drop, List.length_append, List.length_cons] at fits behind ⊢
        omega
      · have behind := ih 0
        simpa using behind

theorem length_replaceAll_le (shorter : replacement.length ≤ pattern.length)
    (nonempty : pattern ≠ []) (xs : List α) :
    (replaceAll pattern replacement xs).length ≤ xs.length :=
  length_replaceFrom_le shorter nonempty 0 xs

omit [DecidableEq α] in
theorem mem_of_mem_intercalate {separator : List α} {parts : List (List α)} {x : α}
    (member : x ∈ List.intercalate separator parts) : x ∈ separator ∨ ∃ part ∈ parts, x ∈ part := by
  induction parts with
  | nil => simp at member
  | cons part rest ih =>
    cases rest with
    | nil =>
      rw [List.intercalate_singleton] at member
      exact Or.inr ⟨part, List.mem_cons_self, member⟩
    | cons next rest =>
      rw [List.intercalate_cons_cons, List.mem_append, List.mem_append] at member
      obtain (inside | inside) | later := member
      · exact Or.inr ⟨part, List.mem_cons_self, inside⟩
      · exact Or.inl inside
      · obtain inside | ⟨other, among, inside⟩ := ih later
        · exact Or.inl inside
        · exact Or.inr ⟨other, List.mem_cons_of_mem part among, inside⟩

omit [DecidableEq α] in
theorem infix_intercalate_of_mem {separator part : List α} {parts : List (List α)}
    (member : part ∈ parts) : part <:+: List.intercalate separator parts := by
  induction parts with
  | nil => exact absurd member List.not_mem_nil
  | cons first rest ih =>
    cases rest with
    | nil =>
      obtain rfl := List.mem_singleton.mp member
      rw [List.intercalate_singleton]
    | cons next rest =>
      rw [List.intercalate_cons_cons]
      obtain rfl | later := List.mem_cons.mp member
      · rw [List.append_assoc]
        exact (List.prefix_append _ _).isInfix
      · exact (ih later).trans (List.suffix_append _ _).isInfix

omit [DecidableEq α] in
theorem infix_strip (p : α → Bool) (xs : List α) : strip p xs <:+: xs := by
  have back : dropEndWhile p (xs.dropWhile p) <+: xs.dropWhile p := by
    rw [← List.reverse_suffix, dropEndWhile, List.reverse_reverse]
    exact List.dropWhile_suffix p
  exact back.isInfix.trans (List.dropWhile_suffix p).isInfix

/-! ### Cutting at a pattern -/

theorem cutPattern_pattern_append (pattern rest : List α) :
    cutPattern pattern (pattern ++ rest) = some ([], rest) := by
  have front : afterFront? pattern (pattern ++ rest) = some rest := afterFront?_eq_some_iff.mpr rfl
  cases whole : pattern ++ rest with
  | nil => rw [cutPattern, ← whole, front, Option.map_some]
  | cons x xs => rw [cutPattern, ← whole, front]

theorem cutPattern_cons {x : α} {xs : List α} (absent : ¬ pattern <+: x :: xs) :
    cutPattern pattern (x :: xs) = (cutPattern pattern xs).map fun (a, b) => (x :: a, b) := by
  rw [cutPattern]
  split
  · rename_i rest front
    exact absurd ⟨rest, (afterFront?_eq_some_iff.mp front).symm⟩ absent
  · rfl

theorem append_of_cutPattern {xs before behind : List α}
    (found : cutPattern pattern xs = some (before, behind)) :
    xs = before ++ pattern ++ behind := by
  induction xs generalizing before with
  | nil =>
    obtain ⟨rest, front, same⟩ := Option.map_eq_some_iff.mp found
    obtain ⟨rfl, rfl⟩ := Prod.mk.inj same
    exact afterFront?_eq_some_iff.mp front
  | cons x xs ih =>
    by_cases front : pattern <+: x :: xs
    · obtain ⟨rest, whole⟩ := front
      rw [← whole, cutPattern_pattern_append] at found
      obtain ⟨rfl, rfl⟩ := Prod.mk.inj (Option.some.inj found)
      exact whole.symm
    · rw [cutPattern_cons front] at found
      obtain ⟨⟨inner, rest⟩, later, same⟩ := Option.map_eq_some_iff.mp found
      obtain ⟨rfl, rfl⟩ := Prod.mk.inj same
      rw [ih later]
      rfl

/-- A part without the first member of the pattern is passed over. -/
theorem cutPattern_append_of_notMem {p : α} {ps front : List α} (absent : p ∉ front)
    (rest : List α) :
    cutPattern (p :: ps) (front ++ rest) =
      (cutPattern (p :: ps) rest).map fun (a, b) => (front ++ a, b) := by
  induction front with
  | nil => simp
  | cons x xs ih =>
    obtain ⟨different, absent⟩ : p ≠ x ∧ p ∉ xs := by simpa using absent
    rw [List.cons_append, cutPattern_cons, ih absent, Option.map_map]
    · rfl
    · intro front
      exact different (List.cons_prefix_cons.mp front).1

/-! ### Patterns that lack a member of the text -/

section
omit [DecidableEq α]

/-- A pattern at the front of a text stops before a member that it lacks. -/
theorem prefix_append_cons_iff {front rest : List α} {x : α} (absent : x ∉ pattern) :
    pattern <+: front ++ x :: rest ↔ pattern <+: front := by
  constructor
  · intro found
    by_cases fits : pattern.length ≤ front.length
    · exact List.prefix_of_prefix_length_le found (List.prefix_append _ _) fits
    · have whole : front ++ [x] <+: front ++ x :: rest := ⟨rest, by simp⟩
      have longer : (front ++ [x]).length ≤ pattern.length := by
        rw [List.length_append, List.length_singleton]
        exact Nat.lt_of_not_le fits
      have reaches : front ++ [x] <+: pattern :=
        List.prefix_of_prefix_length_le whole found longer
      exact absurd (reaches.subset (by simp)) absent
  · intro found
    exact found.trans (List.prefix_append _ _)

/-- No occurrence of a pattern runs across a member that it lacks. -/
theorem infix_append_cons_iff {front rest : List α} {x : α} (absent : x ∉ pattern) :
    pattern <:+: front ++ x :: rest ↔ pattern <:+: front ∨ pattern <:+: rest := by
  induction front with
  | nil =>
    have front : pattern <+: [] ++ x :: rest ↔ pattern <+: [] := prefix_append_cons_iff absent
    rw [List.nil_append] at front ⊢
    rw [List.infix_cons_iff, front, List.prefix_nil, List.infix_nil]
  | cons y front ih =>
    have begins : pattern <+: (y :: front) ++ x :: rest ↔ pattern <+: y :: front :=
      prefix_append_cons_iff absent
    rw [List.cons_append] at begins ⊢
    rw [List.infix_cons_iff, List.infix_cons_iff, ih, begins, or_assoc]

end

/-- What a text begins with after a replacement, and what lacks the replacement, stood there before. -/
theorem prefix_of_prefix_replaceAll {r : α} {front xs : List α} (nonempty : pattern ≠ [])
    (absent : r ∉ front) (found : front <+: replaceAll pattern [r] xs) : front <+: xs := by
  induction xs generalizing front with
  | nil => exact found
  | cons x xs ih =>
    cases front with
    | nil => exact List.nil_prefix
    | cons f front =>
      obtain ⟨different, absent⟩ : r ≠ f ∧ r ∉ front := by simpa using absent
      by_cases begins : pattern <+: x :: xs
      · obtain ⟨rest, whole⟩ := begins
        rw [← whole, replaceAll_pattern_append nonempty] at found
        exact absurd (List.cons_prefix_cons.mp found).1 (Ne.symm different)
      · rw [replaceAll_cons begins] at found
        obtain ⟨rfl, behind⟩ := List.cons_prefix_cons.mp found
        exact List.cons_prefix_cons.mpr ⟨rfl, ih absent behind⟩

/-- Nothing is left of a pattern, and the replacement does not make it anew. -/
theorem not_infix_replaceAll {r : α} (nonempty : pattern ≠ []) (absent : r ∉ pattern)
    (xs : List α) : ¬ pattern <:+: replaceAll pattern [r] xs := by
  induction size : xs.length using Nat.strongRecOn generalizing xs with
  | ind n ih =>
    cases xs with
    | nil => exact fun found => nonempty (List.infix_nil.mp found)
    | cons x xs =>
      by_cases begins : pattern <+: x :: xs
      · obtain ⟨rest, whole⟩ := begins
        have shorter : rest.length < n := by
          have positive := List.length_pos_iff.mpr nonempty
          rw [← size, ← whole, List.length_append]
          omega
        rw [← whole, replaceAll_pattern_append nonempty]
        intro found
        rw [List.singleton_append, ← List.nil_append (r :: _), infix_append_cons_iff absent] at found
        obtain none | behind := found
        · exact nonempty (List.infix_nil.mp none)
        · exact ih rest.length shorter rest rfl behind
      · rw [replaceAll_cons begins]
        intro found
        obtain front | behind := List.infix_cons_iff.mp found
        · rw [← replaceAll_cons begins] at front
          exact begins (prefix_of_prefix_replaceAll nonempty absent front)
        · exact ih xs.length (by simp [← size]) xs rfl behind

end EnvTemplate.Text
