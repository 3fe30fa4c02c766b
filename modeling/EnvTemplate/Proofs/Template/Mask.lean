import EnvTemplate.Proofs.Placeholder.Pieces
import EnvTemplate.Substitute
/-! Masking of doubled percent signs. Only a percent sign that another one follows is masked, and
only a NUL can begin a mask. -/
namespace EnvTemplate.Template

def doubled (text : List Char) : List Char :=
  text.flatMap fun c => if c = '%' then ['%', '%'] else [c]

def marked (text : List Char) : List Char :=
  text.flatMap fun c => if c = '%' then marker else [c]

theorem marker_eq : ∃ inner, marker = '\x00' :: inner := ⟨_, rfl⟩

theorem mask_nil : mask [] = [] := rfl

theorem mask_append_of_notMem {front : List Char} (plain : '%' ∉ front) (rest : List Char) :
    mask (front ++ rest) = front ++ mask rest :=
  Text.replaceAll_append_of_notMem plain rest

theorem mask_pair_append (rest : List Char) : mask ('%' :: '%' :: rest) = marker ++ mask rest :=
  Text.replaceAll_pattern_append (List.cons_ne_nil _ _) rest

theorem mask_single {rest : List Char} (single : rest.head? ≠ some '%') :
    mask ('%' :: rest) = '%' :: mask rest := by
  apply Text.replaceAll_cons
  rintro ⟨tail, same⟩
  obtain rfl : '%' :: tail = rest := (List.cons.inj same).2
  exact single rfl

theorem mask_opening_append {rest : List Char} :
    mask (Placeholder.opening ++ rest) = Placeholder.opening ++ mask rest := by
  have letter : (['e', 'n', 'v', '('] ++ rest).head? ≠ some '%' := by simp
  have behind : mask (['e', 'n', 'v', '('] ++ rest) = ['e', 'n', 'v', '('] ++ mask rest :=
    mask_append_of_notMem (by decide) rest
  exact (mask_single letter).trans (congrArg ('%' :: ·) behind)

theorem mask_closing_append {rest : List Char} (single : rest.head? ≠ some '%') :
    mask (Placeholder.closing ++ rest) = Placeholder.closing ++ mask rest := by
  have paren : mask ([')'] ++ '%' :: rest) = [')'] ++ mask ('%' :: rest) :=
    mask_append_of_notMem (by decide) _
  exact paren.trans (congrArg (')' :: ·) (mask_single single))

theorem mask_placeholder_append {heap rest : List Char} (plain : '%' ∉ heap)
    (single : rest.head? ≠ some '%') :
    mask (Placeholder.written heap ++ rest) = Placeholder.written heap ++ mask rest := by
  rw [Placeholder.written, List.append_assoc, List.append_assoc, mask_opening_append,
    mask_append_of_notMem plain, mask_closing_append single]
  simp only [List.append_assoc]

/-- A percent sign right behind a placeholder is masked together with the one that closes it. -/
theorem mask_placeholder_percent {heap : List Char} (plain : '%' ∉ heap) (rest : List Char) :
    mask (Placeholder.written heap ++ '%' :: rest) =
      Placeholder.opening ++ (heap ++ [')'] ++ marker ++ mask rest) := by
  have inside : '%' ∉ heap ++ [')'] := by simpa using plain
  have pair : mask (heap ++ [')'] ++ '%' :: '%' :: rest) = heap ++ [')'] ++ (marker ++ mask rest) := by
    rw [mask_append_of_notMem inside, mask_pair_append]
  have shape : Placeholder.written heap ++ '%' :: rest =
      Placeholder.opening ++ (heap ++ [')'] ++ '%' :: '%' :: rest) := by
    simp [Placeholder.written, Placeholder.closing_eq]
  rw [shape, mask_opening_append, pair]
  simp only [List.append_assoc]

theorem mask_doubled_append (text rest : List Char) :
    mask (doubled text ++ rest) = marked text ++ mask rest := by
  induction text with
  | nil => rfl
  | cons c text ih =>
    simp only [doubled, marked, List.flatMap_cons, List.append_assoc] at ih ⊢
    split
    · exact (mask_pair_append _).trans (congrArg (marker ++ ·) ih)
    · rename_i different
      rw [mask_append_of_notMem (by simpa using Ne.symm different), ih]

theorem percent_notMem_marked (text : List Char) : '%' ∉ marked text := by
  intro found
  obtain ⟨c, _, found⟩ := List.mem_flatMap.mp found
  split at found
  · exact absurd found (by decide)
  · rename_i different
    exact different (List.mem_singleton.mp found).symm

/-! ### How many percent signs are left -/

/-- At most `n` percent signs of a text are not masked, and at most one more if one stands before
the text, which shifts the pairs that are masked. -/
def Leaves (n : Nat) (text : List Char) : Prop :=
  (mask text).count '%' ≤ n ∧ (mask ('%' :: text)).count '%' ≤ n + 1

theorem leaves_nil : Leaves 0 [] := by
  constructor <;> decide

theorem Leaves.append_plain {n : Nat} {front rest : List Char} (leaves : Leaves n rest)
    (plain : '%' ∉ front) : Leaves n (front ++ rest) := by
  cases front with
  | nil => exact leaves
  | cons c front =>
    have single : ((c :: front) ++ rest).head? ≠ some '%' := by
      simpa using fun same : c = '%' => plain (by simp [same])
    have none : (c :: front).count '%' = 0 := List.count_eq_zero.mpr plain
    rw [Leaves, mask_single single, mask_append_of_notMem plain, List.count_cons_self,
      List.count_append, none, Nat.zero_add]
    exact ⟨leaves.1, Nat.succ_le_succ leaves.1⟩

theorem Leaves.append_doubled {n : Nat} {rest : List Char} (leaves : Leaves n rest)
    (text : List Char) : Leaves n (doubled text ++ rest) := by
  have none : marker.count '%' = 0 := by decide
  induction text with
  | nil => exact leaves
  | cons c text ih =>
    simp only [doubled, List.flatMap_cons, List.append_assoc] at ih ⊢
    split
    · simp only [Leaves, List.cons_append, List.nil_append, mask_pair_append, List.count_append,
        none, Nat.zero_add]
      exact ih
    · rename_i different
      exact ih.append_plain (by simpa using Ne.symm different)

theorem Leaves.append_placeholder {n : Nat} {heap rest : List Char} (leaves : Leaves n rest)
    (plain : '%' ∉ heap) : Leaves (n + 2) (Placeholder.written heap ++ rest) := by
  obtain ⟨inner, shape, inside⟩ : ∃ inner,
      Placeholder.written heap ++ rest = '%' :: ('e' :: inner ++ '%' :: rest) ∧
        '%' ∉ 'e' :: inner :=
    ⟨['n', 'v', '('] ++ heap ++ [')'],
      by simp [Placeholder.written, Placeholder.opening_eq, Placeholder.closing_eq],
      by simpa using plain⟩
  have none := List.count_eq_zero.mpr inside
  have marks : marker.count '%' = 0 := by decide
  have single : ('e' :: inner ++ '%' :: rest).head? ≠ some '%' := by simp
  have shifted := leaves.2
  rw [shape, Leaves, mask_single single, mask_pair_append, mask_append_of_notMem inside,
    List.count_cons_self, List.count_append, List.count_append, List.count_append, none, marks]
  omega

/-! ### Masks back to percent signs -/

theorem length_unmask_le (text : List Char) : (unmask text).length ≤ text.length :=
  Text.length_replaceAll_le (by decide) (by decide) text

theorem unmask_marker_append (rest : List Char) : unmask (marker ++ rest) = '%' :: unmask rest := by
  obtain ⟨inner, eq⟩ := marker_eq
  exact Text.replaceAll_pattern_append (eq ▸ List.cons_ne_nil _ _) rest

theorem unmask_append_of_notMem {front : List Char} (plain : '\x00' ∉ front) (rest : List Char) :
    unmask (front ++ rest) = front ++ unmask rest := by
  obtain ⟨inner, eq⟩ := marker_eq
  rw [unmask, unmask, eq]
  exact Text.replaceAll_append_of_notMem plain rest

theorem unmask_marked_append {text : List Char} (plain : '\x00' ∉ text) (rest : List Char) :
    unmask (marked text ++ rest) = text ++ unmask rest := by
  induction text with
  | nil => rfl
  | cons c text ih =>
    obtain ⟨different, plain⟩ : '\x00' ≠ c ∧ '\x00' ∉ text := by simpa using plain
    simp only [marked, List.flatMap_cons, List.append_assoc] at ih ⊢
    split
    · rename_i percent
      rw [unmask_marker_append, ih plain, percent, List.cons_append]
    · rw [unmask_append_of_notMem (by simpa using different), ih plain]
      rfl

theorem unmask_of_notMem {text : List Char} (plain : '\x00' ∉ text) : unmask text = text := by
  obtain ⟨inner, eq⟩ := marker_eq
  rw [unmask, eq]
  exact Text.replaceAll_of_notMem plain

end EnvTemplate.Template
