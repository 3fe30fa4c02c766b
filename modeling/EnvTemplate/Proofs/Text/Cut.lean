import EnvTemplate.Proofs.Text.Pattern
import Mathlib.Data.List.TakeDrop
import Mathlib.Data.List.TakeWhile
/-! Where a list is cut. A cut at the first or the last occurrence of a separator gives back the parts
that the list was put together from, and so does the longest front whose members satisfy a test. -/
namespace EnvTemplate.Text

variable {α : Type}

/-- The longest front ends where a member fails the test, or with the list. -/
theorem span_eq_iff {p : α → Bool} {xs front rest : List α} :
    xs.span p = (front, rest) ↔
      xs = front ++ rest ∧ (∀ x ∈ front, p x = true) ∧ ∀ x ∈ rest.head?, p x = false := by
  rw [List.span_eq_takeWhile_dropWhile, Prod.mk.injEq]
  constructor
  · rintro ⟨rfl, rfl⟩
    refine ⟨List.takeWhile_append_dropWhile.symm, fun x member => List.mem_takeWhile_imp member, ?_⟩
    intro x first
    have fails := List.head?_dropWhile_not p xs
    rw [Option.mem_def.mp first] at fails
    exact fails
  · rintro ⟨rfl, all, ends⟩
    rw [List.takeWhile_append_of_pos all, List.dropWhile_append_of_pos all]
    cases rest with
    | nil => exact ⟨List.append_nil front, rfl⟩
    | cons x rest =>
      have last : ¬ p x = true := Bool.eq_false_iff.mp (ends x rfl)
      rw [List.takeWhile_cons_of_neg last, List.dropWhile_cons_of_neg last, List.append_nil]
      exact ⟨rfl, rfl⟩

theorem takeWhile_append {p : α → Bool} {front rest : List α} (all : ∀ x ∈ front, p x = true)
    (ends : ∀ x ∈ rest.head?, p x = false) : (front ++ rest).takeWhile p = front := by
  have split := span_eq_iff.mpr ⟨rfl, all, ends⟩
  rw [List.span_eq_takeWhile_dropWhile] at split
  exact congrArg Prod.fst split

theorem dropWhile_eq_self {p : α → Bool} {xs : List α} (stays : ∀ x ∈ xs.head?, p x = false) :
    xs.dropWhile p = xs := by
  have split := span_eq_iff.mpr ⟨(List.nil_append xs).symm, List.forall_mem_nil _, stays⟩
  rw [List.span_eq_takeWhile_dropWhile] at split
  exact congrArg Prod.snd split

theorem strip_eq_self {p : α → Bool} {xs : List α} (first : ∀ x ∈ xs.head?, p x = false)
    (last : ∀ x ∈ xs.getLast?, p x = false) : strip p xs = xs := by
  rw [← List.head?_reverse] at last
  rw [strip, dropEndWhile, dropWhile_eq_self first, dropWhile_eq_self last, List.reverse_reverse]

/-- What is left when the members that satisfy `p` are gone at both ends. -/
def IsStripped (p : α → Bool) (xs core : List α) : Prop :=
  ∃ before behind, xs = before ++ core ++ behind ∧
    (∀ x ∈ before, p x = true) ∧ (∀ x ∈ behind, p x = true) ∧
    (∀ x ∈ core.head?, p x = false) ∧ ∀ x ∈ core.getLast?, p x = false

theorem strip_eq_of_isStripped {p : α → Bool} {xs core : List α} (stripped : IsStripped p xs core) :
    strip p xs = core := by
  obtain ⟨before, behind, rfl, blankBefore, blankBehind, first, last⟩ := stripped
  cases core with
  | nil =>
    have all : ∀ x ∈ before ++ [] ++ behind, p x = true := by
      rw [List.append_nil]
      exact List.forall_mem_append.mpr ⟨blankBefore, blankBehind⟩
    rw [strip, List.dropWhile_eq_nil_iff.mpr all]
    rfl
  | cons x core =>
    have stays : (x :: core ++ behind).dropWhile p = x :: core ++ behind :=
      dropWhile_eq_self fun y same => first y same
    rw [← List.head?_reverse] at last
    rw [strip, dropEndWhile, List.append_assoc, List.dropWhile_append_of_pos blankBefore, stays,
      List.reverse_append, List.dropWhile_append_of_pos (by simpa using blankBehind),
      dropWhile_eq_self last, List.reverse_reverse]

theorem isStripped_strip (p : α → Bool) (xs : List α) : IsStripped p xs (strip p xs) := by
  have front := List.takeWhile_append_dropWhile (p := p) (l := xs)
  generalize rest : xs.dropWhile p = inner at front
  have back : inner = strip p xs ++ (inner.reverse.takeWhile p).reverse := by
    have split := congrArg List.reverse
      (List.takeWhile_append_dropWhile (p := p) (l := inner.reverse))
    rw [List.reverse_append, List.reverse_reverse] at split
    rw [strip, dropEndWhile, rest]
    exact split.symm
  refine ⟨xs.takeWhile p, (inner.reverse.takeWhile p).reverse, ?_, ?_, ?_, ?_, ?_⟩
  · rw [List.append_assoc, ← back, front]
  · exact fun x member => List.mem_takeWhile_imp member
  · exact fun x member => List.mem_takeWhile_imp (List.mem_reverse.mp member)
  · intro x first
    have fails := List.head?_dropWhile_not p xs
    rw [rest, back, List.head?_append, Option.mem_def.mp first] at fails
    exact fails
  · intro x last
    have fails := List.head?_dropWhile_not p inner.reverse
    rw [strip, dropEndWhile, List.getLast?_reverse, rest, Option.mem_def] at last
    rw [last] at fails
    exact fails

variable [DecidableEq α] {separator : α} {xs front behind : List α}

theorem cut_append (absent : separator ∉ front) :
    cut separator (front ++ separator :: behind) = some (front, behind) := by
  induction front with
  | nil => exact if_pos (beq_self_eq_true separator)
  | cons x front ih =>
    obtain ⟨different, absent⟩ := not_or.mp (mt List.mem_cons.mpr absent)
    rw [List.cons_append, cut, cutWhere, if_neg (mt beq_iff_eq.mp (Ne.symm different)), ← cut,
      ih absent]
    rfl

theorem cutLast_eq_none (absent : separator ∉ xs) : cutLast separator xs = none := by
  induction xs with
  | nil => rfl
  | cons x xs ih =>
    obtain ⟨different, absent⟩ := not_or.mp (mt List.mem_cons.mpr absent)
    rw [cutLast, cutLastWhere, ← cutLast, ih absent]
    exact if_neg (mt beq_iff_eq.mp (Ne.symm different))

theorem cutLast_append (absent : separator ∉ behind) :
    cutLast separator (front ++ separator :: behind) = some (front, behind) := by
  induction front with
  | nil =>
    rw [List.nil_append, cutLast, cutLastWhere, ← cutLast, cutLast_eq_none absent]
    exact if_pos (beq_self_eq_true separator)
  | cons x front ih => rw [List.cons_append, cutLast, cutLastWhere, ← cutLast, ih]

theorem append_of_cutLast (found : cutLast separator xs = some (front, behind)) :
    xs = front ++ separator :: behind := by
  induction xs generalizing front with
  | nil => contradiction
  | cons x xs ih =>
    rw [cutLast, cutLastWhere, ← cutLast] at found
    split at found
    · rename_i later
      obtain ⟨rfl, rfl⟩ := Prod.mk.inj (Option.some.inj found)
      exact congrArg (x :: ·) (ih later)
    · obtain ⟨same, found⟩ := Option.ite_none_right_eq_some.mp found
      obtain ⟨rfl, rfl⟩ := Prod.mk.inj (Option.some.inj found)
      exact congrArg (· :: xs) (beq_iff_eq.mp same)

omit [DecidableEq α] in
theorem exists_append_last (member : separator ∈ xs) :
    ∃ front behind, xs = front ++ separator :: behind ∧ separator ∉ behind := by
  obtain ⟨last, rest, shape, absent⟩ := List.eq_append_cons_of_mem (List.mem_reverse.mpr member)
  exact ⟨rest.reverse, last.reverse, by simpa using congrArg List.reverse shape, by simpa using absent⟩

theorem notMem_behindLast : separator ∉ ((cutLast separator xs).map Prod.snd).getD xs := by
  by_cases member : separator ∈ xs
  · obtain ⟨front, behind, rfl, absent⟩ := exists_append_last member
    rw [cutLast_append absent]
    exact absent
  · rw [cutLast_eq_none member]
    exact member

/-- Behind the last separator stand all ends without it. -/
theorem suffix_behindLast_iff {ending : List α} (absent : separator ∉ ending) :
    ending <:+ ((cutLast separator xs).map Prod.snd).getD xs ↔ ending <:+ xs := by
  by_cases member : separator ∈ xs
  · obtain ⟨front, behind, rfl, last⟩ := exists_append_last member
    have tail : separator :: behind <:+ front ++ separator :: behind := List.suffix_append _ _
    rw [cutLast_append last]
    constructor
    · exact fun ends => (ends.trans (List.suffix_cons separator behind)).trans tail
    · intro ends
      obtain longer | inside := List.suffix_or_suffix_of_suffix tail ends
      · exact absurd (longer.mem List.mem_cons_self) absent
      · obtain rfl | ends := List.suffix_cons_iff.mp inside
        · exact absurd List.mem_cons_self absent
        · exact ends
  · rw [cutLast_eq_none member]
    rfl

/-- The first occurrence stands behind a part without the first member of the pattern. -/
theorem cutPattern_append {p : α} {ps : List α} (absent : p ∉ front) :
    cutPattern (p :: ps) (front ++ (p :: ps ++ behind)) = some (front, behind) := by
  induction front with
  | nil =>
    have found : afterFront? (p :: ps) (p :: (ps ++ behind)) = some behind :=
      afterFront?_eq_some_iff.mpr rfl
    rw [List.nil_append, List.cons_append, cutPattern, found]
  | cons x front ih =>
    obtain ⟨different, absent⟩ := not_or.mp (mt List.mem_cons.mpr absent)
    have none : afterFront? (p :: ps) (x :: (front ++ (p :: ps ++ behind))) = none :=
      if_neg different
    rw [List.cons_append, cutPattern, none, ih absent]
    rfl

end EnvTemplate.Text
