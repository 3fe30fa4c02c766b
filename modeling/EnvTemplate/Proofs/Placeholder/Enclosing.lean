import EnvTemplate.Proofs.Placeholder.Sweep
import Mathlib.Data.List.Pairwise
/-! Innermost placeholders beside a placeholder that encloses others. A closing and the opening
behind it may share a percent sign. A reported span keeps its percent sign, an enclosing placeholder
that is not reported itself does not. -/
namespace EnvTemplate.Placeholder

/-- A span that begins behind the start of another one lies in it or behind it. -/
def Nests (start stop : Nat) (span : Nat × Nat) : Prop :=
  start < span.1 → span.2 ≤ stop ∨ stop ≤ span.1

instance (start stop : Nat) (span : Nat × Nat) : Decidable (Nests start stop span) :=
  inferInstanceAs (Decidable (_ → _))

/-! ### Openings and closings in a text -/

/-- Two openings do not overlap. -/
theorem opening_prefix_of_append {front back tail : List Char} (later : front ≠ [])
    (same : opening ++ back = front ++ opening ++ tail) : opening <+: front := by
  cases front with
  | nil => contradiction
  | cons c front =>
    obtain ⟨rfl, behind⟩ : '%' = c ∧ ['e', 'n', 'v', '('] ++ back =
        front ++ '%' :: (['e', 'n', 'v', '('] ++ tail) := by
      simpa [opening_eq] using same
    have reaches : ['e', 'n', 'v', '('] <+: front :=
      (Text.prefix_append_cons_iff (by decide)).mp ⟨back, behind⟩
    exact List.cons_prefix_cons.mpr ⟨rfl, reaches⟩

/-- The later one of two placeholders opens in the heap of the other, unless that one ends before it
or with its percent sign. -/
theorem inside_or_behind {text before heap behind other inner after : List Char}
    (whole : text = before ++ written heap ++ behind) (cut : text = other ++ written inner ++ after)
    (later : before.length < other.length) :
    (∃ front rest, heap = front ++ opening ++ rest ∧ other = before ++ opening ++ front ∧
      rest ++ closing ++ behind = inner ++ closing ++ after) ∨
    (before ++ written heap).length ≤ other.length + 1 := by
  refine or_iff_not_imp_right.mpr fun ends => ?_
  rw [whole] at cut
  obtain ⟨middle, rfl⟩ : before <+: other :=
    List.prefix_of_prefix_length_le ⟨written heap ++ behind, by simpa using cut⟩
      ⟨written inner ++ after, by simp⟩ (Nat.le_of_lt later)
  have nonempty : middle ≠ [] := by
    rintro rfl
    simp at later
  have cut : opening ++ (heap ++ closing ++ behind) =
      middle ++ opening ++ (inner ++ closing ++ after) := by simpa [written] using cut
  obtain ⟨front, rfl⟩ := opening_prefix_of_append nonempty cut
  have cut : heap ++ closing ++ behind = front ++ opening ++ (inner ++ closing ++ after) := by
    simpa using cut
  obtain ⟨rest, rfl⟩ : front <+: heap := by
    refine List.prefix_of_prefix_length_le
      ⟨opening ++ (inner ++ closing ++ after), by simpa using cut.symm⟩
      ⟨closing ++ behind, by simp⟩ ?_
    simp only [List.length_append, written_length, opening_eq, List.length_cons,
      List.length_nil] at ends
    omega
  -- no opening runs into the closing of the heap
  have cut : rest ++ ')' :: '%' :: behind = opening ++ (inner ++ closing ++ after) := by
    simpa [closing_eq] using cut
  obtain ⟨rest, rfl⟩ : opening <+: rest :=
    (Text.prefix_append_cons_iff (by decide)).mp ⟨_, cut.symm⟩
  refine ⟨front, rest, by simp, by simp, ?_⟩
  simpa [closing_eq] using cut

/-- What stands before the first closing is no longer than what stands before another one. -/
theorem length_le_of_closing {heap after rest behind : List Char} (unclosed : ¬ closing <:+: heap)
    (same : heap ++ closing ++ after = rest ++ closing ++ behind) : heap.length ≤ rest.length := by
  by_contra longer
  obtain ⟨tail, rfl⟩ : rest <+: heap :=
    List.prefix_of_prefix_length_le ⟨closing ++ behind, by simpa using same.symm⟩
      ⟨closing ++ after, by simp⟩ (Nat.le_of_not_le longer)
  have cut : tail ++ closing ++ after = closing ++ behind := by simpa using same
  cases tail with
  | nil => simp at longer
  | cons c tail =>
    cases tail with
    | nil => simp [closing_eq] at cut
    | cons d tail =>
      obtain ⟨rfl, rfl, -⟩ : c = ')' ∧ d = '%' ∧ tail ++ closing ++ after = behind := by
        simpa [closing_eq] using cut
      exact unclosed ⟨rest, tail, by simp [closing_eq]⟩

/-- A heap that closes one more placeholder than it opens holds a closing. -/
theorem closing_infix_of_balanced {depth : Nat} {text heap : List Char}
    (read : balanced (depth + 1) text = some heap) : closing <:+: heap := by
  generalize deeper : depth + 1 = opened at read
  fun_induction balanced opened text generalizing depth heap with
  | case1 opened rest ih =>
    obtain ⟨inner, found, rfl⟩ := Option.map_eq_some_iff.mp read
    exact (ih rfl found).trans (List.suffix_append _ _).isInfix
  | case2 rest => contradiction
  | case3 rest opened ih =>
    obtain ⟨inner, found, rfl⟩ := Option.map_eq_some_iff.mp read
    exact (List.prefix_append _ _).isInfix
  | case4 opened c rest _ _ ih =>
    obtain ⟨inner, found, rfl⟩ := Option.map_eq_some_iff.mp read
    exact (ih deeper found).trans (List.suffix_cons _ _).isInfix
  | case5 => contradiction

/-- An opening in a heap is closed in it, unless its percent sign belongs to a closing. -/
theorem closing_infix_of_opening {depth : Nat} {text heap inner rest : List Char}
    (read : balanced depth text = some heap) (cut : heap = inner ++ opening ++ rest)
    (apart : ¬ [')'] <:+ inner) : closing <:+: rest := by
  fun_induction balanced depth text generalizing heap inner with
  | case1 depth text ih =>
    obtain ⟨behind, found, rfl⟩ := Option.map_eq_some_iff.mp read
    by_cases first : inner = []
    · subst first
      obtain rfl : behind = rest := List.append_cancel_left cut
      exact closing_infix_of_balanced found
    · obtain ⟨inner, rfl⟩ := opening_prefix_of_append first cut
      have cut : behind = inner ++ opening ++ rest := by simpa using cut
      exact ih found cut fun last => apart (last.trans (List.suffix_append _ _))
  | case2 text =>
    obtain rfl := Option.some.inj read
    simp [opening_eq] at cut
  | case3 text depth ih =>
    obtain ⟨behind, found, rfl⟩ := Option.map_eq_some_iff.mp read
    rcases inner with - | ⟨c, - | ⟨d, inner⟩⟩
    · simp [opening_eq, closing_eq] at cut
    · obtain rfl : ')' = c := (List.cons.inj cut).1
      exact absurd (List.suffix_refl _) apart
    · obtain ⟨-, -, cut⟩ : ')' = c ∧ '%' = d ∧ behind = inner ++ opening ++ rest := by
        simpa [closing_eq] using cut
      exact ih found cut fun last => apart (last.trans (List.suffix_append [c, d] _))
  | case4 depth c text opens _ ih =>
    obtain ⟨behind, found, rfl⟩ := Option.map_eq_some_iff.mp read
    cases inner with
    | nil =>
      obtain ⟨tail, rfl⟩ := balanced_sound found
      obtain ⟨rfl, rfl⟩ := List.cons.inj cut
      exact absurd rfl (opens _ rfl)
    | cons d inner =>
      have cut : behind = inner ++ opening ++ rest := (List.cons.inj cut).2
      exact ih found cut fun last => apart (last.trans (List.suffix_cons _ _))
  | case5 => contradiction

/-! ### Spans beside an enclosing placeholder -/

theorem start_add_le_stop {text : List Char} {p : Placeholder} (found : p ∈ innermost text) :
    p.start + 7 ≤ p.stop := by
  obtain ⟨before, heap, after, -, rfl, -⟩ := exists_of_mem_innermost found
  simp only [List.length_append, written_length]
  omega

theorem flatHeapAtFront?_of_mem {text : List Char} {p : Placeholder} (found : p ∈ innermost text) :
    flatHeapAtFront? (text.drop p.start) ≠ none := by
  obtain ⟨before, heap, after, rfl, rfl, flat⟩ := exists_of_mem_innermost found
  have read : flatHeapAtFront? (written heap ++ after) = some heap :=
    flatHeapAtFront?_eq_some_iff.mpr ⟨⟨after, rfl⟩, flat⟩
  simp [List.append_assoc, read]

/-- No reported span begins with the last percent sign of another one. -/
theorem start_succ_ne_stop {text : List Char} {p q : Placeholder} (found : p ∈ innermost text)
    (other : q ∈ innermost text) : p.start + 1 ≠ q.stop := by
  have symmetric : Std.Symm fun p q : Placeholder => p.stop ≤ q.start ∨ q.stop ≤ p.start :=
    ⟨fun _ _ => Or.symm⟩
  have apart : (innermost text).Pairwise fun p q => p.stop ≤ q.start ∨ q.stop ≤ p.start := by
    rw [innermost_eq_spansFrom]
    exact (pairwise_spansFrom 0 _).imp Or.inl
  have filled := start_add_le_stop found
  have full := start_add_le_stop other
  by_cases same : p = q
  · subst same
    omega
  · have order := apart.forall found other same
    omega

theorem heapAtFront?_sound {rest heap : List Char} (opened : heapAtFront? rest = some heap) :
    ∃ behind, rest = written heap ++ behind ∧
      balanced 0 (heap ++ closing ++ behind) = some heap := by
  obtain ⟨tail, front, read⟩ := Option.bind_eq_some_iff.mp opened
  obtain ⟨behind, rfl⟩ := balanced_sound read
  exact ⟨behind, by simp [Text.afterFront?_eq_some_iff.mp front, written], read⟩

section
variable {text before heap behind : List Char} (whole : text = before ++ written heap ++ behind)
include whole

/-- A reported span crosses the end of a placeholder on its left in one percent sign only. -/
theorem nests_or_shares {p : Placeholder} (found : p ∈ innermost text) :
    Nests before.length (before ++ written heap).length (p.start, p.stop) ∨
      p.start + 1 = (before ++ written heap).length := by
  obtain ⟨other, inner, after, cut, rfl, -, unclosed⟩ := exists_of_mem_innermost found
  refine or_iff_not_imp_right.mpr fun unshared later => ?_
  obtain ⟨front, rest, rfl, rfl, ends⟩ | beyond := inside_or_behind whole cut later
  · have shorter := length_le_of_closing unclosed ends.symm
    left
    simp only [List.length_append, written_length]
    omega
  · right
    simp only at unshared ⊢
    omega

/-- Spans nest in bytes as they nest in characters. -/
theorem nests_byteSpan_iff {p : Placeholder} (found : p ∈ innermost text) :
    Nests (Utf8.encode before).length (Utf8.encode (before ++ written heap)).length
        (p.byteSpan text) ↔
      Nests before.length (before ++ written heap).length (p.start, p.stop) := by
  obtain ⟨other, inner, after, cut, rfl, -⟩ := exists_of_mem_innermost found
  have starts : text = before ++ (written heap ++ behind) := by simp [whole]
  have begins : text = other ++ (written inner ++ after) := by simp [cut]
  rw [byteSpan_of_append cut, Nests, Nests]
  simp only [← Nat.not_lt, Utf8.length_encode_lt_iff starts begins,
    Utf8.length_encode_lt_iff whole cut, Utf8.length_encode_lt_iff begins whole]

/-- An innermost placeholder that opens with the last percent sign of another one is reported, if no
reported span ends with this sign. -/
theorem exists_of_shared {inner : List Char}
    (shared : flatHeapAtFront? (text.drop ((before ++ written heap).length - 1)) = some inner)
    (free : ∀ q ∈ innermost text, q.stop ≠ (before ++ written heap).length) :
    ∃ p ∈ innermost text, before.length < p.start ∧
      p.start < (before ++ written heap).length ∧ (before ++ written heap).length < p.stop := by
  have size : (before ++ written heap).length = before.length + heap.length + 7 := by
    rw [List.length_append, written_length, Nat.add_assoc]
  obtain ⟨⟨after, rest⟩, unopened, unclosed⟩ := flatHeapAtFront?_eq_some_iff.mp shared
  obtain ⟨front, cut, place⟩ : ∃ front, text = front ++ written inner ++ after ∧
      front.length + 1 = (before ++ written heap).length := by
    refine ⟨text.take ((before ++ written heap).length - 1), ?_, ?_⟩
    · rw [List.append_assoc, ← rest, List.take_append_drop]
    · have fits := congrArg List.length whole
      rw [List.length_append] at fits
      rw [List.length_take]
      omega
  have reported := mem_spansFrom_of_flat 0 unopened unclosed text cut fun q found earlier => by
    rw [← innermost_eq_spansFrom] at found
    have apart := free q found
    obtain ⟨other, name, tail, split, rfl, flat, -⟩ := exists_of_mem_innermost found
    obtain ⟨inside, outside, rfl, -⟩ | beyond :=
      inside_or_behind split cut (by simpa using earlier)
    · exact absurd ⟨inside, outside, rfl⟩ flat
    · simp only at apart ⊢
      omega
  rw [← innermost_eq_spansFrom] at reported
  refine ⟨_, reported, ?_, ?_, ?_⟩
  all_goals
    simp only [written_length]
    omega

/-- A reported span ends with the last percent sign of an enclosing placeholder only if the heap
closes one placeholder with the sign that opens another. -/
theorem stop_ne_of_opening (read : balanced 0 (heap ++ closing ++ behind) = some heap)
    (opens : opening <:+: heap) (apart : ¬ ")%env(".toList <:+: heap) {q : Placeholder}
    (found : q ∈ innermost text) : q.stop ≠ (before ++ written heap).length := by
  obtain ⟨other, inner, after, cut, rfl, unopened, unclosed⟩ := exists_of_mem_innermost found
  intro ends
  simp only at ends
  have same : other ++ written inner ++ after = before ++ written heap ++ behind :=
    cut.symm.trans whole
  obtain ⟨front, rfl⟩ := List.append_inj same ends
  simp only [List.length_append, written_length] at ends
  obtain left | level | right := Nat.lt_trichotomy other.length before.length
  · obtain ⟨inside, tail, rfl, -⟩ | beyond := inside_or_behind cut whole left
    · exact unopened ⟨inside, tail, rfl⟩
    · simp only [List.length_append, written_length] at beyond
      omega
  · have level : written inner = written heap := (List.append_inj front level).2
    obtain rfl : inner = heap := by simpa [written] using level
    exact unopened opens
  · obtain ⟨inside, rest, rfl, -, tail⟩ | beyond := inside_or_behind whole cut right
    · obtain rfl : rest = inner := by simpa using tail
      refine unclosed (closing_infix_of_opening read rfl ?_)
      rintro ⟨start, rfl⟩
      exact apart ⟨start, rest, by simp [opening_eq]⟩
    · simp only [List.length_append, written_length] at beyond
      omega

end

/-- The spans on the right of an opening nest with its placeholder, unless one of them begins with
the percent sign that closes it. This happens if an innermost placeholder opens with this sign and
no reported span ends with it, as is the case where a placeholder encloses others. -/
theorem innermost_nests_iff {text before rest heap : List Char} (whole : text = before ++ rest)
    (opened : heapAtFront? rest = some heap) :
    (∀ p ∈ innermost text,
      Nests before.length (before ++ written heap).length (p.start, p.stop) ∨
        p.start + 1 = (before ++ written heap).length) ∧
    (∀ p ∈ innermost text,
      Nests (Utf8.encode before).length (Utf8.encode (before ++ written heap)).length
          (p.byteSpan text) ↔
        Nests before.length (before ++ written heap).length (p.start, p.stop)) ∧
    ((∀ p ∈ innermost text, Nests before.length (before ++ written heap).length (p.start, p.stop)) ↔
      (∃ q ∈ innermost text, q.stop = (before ++ written heap).length) ∨
        flatHeapAtFront? (text.drop ((before ++ written heap).length - 1)) = none) ∧
    (opening <:+: heap → ¬ ")%env(".toList <:+: heap →
      ∀ q ∈ innermost text, q.stop ≠ (before ++ written heap).length) := by
  obtain ⟨behind, rfl, read⟩ := heapAtFront?_sound opened
  rw [← List.append_assoc] at whole
  refine ⟨fun p => nests_or_shares whole, fun p => nests_byteSpan_iff whole, ⟨?_, ?_⟩,
    fun opens apart q => stop_ne_of_opening whole read opens apart⟩
  · intro nested
    by_contra exposed
    obtain ⟨free, shared⟩ := not_or.mp exposed
    obtain ⟨inner, shared⟩ := Option.ne_none_iff_exists'.mp shared
    obtain ⟨p, found, later, inside, beyond⟩ :=
      exists_of_shared whole shared fun q reported ends => free ⟨q, reported, ends⟩
    obtain ends | begins := nested p found later
    · exact absurd beyond (Nat.not_lt.mpr ends)
    · exact absurd inside (Nat.not_lt.mpr begins)
  · intro kept p found
    obtain nests | shares := nests_or_shares whole found
    · exact nests
    · obtain ⟨q, reported, ends⟩ | closed := kept
      · exact absurd (shares.trans ends.symm) (start_succ_ne_stop found reported)
      · have read := flatHeapAtFront?_of_mem found
        rw [← shares, Nat.add_sub_cancel] at closed
        exact absurd closed read

/-- The percent sign that closes the outer placeholder begins the last span, that of the placeholder
in it begins none. -/
theorem innermost_two_enclosing :
    (∀ p ∈ innermost "é%env(%env(%env(A)%)%)%env(B)%".toList, Nests 6 21 (p.start, p.stop)) ∧
    ¬ ∀ p ∈ innermost "é%env(%env(%env(A)%)%)%env(B)%".toList,
      Nests 2 24 (p.byteSpan "é%env(%env(%env(A)%)%)%env(B)%".toList) := by
  obtain ⟨-, -, within, -⟩ := @innermost_nests_iff "é%env(%env(%env(A)%)%)%env(B)%".toList
    "é%env(".toList "%env(%env(A)%)%)%env(B)%".toList "%env(A)%".toList (by decide) (by decide)
  obtain ⟨-, bytes, around, apart⟩ := @innermost_nests_iff "é%env(%env(%env(A)%)%)%env(B)%".toList
    ['é'] "%env(%env(%env(A)%)%)%env(B)%".toList "%env(%env(A)%)%".toList (by decide) (by decide)
  refine ⟨within.mpr (.inr (by decide)), fun nested => ?_⟩
  obtain ⟨q, found, ends⟩ | closed := around.mp fun p found => (bytes p found).mp (nested p found)
  · exact apart (by decide) (by decide) q found ends
  · exact absurd closed (by decide)

/-- The last span begins with the percent sign that closes the first placeholder. -/
theorem innermost_crossing :
    heapAtFront? "%env(%env(A)%)%env(B)%".toList = some "%env(A)%".toList ∧
    innermost "%env(%env(A)%)%env(B)%".toList = [⟨5, 13, "A"⟩, ⟨14, 22, "B"⟩] ∧
    byteSpan ⟨14, 22, "B"⟩ "%env(%env(A)%)%env(B)%".toList = (14, 22) ∧
    ¬ Nests 0 (written "%env(A)%".toList).length (14, 22) := by
  decide

end EnvTemplate.Placeholder
