import EnvTemplate.Proofs.Template.Pass
/-! The limit of passes. What passes give is told by consecutive rewritings of all placeholders at
once, in which no limit occurs: a limit says how many of them may be made, and nothing else. -/
namespace EnvTemplate.Template
open Placeholder (Piece pieces)

/-- Whether a text still holds a placeholder. -/
def Open (text : List Char) : Prop :=
  Placeholder.innermost text ≠ []
deriving Decidable

theorem open_iff_mem_pieces {text : List Char} :
    Open text ↔ ∃ heap, .placeholder heap ∈ pieces text := by
  rw [Open, Placeholder.innermost_eq_spansFrom, Ne, spansFrom_eq_nil_iff]
  simp only [not_forall, not_not]

theorem notMem_pieces_of_not_open {text : List Char} (bare : ¬ Open text) (heap : List Char) :
    .placeholder heap ∉ pieces text :=
  fun found => bare (open_iff_mem_pieces.mpr ⟨heap, found⟩)

section
variable (resolve : Resolver) (render : Renderer)

/-- Consecutive rewritings of all placeholders at once. Each of them is made of a text that holds a
placeholder, and all heaps in it have values. -/
inductive Rewritings : Nat → List Char → List Char → Prop
  | none (text : List Char) : Rewritings 0 text text
  | next {n : Nat} {text after last : List Char} : Open text →
      fill resolve render (pieces text) = .ok after → Rewritings n after last →
      Rewritings (n + 1) text last

end

variable {resolve : Resolver} {render : Renderer}

/-- Only a text that holds a placeholder can have a failure. -/
theorem open_of_fill_error {text : List Char} {failure : Failure}
    (failed : fill resolve render (pieces text) = .error failure) : Open text := by
  by_contra bare
  rw [fill_of_bare resolve render (notMem_pieces_of_not_open bare)] at failed
  contradiction

theorem passes_of_fill_error {limit allowed : Nat} {text : List Char} {failure : Failure}
    (failed : fill resolve render (pieces text) = .error failure) :
    passes resolve render limit (allowed + 1) text = .error failure := by
  obtain ⟨heap, found⟩ := open_iff_mem_pieces.mp (open_of_fill_error failed)
  rw [passes_succ resolve render limit allowed found, failed]
  rfl

/-- Passes that have been made are as many rewritings, and leave the others to the last text. -/
theorem passes_of_rewritings {n : Nat} {text last : List Char}
    (run : Rewritings resolve render n text last) (limit left : Nat) :
    passes resolve render limit (left + n) text = passes resolve render limit left last := by
  induction run with
  | none text => rfl
  | @next n text after last opened filled _ ih =>
    obtain ⟨heap, found⟩ := open_iff_mem_pieces.mp opened
    rw [← Nat.add_assoc, passes_succ resolve render limit (left + n) found, filled]
    exact ih

/-- Where passes end: at a text without placeholders, at a failure, or where no pass is left. -/
theorem exists_rewritings (resolve : Resolver) (render : Renderer) (allowed : Nat)
    (text : List Char) : ∃ n last, n ≤ allowed ∧ Rewritings resolve render n text last ∧
      (¬ Open last ∨ (n < allowed ∧ ∃ failure, fill resolve render (pieces last) = .error failure) ∨
        (n = allowed ∧ Open last)) := by
  induction allowed generalizing text with
  | zero =>
    refine ⟨0, text, Nat.le_refl 0, .none text, ?_⟩
    by_cases opened : Open text
    · exact Or.inr (Or.inr ⟨rfl, opened⟩)
    · exact Or.inl opened
  | succ allowed ih =>
    by_cases opened : Open text
    · cases filled : fill resolve render (pieces text) with
      | error failure =>
        exact ⟨0, text, Nat.zero_le _, .none text, Or.inr (Or.inl ⟨Nat.succ_pos _, failure, filled⟩)⟩
      | ok after =>
        obtain ⟨n, last, le, run, ends⟩ := ih after
        refine ⟨n + 1, last, Nat.succ_le_succ le, .next opened filled run, ?_⟩
        obtain bare | ⟨lt, failed⟩ | ⟨rfl, opened⟩ := ends
        · exact Or.inl bare
        · exact Or.inr (Or.inl ⟨Nat.succ_lt_succ lt, failed⟩)
        · exact Or.inr (Or.inr ⟨rfl, opened⟩)
    · exact ⟨0, text, Nat.zero_le _, .none text, Or.inl opened⟩

/-- As many rewritings as there are passes leave a placeholder. -/
def Exhausts (resolve : Resolver) (render : Renderer) (allowed : Nat) (text : List Char) : Prop :=
  ∃ last, Rewritings resolve render allowed text last ∧ Open last

theorem passes_of_exhausts {limit allowed : Nat} {text : List Char}
    (exhausts : Exhausts resolve render allowed text) :
    passes resolve render limit allowed text = .error (.reported (.nestingDepthExceeded limit)) := by
  obtain ⟨last, run, opened⟩ := exhausts
  obtain ⟨heap, found⟩ := open_iff_mem_pieces.mp opened
  have made := passes_of_rewritings run limit 0
  rw [Nat.zero_add] at made
  rw [made, passes_zero resolve render limit found]

/-- Passes end in the failure of the first one in which a heap has no value, or where no pass is
left. -/
theorem passes_eq_error_iff {limit allowed : Nat} {text : List Char} {failure : Failure} :
    passes resolve render limit allowed text = .error failure ↔
      (∃ n last, n < allowed ∧ Rewritings resolve render n text last ∧
        replacePass resolve render last (Placeholder.innermost last) = .error failure) ∨
      failure = .reported (.nestingDepthExceeded limit) ∧ Exhausts resolve render allowed text := by
  simp only [replacePass_innermost]
  constructor
  · intro ended
    obtain ⟨n, last, le, run, ends⟩ := exists_rewritings resolve render allowed text
    obtain ⟨left, rfl⟩ := Nat.exists_eq_add_of_le' le
    obtain bare | ⟨lt, error, failed⟩ | ⟨all, opened⟩ := ends
    · rw [passes_of_rewritings run,
        passes_of_bare resolve render limit left (notMem_pieces_of_not_open bare)] at ended
      contradiction
    · obtain ⟨rest, rfl⟩ : ∃ rest, left = rest + 1 := ⟨left - 1, by omega⟩
      rw [passes_of_rewritings run, passes_of_fill_error failed] at ended
      obtain rfl := Except.error.inj ended
      exact Or.inl ⟨n, last, lt, run, failed⟩
    · rw [← all] at ended ⊢
      have exhausts : Exhausts resolve render n text := ⟨last, run, opened⟩
      rw [passes_of_exhausts exhausts] at ended
      exact Or.inr ⟨(Except.error.inj ended).symm, exhausts⟩
  · rintro (⟨n, last, lt, run, failed⟩ | ⟨rfl, exhausts⟩)
    · obtain ⟨left, rfl⟩ : ∃ left, allowed = left + 1 + n := ⟨allowed - n - 1, by omega⟩
      rw [passes_of_rewritings run, passes_of_fill_error failed]
    · exact passes_of_exhausts exhausts

/-- Passes that end before they run out end alike under any higher limit. -/
theorem passes_of_le {limit allowed : Nat} {text : List Char}
    (enough : ¬ Exhausts resolve render allowed text) {more : Nat} (le : allowed ≤ more)
    (higher : Nat) :
    passes resolve render higher more text = passes resolve render limit allowed text := by
  -- both runs make the same rewritings, and then differ only in the passes that are left
  obtain ⟨n, last, made, run, ends⟩ := exists_rewritings resolve render allowed text
  obtain ⟨left, rfl⟩ := Nat.exists_eq_add_of_le' made
  obtain ⟨extra, rfl⟩ := Nat.exists_eq_add_of_le' le
  rw [← Nat.add_assoc, passes_of_rewritings run, passes_of_rewritings run]
  obtain bare | ⟨lt, error, failed⟩ | ⟨all, opened⟩ := ends
  · have none := notMem_pieces_of_not_open bare
    rw [passes_of_bare resolve render higher _ none, passes_of_bare resolve render limit _ none]
  · obtain ⟨rest, rfl⟩ : ∃ rest, left = rest + 1 := ⟨left - 1, by omega⟩
    rw [← Nat.add_assoc, passes_of_fill_error failed, passes_of_fill_error failed]
  · rw [← all] at enough
    exact absurd ⟨last, run, opened⟩ enough

theorem substitute_eq_error_iff {limit : Nat} {text : String} {failure : Failure} :
    substitute resolve render limit text = .error failure ↔
      (∃ n last, n < limit ∧ Rewritings resolve render n (mask text.toList) last ∧
        replacePass resolve render last (Placeholder.innermost last) = .error failure) ∨
      failure = .reported (.nestingDepthExceeded limit) ∧
        Exhausts resolve render limit (mask text.toList) := by
  rw [← passes_eq_error_iff, substitute]
  cases passes resolve render limit limit (mask text.toList) <;> simp [Except.map]

/-- A limit only cuts off: whatever else comes out within it is the same under any higher limit. The
limit is exceeded exactly if as many consecutive rewritings of the masked text can be made, each of
a text that holds a placeholder, and the text after them still holds one. Only a resolver that fails
with such an error itself gives it in another case, and it is then passed on as any failure is. -/
theorem substitute_limit (resolve : Resolver) (render : Renderer) {limit higher : Nat}
    (le : limit ≤ higher) (text : String) :
    (substitute resolve render limit text ≠ .error (.reported (.nestingDepthExceeded limit)) →
      substitute resolve render higher text = substitute resolve render limit text) ∧
    (∀ depth, substitute resolve render limit text = .error (.reported (.nestingDepthExceeded depth)) ↔
      (∃ n last, n < limit ∧ Rewritings resolve render n (mask text.toList) last ∧
        replacePass resolve render last (Placeholder.innermost last) =
          .error (.reported (.nestingDepthExceeded depth))) ∨
      depth = limit ∧ ∃ last, Rewritings resolve render limit (mask text.toList) last ∧ Open last) ∧
    ∀ depth, (∀ heap, resolve heap ≠ .error (.reported (.nestingDepthExceeded depth))) →
      (substitute resolve render limit text = .error (.reported (.nestingDepthExceeded depth)) ↔
        depth = limit ∧
          ∃ last, Rewritings resolve render limit (mask text.toList) last ∧ Open last) := by
  have exceeded (depth : Nat) :
      substitute resolve render limit text = .error (.reported (.nestingDepthExceeded depth)) ↔
        (∃ n last, n < limit ∧ Rewritings resolve render n (mask text.toList) last ∧
          replacePass resolve render last (Placeholder.innermost last) =
            .error (.reported (.nestingDepthExceeded depth))) ∨
        depth = limit ∧ Exhausts resolve render limit (mask text.toList) := by
    rw [substitute_eq_error_iff]
    simp only [Failure.reported.injEq, ResolveError.nestingDepthExceeded.injEq]
  refine ⟨fun ended => ?_, exceeded, fun depth own => (exceeded depth).trans (or_iff_right ?_)⟩
  · have enough : ¬ Exhausts resolve render limit (mask text.toList) :=
      fun exhausts => ended ((exceeded limit).mpr (Or.inr ⟨rfl, exhausts⟩))
    rw [substitute, substitute, passes_of_le enough le higher]
  · rintro ⟨n, last, _, _, failed⟩
    rw [replacePass_innermost] at failed
    obtain ⟨heap, _, unresolved⟩ := exists_of_fill_error resolve render failed
    exact own _ unresolved

/-- Gives the heap `x` a value that holds the placeholder of `x` again, and any other heap `x`. -/
def reopeningResolver : Resolver := fun heap =>
  .ok (.string (if heap = "x" then "%env(x)%" else "x"))

theorem rewritings_reopened (n : Nat) :
    Rewritings reopeningResolver renderPlain n "%env(x)%".toList "%env(x)%".toList := by
  have cut : pieces "%env(x)%".toList = [.placeholder ['x']] := by decide
  induction n with
  | zero => exact .none _
  | succ n ih =>
    refine .next (by decide) ?_ ih
    rw [cut]
    rfl

theorem substitute_unnested (limit : Nat) :
    substitute reopeningResolver renderPlain (limit + 1) "a=%env(a)%" = .ok "a=x" := by
  have cut : pieces (mask "a=%env(a)%".toList) = [.char 'a', .char '=', .placeholder ['a']] := by
    decide
  have filled : fill reopeningResolver renderPlain (pieces (mask "a=%env(a)%".toList)) =
      .ok "a=x".toList := by
    rw [cut]
    rfl
  have bare : ∀ heap, .placeholder heap ∉ pieces "a=x".toList := by
    rw [Placeholder.pieces_of_notMem (by decide)]
    simp
  rw [substitute, passes_of_fill reopeningResolver renderPlain _ limit filled bare]
  rfl

/-- A value that brings its own placeholder back uses up every limit. Other values do not, and an error
of the resolver's own is passed on before any limit is reached. -/
theorem substitute_reopened :
    (3 : Nat) ≤ 5 ∧
      substitute reopeningResolver renderPlain 3 "%env(x)%" =
        .error (.reported (.nestingDepthExceeded 3)) ∧
      substitute reopeningResolver renderPlain 5 "a=%env(a)%" = .ok "a=x" ∧
      substitute (fun _ => .error (.reported (.nestingDepthExceeded 1))) renderPlain 3 "%env(x)%" =
        .error (.reported (.nestingDepthExceeded 1)) := by
  have le : (3 : Nat) ≤ 5 := by decide
  have single : mask "%env(x)%".toList = "%env(x)%".toList := by decide
  have opened : Open "%env(x)%".toList := by decide
  have exceeded := (substitute_limit reopeningResolver renderPlain le "%env(x)%").2.2 3
    (by simp [reopeningResolver])
  have ended := (substitute_limit reopeningResolver renderPlain le "a=%env(a)%").1
  have done := substitute_unnested 2
  refine ⟨le, exceeded.mpr ⟨rfl, _, ?_, opened⟩, ?_, ?_⟩
  · rw [single]
    exact rewritings_reopened 3
  · rw [ended (by simp [done]), done]
  · refine ((substitute_limit _ renderPlain le "%env(x)%").2.1 1).mpr (Or.inl ?_)
    rw [single]
    exact ⟨0, _, by decide, .none _, rfl⟩

end EnvTemplate.Template
