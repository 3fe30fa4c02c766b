import EnvTemplate.Proofs.Placeholder.Pieces
import EnvTemplate.Substitute
/-! A pass over a text replaces all its innermost placeholders at once: splicing them from right to
left gives the pieces of the text with each placeholder exchanged for its rendered value. -/
namespace EnvTemplate.Template
open Placeholder

def emptyResolver : Resolver := fun heap =>
  .error (.reported (.undefinedReference .environmentVariable heap heap))

variable (resolve : Resolver) (render : Renderer)

/-- The text of pieces with every placeholder exchanged for its rendered value. Of several failures
the rightmost is the one that counts. -/
def fill : List Piece → Except Failure (List Char)
  | [] => .ok []
  | .char c :: rest => (fill rest).map (c :: ·)
  | .placeholder heap :: rest =>
    (fill rest).bind fun out =>
      (resolve (String.ofList heap)).map fun v => (render v).toList ++ out

attribute [local simp] fill passes

/-- The places of the pieces stay valid while what stands to their right is exchanged. -/
theorem replacePass_spansFrom (front : List Char) (ps : List Piece) :
    replacePass resolve render (front ++ ps.flatMap Piece.text) (spansFrom front.length ps) =
      (fill resolve render ps).map (front ++ ·) := by
  induction ps generalizing front with
  | nil => simp [replacePass, spansFrom, pure, Except.pure, Except.map]
  | cons p ps ih =>
    cases p with
    | char c =>
      have moved := ih (front ++ [c])
      simp only [List.length_append, List.length_singleton, List.append_assoc] at moved
      rw [spansFrom, List.flatMap_cons, Piece.text, moved, fill]
      cases fill resolve render ps <;> rfl
    | placeholder heap =>
      have moved := ih (front ++ written heap)
      simp only [List.length_append, List.append_assoc] at moved
      rw [replacePass] at moved
      rw [spansFrom, List.flatMap_cons, Piece.text, replacePass, List.foldrM_cons, moved, fill]
      cases fill resolve render ps with
      | error failure => rfl
      | ok out =>
        cases resolve (String.ofList heap) with
        | error failure => simp [Except.map, Except.bind, bind]
        | ok v => simp [Except.map, Except.bind, bind, splice]

theorem replacePass_innermost (text : List Char) :
    replacePass resolve render text (innermost text) = fill resolve render (pieces text) := by
  have whole := replacePass_spansFrom resolve render [] (pieces text)
  rw [flatMap_text_pieces] at whole
  rw [innermost_eq_spansFrom]
  refine whole.trans ?_
  cases fill resolve render (pieces text) <;> rfl

theorem fill_append (ps qs : List Piece) :
    fill resolve render (ps ++ qs) = (fill resolve render qs).bind fun out =>
      (fill resolve render ps).map (· ++ out) := by
  induction ps with
  | nil =>
    rw [List.nil_append, fill]
    cases fill resolve render qs <;> rfl
  | cons p ps ih =>
    cases p with
    | char c =>
      rw [List.cons_append, fill, ih, fill]
      cases fill resolve render qs <;> cases fill resolve render ps <;> rfl
    | placeholder heap =>
      rw [List.cons_append, fill, ih, fill]
      cases fill resolve render qs <;> cases fill resolve render ps <;>
        cases resolve (String.ofList heap) <;> simp [Except.map, Except.bind]

theorem fill_map_char (text : List Char) : fill resolve render (text.map .char) = .ok text := by
  induction text with
  | nil => rfl
  | cons c text ih => rw [List.map_cons, fill, ih, Except.map]

theorem fill_of_bare {ps : List Piece} (bare : ∀ heap, .placeholder heap ∉ ps) :
    fill resolve render ps = .ok (ps.flatMap Piece.text) := by
  induction ps with
  | nil => rfl
  | cons p ps ih =>
    have rest := ih fun heap found => bare heap (List.mem_cons_of_mem _ found)
    cases p with
    | char c => rw [fill, rest, Except.map]; rfl
    | placeholder heap => exact absurd List.mem_cons_self (bare heap)

theorem fill_of_unresolved {ps : List Piece} {heap : List Char} {failure : Failure}
    (found : .placeholder heap ∈ ps) (unresolved : resolve (String.ofList heap) = .error failure) :
    ∃ failure, fill resolve render ps = .error failure := by
  induction ps with
  | nil => exact absurd found List.not_mem_nil
  | cons p ps ih =>
    cases rest : fill resolve render ps with
    | error failure =>
      cases p with
      | char c => exact ⟨failure, by rw [fill, rest, Except.map]⟩
      | placeholder other => exact ⟨failure, by rw [fill, rest, Except.bind]⟩
    | ok out =>
      rcases List.mem_cons.mp found with rfl | found
      · exact ⟨failure, by rw [fill, rest, Except.bind, unresolved, Except.map]⟩
      · obtain ⟨failure, failed⟩ := ih found
        rw [rest] at failed
        contradiction

theorem exists_of_fill_error {ps : List Piece} {failure : Failure}
    (failed : fill resolve render ps = .error failure) :
    ∃ heap, .placeholder heap ∈ ps ∧ resolve (String.ofList heap) = .error failure := by
  induction ps with
  | nil => contradiction
  | cons p ps ih =>
    cases rest : fill resolve render ps with
    | error inner =>
      have same : fill resolve render ps = .error failure := by
        cases p <;> simpa [rest, Except.map, Except.bind] using failed
      obtain ⟨heap, found, unresolved⟩ := ih same
      exact ⟨heap, List.mem_cons_of_mem p found, unresolved⟩
    | ok out =>
      cases p with
      | char c => simp [rest, Except.map] at failed
      | placeholder heap =>
        refine ⟨heap, List.mem_cons_self, ?_⟩
        cases value : resolve (String.ofList heap) with
        | error inner => simpa [rest, value, Except.map, Except.bind] using failed
        | ok v => simp [rest, value, Except.map, Except.bind] at failed

theorem fill_char_eq_ok_iff {c : Char} {ps : List Piece} {out : List Char} :
    fill resolve render (.char c :: ps) = .ok out ↔
      ∃ back, fill resolve render ps = .ok back ∧ out = c :: back := by
  rw [fill]
  cases fill resolve render ps <;> simp [Except.map, eq_comm]

theorem fill_placeholder_eq_ok_iff {heap : List Char} {ps : List Piece} {out : List Char} :
    fill resolve render (.placeholder heap :: ps) = .ok out ↔
      ∃ back v, fill resolve render ps = .ok back ∧ resolve (String.ofList heap) = .ok v ∧
        out = (render v).toList ++ back := by
  rw [fill]
  cases fill resolve render ps with
  | error failure => simp [Except.bind]
  | ok back => cases resolve (String.ofList heap) <;> simp [Except.bind, Except.map, eq_comm]

theorem length_le_of_fill {bound : Nat} {ps : List Piece} {out : List Char}
    (bounded : ∀ heap v, resolve heap = .ok v → (render v).toList.length ≤ bound)
    (filled : fill resolve render ps = .ok out) :
    out.length ≤ ps.countP Piece.isPlaceholder * bound + (ps.flatMap Piece.text).length := by
  induction ps generalizing out with
  | nil =>
    obtain rfl := Except.ok.inj filled
    simp
  | cons p ps ih =>
    rw [List.countP_cons, List.flatMap_cons, List.length_append]
    cases p with
    | char c =>
      obtain ⟨back, rest, rfl⟩ := (fill_char_eq_ok_iff resolve render).mp filled
      have shorter := ih rest
      simp only [Piece.isPlaceholder, Piece.text, List.length_cons, List.length_nil,
        Bool.false_eq_true, if_false, Nat.add_zero]
      omega
    | placeholder heap =>
      obtain ⟨back, v, rest, value, rfl⟩ := (fill_placeholder_eq_ok_iff resolve render).mp filled
      have shorter := ih rest
      have fits := bounded _ v value
      simp only [Piece.isPlaceholder, List.length_append, if_true, Nat.add_mul, Nat.one_mul]
      omega

/-- Texts that neither open nor close a placeholder and hold no part of a mask. -/
def Plain (text : List Char) : Prop :=
  '%' ∉ text ∧ '\x00' ∉ text

/-- A heap has a value, and it is written as a plain text. -/
def Renders (heap : List Char) : Prop :=
  ∃ v, resolve (String.ofList heap) = .ok v ∧ Plain (render v).toList

/-- What is written for a heap: nothing if it has no value. -/
def rendered (heap : List Char) : List Char :=
  match resolve (String.ofList heap) with
  | .ok v => (render v).toList
  | .error _ => []

variable {resolve render} in
theorem Renders.plain {heap : List Char} (renders : Renders resolve render heap) :
    Plain (rendered resolve render heap) := by
  obtain ⟨v, value, plain⟩ := renders
  simpa only [rendered, value] using plain

variable {resolve render} in
theorem Renders.fill_placeholder {heap : List Char} (renders : Renders resolve render heap)
    (ps : List Piece) :
    fill resolve render (.placeholder heap :: ps) =
      (fill resolve render ps).map (rendered resolve render heap ++ ·) := by
  obtain ⟨v, value, _⟩ := renders
  rw [fill, rendered, value]
  cases fill resolve render ps <;> rfl

variable (limit : Nat)

theorem spansFrom_eq_nil_iff {position : Nat} {ps : List Piece} :
    spansFrom position ps = [] ↔ ∀ heap, .placeholder heap ∉ ps := by
  induction ps generalizing position with
  | nil => simp [spansFrom]
  | cons p ps ih =>
    cases p with
    | char c => simp [spansFrom, ih]
    | placeholder heap =>
      simp only [spansFrom, reduceCtorEq, false_iff]
      exact fun absent => absent heap List.mem_cons_self

/-! ### Passes in terms of pieces -/

theorem passes_of_bare (allowed : Nat) {text : List Char}
    (bare : ∀ heap, .placeholder heap ∉ pieces text) :
    passes resolve render limit allowed text = .ok text := by
  have none : innermost text = [] := by
    rw [innermost_eq_spansFrom, spansFrom_eq_nil_iff.mpr bare]
  cases allowed <;> simp only [passes, none, List.isEmpty_nil, if_true]

theorem passes_zero {heap text : List Char} (found : .placeholder heap ∈ pieces text) :
    passes resolve render limit 0 text = .error (.reported (.nestingDepthExceeded limit)) := by
  have some : spansFrom 0 (pieces text) ≠ [] := fun none => spansFrom_eq_nil_iff.mp none heap found
  rw [passes.eq_1, innermost_eq_spansFrom, if_neg (by simpa using some)]

theorem passes_succ (allowed : Nat) {heap text : List Char}
    (found : .placeholder heap ∈ pieces text) :
    passes resolve render limit (allowed + 1) text =
      (fill resolve render (pieces text)).bind (passes resolve render limit allowed) := by
  have some : spansFrom 0 (pieces text) ≠ [] := fun none => spansFrom_eq_nil_iff.mp none heap found
  rw [passes.eq_2, replacePass_innermost, innermost_eq_spansFrom, if_neg (by simpa using some)]
  cases fill resolve render (pieces text) <;> rfl

/-- A pass whose result holds no placeholder is the last one, also where it finds nothing to replace. -/
theorem passes_of_fill (allowed : Nat) {text next : List Char}
    (filled : fill resolve render (pieces text) = .ok next)
    (bare : ∀ heap, .placeholder heap ∉ pieces next) :
    passes resolve render limit (allowed + 1) text = .ok next := by
  by_cases found : ∃ heap, .placeholder heap ∈ pieces text
  · obtain ⟨heap, found⟩ := found
    rw [passes_succ resolve render limit allowed found, filled]
    exact passes_of_bare resolve render limit allowed bare
  · have none := not_exists.mp found
    rw [fill_of_bare resolve render none, flatMap_text_pieces] at filled
    obtain rfl := Except.ok.inj filled
    exact passes_of_bare resolve render limit (allowed + 1) none

/-- Within a limit of one, the result is what a single pass gives. -/
theorem fill_of_passes_one {text out : List Char}
    (done : passes resolve render limit 1 text = .ok out) :
    fill resolve render (pieces text) = .ok out := by
  by_cases found : ∃ heap, .placeholder heap ∈ pieces text
  · obtain ⟨heap, found⟩ := found
    rw [passes_succ resolve render limit 0 found] at done
    cases filled : fill resolve render (pieces text) with
    | error failure => simp [filled, Except.bind] at done
    | ok next =>
      rw [filled, Except.bind] at done
      by_cases left : ∃ heap, .placeholder heap ∈ pieces next
      · obtain ⟨heap, left⟩ := left
        rw [passes_zero resolve render limit left] at done
        contradiction
      · rw [passes_of_bare resolve render limit 0 (not_exists.mp left)] at done
        rw [Except.ok.inj done]
  · have none := not_exists.mp found
    rw [passes_of_bare resolve render limit 1 none] at done
    rw [fill_of_bare resolve render none, flatMap_text_pieces, Except.ok.inj done]

end EnvTemplate.Template
