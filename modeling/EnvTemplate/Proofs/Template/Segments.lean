import EnvTemplate.Proofs.Template.Mask
import EnvTemplate.Proofs.Template.Pass
/-! Rows of literals and placeholders in one another's neighbourhood, with every percent sign of a
literal doubled. Substitution gives the literals and the rendered values in order, if and only if no
placeholder has a percent sign right behind it: such a sign is masked together with the one that
closes the placeholder. -/
namespace EnvTemplate.Template
open Placeholder (Piece opening closing flatHeap? pieces)

inductive Segment
  | literal (text : List Char)
  | placeholder (heap : List Char)
deriving DecidableEq

namespace Segment

def written : Segment → List Char
  | .literal text => doubled text
  | .placeholder heap => Placeholder.written heap

/-- Literals hold no part of a mask, and heaps no part of a delimiter either. -/
def Readable : Segment → Prop
  | .literal text => '\x00' ∉ text
  | .placeholder heap => Plain heap

/-- Whether no placeholder of a row has a percent sign right behind it. -/
def Apart : List Segment → Prop
  | [] => True
  | .literal _ :: rest => Apart rest
  | .placeholder _ :: rest => (rest.flatMap written).head? ≠ some '%' ∧ Apart rest

variable (resolve : Resolver) (render : Renderer)

def Resolves : Segment → Prop
  | .literal _ => True
  | .placeholder heap => Renders resolve render heap

def value : Segment → List Char
  | .literal text => text
  | .placeholder heap => rendered resolve render heap

def masked : Segment → List Char
  | .literal text => marked text
  | .placeholder heap => Placeholder.written heap

def cut : Segment → List Piece
  | .literal text => (marked text).map .char
  | .placeholder heap => [.placeholder heap]

/-- The segment in a masked text after a pass. -/
def filled : Segment → List Char
  | .literal text => marked text
  | .placeholder heap => rendered resolve render heap

theorem mask_written {segments : List Segment} (apart : Apart segments)
    (readable : ∀ s ∈ segments, s.Readable) :
    mask (segments.flatMap written) = segments.flatMap masked := by
  induction segments with
  | nil => rfl
  | cons s rest ih =>
    have readableRest := fun t member => readable t (List.mem_cons_of_mem s member)
    rw [List.flatMap_cons, List.flatMap_cons]
    cases s with
    | literal text => rw [written, masked, mask_doubled_append, ih apart readableRest]
    | placeholder heap =>
      have plain : Plain heap := readable _ List.mem_cons_self
      rw [written, masked, mask_placeholder_append plain.1 apart.1, ih apart.2 readableRest]

theorem pieces_masked {segments : List Segment} (readable : ∀ s ∈ segments, s.Readable) :
    pieces (segments.flatMap masked) = segments.flatMap cut := by
  induction segments with
  | nil => rfl
  | cons s rest ih =>
    have tail := ih fun t member => readable t (List.mem_cons_of_mem s member)
    rw [List.flatMap_cons, List.flatMap_cons]
    cases s with
    | literal text =>
      rw [masked, Placeholder.pieces_append_of_notMem (percent_notMem_marked text), tail, cut]
    | placeholder heap =>
      have plain : Plain heap := readable _ List.mem_cons_self
      rw [masked, Placeholder.pieces_written_append (Placeholder.flatHeap?_heap plain.1 _), tail]
      rfl

theorem fill_cut {segments : List Segment} (resolves : ∀ s ∈ segments, s.Resolves resolve render) :
    fill resolve render (segments.flatMap cut) = .ok (segments.flatMap (filled resolve render)) := by
  induction segments with
  | nil => rfl
  | cons s rest ih =>
    have tail := ih fun t member => resolves t (List.mem_cons_of_mem s member)
    rw [List.flatMap_cons, List.flatMap_cons]
    cases s with
    | literal text => rw [cut, fill_append, tail, Except.bind, fill_map_char, Except.map, filled]
    | placeholder heap =>
      have renders : Renders resolve render heap := resolves _ List.mem_cons_self
      rw [cut, List.singleton_append, renders.fill_placeholder, tail, Except.map, filled]

variable {resolve render}

theorem percent_notMem_filled {segments : List Segment}
    (resolves : ∀ s ∈ segments, s.Resolves resolve render) :
    '%' ∉ segments.flatMap (filled resolve render) := by
  intro found
  obtain ⟨s, member, found⟩ := List.mem_flatMap.mp found
  cases s with
  | literal text => exact percent_notMem_marked text found
  | placeholder heap => exact (resolves _ member).plain.1 found

theorem unmask_filled {segments : List Segment} (readable : ∀ s ∈ segments, s.Readable)
    (resolves : ∀ s ∈ segments, s.Resolves resolve render) :
    unmask (segments.flatMap (filled resolve render)) = segments.flatMap (value resolve render) := by
  induction segments with
  | nil => rfl
  | cons s rest ih =>
    have tail := ih (fun t member => readable t (List.mem_cons_of_mem s member))
      (fun t member => resolves t (List.mem_cons_of_mem s member))
    rw [List.flatMap_cons, List.flatMap_cons]
    cases s with
    | literal text =>
      have plain : '\x00' ∉ text := readable _ List.mem_cons_self
      rw [filled, value, unmask_marked_append plain, tail]
    | placeholder heap =>
      have plain := Renders.plain (resolves _ List.mem_cons_self)
      rw [filled, value, unmask_append_of_notMem plain.2, tail]

theorem substitute_of_apart {segments : List Segment} {limit : Nat} (apart : Apart segments)
    (readable : ∀ s ∈ segments, s.Readable) (positive : 1 ≤ limit)
    (resolves : ∀ s ∈ segments, s.Resolves resolve render) :
    substitute resolve render limit (String.ofList (segments.flatMap written)) =
      .ok (String.ofList (segments.flatMap (value resolve render))) := by
  obtain ⟨allowed, rfl⟩ : ∃ allowed, limit = allowed + 1 := ⟨limit - 1, by omega⟩
  have bare : ∀ heap, .placeholder heap ∉ pieces (segments.flatMap (filled resolve render)) := by
    rw [Placeholder.pieces_of_notMem (percent_notMem_filled resolves)]
    simp
  have pass : fill resolve render (pieces (segments.flatMap masked)) =
      .ok (segments.flatMap (filled resolve render)) := by
    rw [pieces_masked readable, fill_cut resolve render resolves]
  rw [substitute, String.toList_ofList, mask_written apart readable,
    passes_of_fill resolve render _ allowed pass bare, Except.map, unmask_filled readable resolves]

/-! ### Percent signs right behind a placeholder -/

def isPlaceholder : Segment → Bool
  | .literal _ => false
  | .placeholder _ => true

theorem leaves_written {segments : List Segment} (readable : ∀ s ∈ segments, s.Readable) :
    Leaves (2 * segments.countP isPlaceholder) (segments.flatMap written) := by
  induction segments with
  | nil => exact leaves_nil
  | cons s rest ih =>
    have tail := ih fun t member => readable t (List.mem_cons_of_mem s member)
    rw [List.countP_cons, List.flatMap_cons]
    cases s with
    | literal text => exact tail.append_doubled text
    | placeholder heap =>
      have plain : Plain heap := readable _ List.mem_cons_self
      exact tail.append_placeholder plain.1

/-- The first placeholder with a percent sign right behind it stays open. What closes it later has
the mask in its heap. -/
theorem open_or_masked {segments : List Segment} (readable : ∀ s ∈ segments, s.Readable)
    (shadowed : ¬ Apart segments) :
    .char '%' ∈ pieces (mask (segments.flatMap written)) ∨
      ∃ heap, '\x00' ∈ heap ∧ .placeholder heap ∈ pieces (mask (segments.flatMap written)) := by
  induction segments with
  | nil => exact absurd trivial shadowed
  | cons s rest ih =>
    have readableRest := fun t member => readable t (List.mem_cons_of_mem s member)
    rw [List.flatMap_cons]
    cases s with
    | literal text =>
      rw [written, mask_doubled_append,
        Placeholder.pieces_append_of_notMem (percent_notMem_marked text)]
      rcases ih readableRest shadowed with found | ⟨heap, nul, found⟩
      · exact Or.inl (List.mem_append_right _ found)
      · exact Or.inr ⟨heap, nul, List.mem_append_right _ found⟩
    | placeholder heap =>
      have plain : Plain heap := readable _ List.mem_cons_self
      rw [written]
      by_cases percent : (rest.flatMap written).head? = some '%'
      · obtain ⟨tail, whole⟩ := List.head?_eq_some_iff.mp percent
        rw [whole, mask_placeholder_percent plain.1]
        have inside : '%' ∉ heap ++ [')'] ++ marker := by
          have none : '%' ∉ marker := by decide
          simpa [none] using plain.1
        have last : (heap ++ [')'] ++ marker).getLast? ≠ some ')' := by
          rw [List.getLast?_append_of_ne_nil _ (by decide)]
          decide
        have read := Placeholder.flatHeap?_append inside fun _ : (mask tail).head? = some '%' => last
        cases closed : flatHeap? (mask tail) with
        | none =>
          rw [closed, Option.map_none] at read
          rw [Placeholder.pieces_opening_append read]
          exact Or.inl (by simp [Placeholder.opening_eq])
        | some inner =>
          rw [closed, Option.map_some] at read
          refine Or.inr ⟨_, ?_, Placeholder.placeholder_mem_pieces_opening_append read⟩
          obtain ⟨marks, eq⟩ := marker_eq
          simp [eq]
      · have tail := ih readableRest fun apart => shadowed ⟨percent, apart⟩
        rw [mask_placeholder_append plain.1 percent,
          Placeholder.pieces_written_append (Placeholder.flatHeap?_heap plain.1 _)]
        rcases tail with found | ⟨inner, nul, found⟩
        · exact Or.inl (List.mem_cons_of_mem _ found)
        · exact Or.inr ⟨inner, nul, List.mem_cons_of_mem _ found⟩

/-- Gives every heap without a mask a value of the same length. -/
def steadyResolver (length : Nat) : Resolver := fun heap =>
  if '\x00' ∈ heap.toList then emptyResolver heap
  else .ok (.string (String.ofList (List.replicate length 'x')))

theorem steadyResolver_resolves {s : Segment} (readable : s.Readable) (length : Nat) :
    s.Resolves (steadyResolver length) renderPlain := by
  cases s with
  | literal text => trivial
  | placeholder heap =>
    refine ⟨.string (String.ofList (List.replicate length 'x')), ?_, ?_⟩
    · rw [steadyResolver, String.toList_ofList, if_neg readable.2]
    · simp [renderPlain, Plain, List.mem_replicate]

theorem steadyResolver_length {length : Nat} {heap : String} {v : Value}
    (value : steadyResolver length heap = .ok v) : (renderPlain v).toList.length ≤ length := by
  rw [steadyResolver] at value
  split at value
  · contradiction
  · obtain rfl := Except.ok.inj value
    simp [renderPlain]

theorem countP_mul_le_length_value {segments : List Segment}
    (readable : ∀ s ∈ segments, s.Readable) (length : Nat) :
    segments.countP isPlaceholder * length ≤
      (segments.flatMap (value (steadyResolver length) renderPlain)).length := by
  induction segments with
  | nil => simp
  | cons s rest ih =>
    have tail := ih fun t member => readable t (List.mem_cons_of_mem s member)
    rw [List.countP_cons, List.flatMap_cons, List.length_append]
    cases s with
    | literal text =>
      simp only [isPlaceholder, Bool.false_eq_true, if_false, Nat.add_zero]
      omega
    | placeholder heap =>
      have plain : Plain heap := readable _ List.mem_cons_self
      have written : (rendered (steadyResolver length) renderPlain heap).length = length := by
        simp [rendered, steadyResolver, plain.2, renderPlain]
      simp only [isPlaceholder, value, written, if_true, Nat.add_mul, Nat.one_mul]
      omega

/-- Values that are longer than the whole text show that a placeholder has been left out. -/
theorem substitute_of_shadowed {segments : List Segment} (readable : ∀ s ∈ segments, s.Readable)
    (shadowed : ¬ Apart segments) : ∃ resolve,
      (∀ s ∈ segments, s.Resolves resolve renderPlain) ∧
        substitute resolve renderPlain 1 (String.ofList (segments.flatMap written)) ≠
          .ok (String.ofList (segments.flatMap (value resolve renderPlain))) := by
  obtain ⟨text, masked⟩ : ∃ text, mask (segments.flatMap written) = text := ⟨_, rfl⟩
  obtain ⟨length, longer⟩ : ∃ length, length = text.length + 1 := ⟨_, rfl⟩
  refine ⟨steadyResolver length, fun s member => steadyResolver_resolves (readable s member) length,
    fun done => ?_⟩
  rw [substitute, String.toList_ofList, masked] at done
  cases passed : passes (steadyResolver length) renderPlain 1 1 text with
  | error error =>
    rw [passed, Except.map] at done
    contradiction
  | ok out =>
    rw [passed, Except.map] at done
    have same := congrArg String.toList (Except.ok.inj done)
    rw [String.toList_ofList, String.toList_ofList] at same
    have filled := fill_of_passes_one _ _ _ passed
    rcases open_or_masked readable shadowed with opened | ⟨heap, nul, found⟩
    · -- a percent sign is left over, so fewer placeholders are read than were written
      have fewer := Placeholder.two_mul_countP_le (pieces text)
      have some := List.count_pos_iff.mpr opened
      have bound := (leaves_written readable).1
      rw [masked] at some bound
      have long := countP_mul_le_length_value readable length
      have short := length_le_of_fill _ _ (fun _ _ => steadyResolver_length) filled
      have shrunk := length_unmask_le out
      rw [Placeholder.flatMap_text_pieces] at fewer short
      rw [← same] at long
      have missing : (pieces text).countP Piece.isPlaceholder + 1 ≤
          segments.countP isPlaceholder := by omega
      have total := Nat.mul_le_mul_right length missing
      rw [Nat.succ_mul] at total
      omega
    · -- a mask is in a heap, which this resolver refuses
      rw [masked] at found
      have unresolved : steadyResolver length (String.ofList heap) =
          emptyResolver (String.ofList heap) := by
        rw [steadyResolver, String.toList_ofList, if_pos nul]
      obtain ⟨error, failed⟩ := fill_of_unresolved _ renderPlain found unresolved
      rw [failed] at filled
      contradiction

end Segment

/-- The rows that substitution reads as they are written are those in which no placeholder has a
percent sign right behind it. -/
theorem substitute_segments_iff {segments : List Segment}
    (readable : ∀ s ∈ segments, s.Readable) :
    Segment.Apart segments ↔ ∀ (resolve : Resolver) (render : Renderer) (limit : Nat), 1 ≤ limit →
      (∀ s ∈ segments, s.Resolves resolve render) →
        substitute resolve render limit (String.ofList (segments.flatMap Segment.written)) =
          .ok (String.ofList (segments.flatMap (Segment.value resolve render))) := by
  constructor
  · intro apart resolve render limit positive resolves
    exact Segment.substitute_of_apart apart readable positive resolves
  · intro faithful
    by_contra shadowed
    obtain ⟨resolve, resolves, differs⟩ := Segment.substitute_of_shadowed readable shadowed
    exact differs (faithful resolve renderPlain 1 (Nat.le_refl 1) resolves)

def Segment.pairResolver : Resolver := fun heap =>
  match heap.toList with
  | ['A'] => .ok (.string "1")
  | ['B'] => .ok (.string "2")
  | _ => emptyResolver heap

theorem Segment.pairResolver_renders : Renders pairResolver renderPlain ['A'] ∧
    Renders pairResolver renderPlain ['B'] :=
  ⟨⟨.string "1", by simp [pairResolver], by simp [renderPlain, Plain]⟩,
    ⟨.string "2", by simp [pairResolver], by simp [renderPlain, Plain]⟩⟩

/-- Percent signs before placeholders, and a closing and an opening that are none. -/
def Segment.borders : List Segment :=
  [.literal ['5', '%'], .placeholder ['A'], .literal "env()%".toList, .placeholder ['B']]

theorem substitute_borders :
    (∀ s ∈ Segment.borders, s.Readable) ∧ Segment.Apart Segment.borders ∧
      (∀ s ∈ Segment.borders, s.Resolves Segment.pairResolver renderPlain) ∧
      substitute Segment.pairResolver renderPlain 1 "5%%%env(A)%env()%%%env(B)%" = .ok "5%1env()%2" := by
  have readable : ∀ s ∈ Segment.borders, s.Readable := by
    simp [Segment.borders, Segment.Readable, Plain]
  have apart : Segment.Apart Segment.borders := by
    simp [Segment.borders, Segment.Apart, Segment.written, doubled]
  obtain ⟨first, second⟩ := Segment.pairResolver_renders
  have resolves : ∀ s ∈ Segment.borders, s.Resolves Segment.pairResolver renderPlain := by
    simp [Segment.borders, Segment.Resolves, first, second]
  have written : Segment.borders.flatMap Segment.written = "5%%%env(A)%env()%%%env(B)%".toList := by
    decide
  have value : Segment.borders.flatMap (Segment.value Segment.pairResolver renderPlain) =
      "5%1env()%2".toList := by
    simp [Segment.borders, Segment.value, rendered, Segment.pairResolver, renderPlain]
  have done := (substitute_segments_iff readable).mp apart Segment.pairResolver renderPlain 1
    (Nat.le_refl 1) resolves
  rw [written, value, String.ofList_toList, String.ofList_toList] at done
  exact ⟨readable, apart, resolves, done⟩

def Segment.adjacent : List Segment :=
  [.placeholder ['A'], .placeholder ['B']]

/-- Of two placeholders that stand next to each other neither is replaced. -/
theorem substitute_adjacent :
    (∀ s ∈ Segment.adjacent, s.Readable) ∧
      (∀ s ∈ Segment.adjacent, s.Resolves Segment.pairResolver renderPlain) ∧
      substitute Segment.pairResolver renderPlain 1
          (String.ofList (Segment.adjacent.flatMap Segment.written)) ≠
        .ok (String.ofList
          (Segment.adjacent.flatMap (Segment.value Segment.pairResolver renderPlain))) := by
  obtain ⟨first, second⟩ := Segment.pairResolver_renders
  refine ⟨by simp [Segment.adjacent, Segment.Readable, Plain],
    by simp [Segment.adjacent, Segment.Resolves, first, second], ?_⟩
  have found : Placeholder.innermost (mask (Segment.adjacent.flatMap Segment.written)) =
      [⟨0, 35, "A)\x00__ESCAPED_PERCENT__\x00env(B"⟩] := by decide
  simp only [substitute, String.toList_ofList, passes, found, replacePass, List.foldrM_cons,
    List.foldrM_nil]
  simp [Segment.pairResolver, emptyResolver, Except.map]

end EnvTemplate.Template
