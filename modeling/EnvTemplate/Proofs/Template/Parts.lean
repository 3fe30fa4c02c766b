import EnvTemplate.Proofs.Template.Limit
import EnvTemplate.Proofs.Template.Unmarked
import Mathlib.Logic.Relation
/-! Substitution without a marker. A text is cut at its doubled percent signs, every pass rewrites the
parts by themselves, and single percent signs join them in the end. As long as no placeholder runs
across a mark, and the parts do not hold the name inside the marker, substitution gives the same. -/
namespace EnvTemplate.Template
open Placeholder Relation

/-- The parts of a text between its doubled percent signs. -/
def escapeParts : List Char → List (List Char)
  | '%' :: '%' :: rest => [] :: escapeParts rest
  | c :: rest => (escapeParts rest).modifyHead (c :: ·)
  | [] => [[]]

section
variable (resolve : Resolver) (render : Renderer)

/-- Fills the placeholders of every part by itself. Of several failures the rightmost is the one that
counts. -/
def fillParts : List (List Char) → Except Failure (List (List Char))
  | [] => .ok []
  | part :: rest =>
    (fillParts rest).bind fun done => (fill resolve render (pieces part)).map (· :: done)

def Pass (parts later : List (List Char)) : Prop :=
  fillParts resolve render parts = .ok later

/-- Passes over parts until none of them holds a placeholder, as many as are allowed. -/
def partPasses (limit : Nat) :
    (allowed : Nat) → List (List Char) → Except Failure (List (List Char))
  | allowed, parts =>
    if ∃ part ∈ parts, Open part then
      match allowed with
      | 0 => .error (.reported (.nestingDepthExceeded limit))
      | allowed + 1 =>
        match fillParts resolve render parts with
        | .error failure => .error failure
        | .ok later => partPasses limit allowed later
    else .ok parts

def substituteParts (limit : Nat) (text : String) : Except Failure String :=
  (partPasses resolve render limit limit (escapeParts text.toList)).map fun parts =>
    String.ofList (List.intercalate ['%'] parts)

end

/-- No placeholder of the parts with marks between them holds a mark. -/
def MarksOutside (parts : List (List Char)) : Prop :=
  ∀ heap, .placeholder heap ∈ pieces (List.intercalate marker parts) → ¬ marker <:+: heap

/-! ### The parts of a text -/

theorem escapeParts_ne_nil (text : List Char) : escapeParts text ≠ [] := by
  fun_induction escapeParts text with
  | case1 => simp
  | case2 c rest _ ih => simpa [List.modifyHead_eq_nil_iff] using ih
  | case3 => simp

theorem intercalate_modifyHead {separator : List Char} {parts : List (List Char)} (c : Char)
    (nonempty : parts ≠ []) :
    List.intercalate separator (parts.modifyHead (c :: ·)) =
      c :: List.intercalate separator parts := by
  obtain ⟨part, rest, rfl⟩ := List.exists_cons_of_ne_nil nonempty
  cases rest with
  | nil => rfl
  | cons next rest => simp [List.intercalate_cons_cons]

theorem intercalate_nil_cons {separator : List Char} {parts : List (List Char)}
    (nonempty : parts ≠ []) :
    List.intercalate separator ([] :: parts) = separator ++ List.intercalate separator parts := by
  obtain ⟨part, rest, rfl⟩ := List.exists_cons_of_ne_nil nonempty
  rw [List.intercalate_cons_cons, List.nil_append]

theorem intercalate_escapeParts (text : List Char) :
    List.intercalate ['%', '%'] (escapeParts text) = text := by
  fun_induction escapeParts text with
  | case1 rest ih => rw [intercalate_nil_cons (escapeParts_ne_nil rest), ih]; rfl
  | case2 c rest _ ih => rw [intercalate_modifyHead c (escapeParts_ne_nil rest), ih]
  | case3 => rfl

theorem mask_eq_intercalate (text : List Char) :
    mask text = List.intercalate marker (escapeParts text) := by
  fun_induction escapeParts text with
  | case1 rest ih => rw [mask_pair_append, ih, intercalate_nil_cons (escapeParts_ne_nil rest)]
  | case2 c rest single ih =>
    have kept : mask (c :: rest) = c :: mask rest := by
      apply Text.replaceAll_cons
      rintro ⟨tail, same⟩
      obtain ⟨rfl, rfl⟩ := List.cons.inj same
      exact single tail rfl rfl
    rw [kept, ih, intercalate_modifyHead c (escapeParts_ne_nil rest)]
  | case3 => rfl

theorem unmarked_of_mem_escapeParts {text part : List Char} (unmarked : Unmarked text)
    (member : part ∈ escapeParts text) : Unmarked part := by
  have inside : part <:+: List.intercalate ['%', '%'] (escapeParts text) :=
    Text.infix_intercalate_of_mem member
  rw [intercalate_escapeParts] at inside
  exact unmarked.of_part inside

/-! ### Placeholders beside a mark -/

theorem marker_infix_written_iff {heap : List Char} :
    marker <:+: written heap ↔ marker <:+: heap := by
  have shape : written heap = ['%', 'e', 'n', 'v'] ++ '(' :: (heap ++ ')' :: ['%']) := by
    simp [written, opening_eq, closing_eq]
  rw [shape, Text.infix_append_cons_iff (by decide), Text.infix_append_cons_iff (by decide),
    or_iff_right (by decide), or_iff_left (by decide)]

/-- A placeholder that is read where a mark follows stands before this mark, or holds it. -/
theorem flatHeapAtFront?_append_marker {front rest heap : List Char}
    (read : flatHeapAtFront? (front ++ (marker ++ rest)) = some heap) :
    flatHeapAtFront? front = some heap ∨ marker <:+: heap := by
  obtain ⟨⟨tail, whole⟩, apart⟩ := flatHeapAtFront?_eq_some_iff.mp read
  obtain ⟨across, shape, runs⟩ | ⟨behind, rfl, _⟩ := List.append_eq_append_iff.mp whole
  · obtain rfl | ⟨init, last, rfl⟩ := List.eq_nil_or_concat' across
    · rw [List.append_nil] at shape
      exact Or.inl (flatHeapAtFront?_eq_some_iff.mpr ⟨⟨[], by simp [shape]⟩, apart⟩)
    · -- the percent sign that closes the placeholder stands behind the whole mark
      obtain rfl : last = '%' := by
        have ends := congrArg List.getLast? shape
        simpa [written, closing_eq, eq_comm] using ends
      have ahead : marker <+: init ++ '%' :: tail := ⟨rest, runs.trans (by simp)⟩
      have inside : marker <+: init := (Text.prefix_append_cons_iff (by decide)).mp ahead
      refine Or.inr (marker_infix_written_iff.mp ?_)
      rw [shape]
      exact (inside.trans (List.prefix_append _ _)).isInfix.trans (List.suffix_append _ _).isInfix
  · exact Or.inl (flatHeapAtFront?_eq_some_iff.mpr ⟨⟨behind, rfl⟩, apart⟩)

theorem pieces_append_marker {front rest : List Char}
    (outside : ∀ heap, .placeholder heap ∈ pieces (front ++ (marker ++ rest)) →
      ¬ marker <:+: heap) :
    pieces (front ++ (marker ++ rest)) = pieces front ++ (marker.map .char ++ pieces rest) := by
  -- a placeholder of the longer text is one of the front, since it would hold the mark otherwise
  induction front using reading_induction with
  | nil => exact pieces_append_of_notMem (by decide) rest
  | char c front unread ih =>
    have unreadable : flatHeapAtFront? (c :: (front ++ (marker ++ rest))) = none := by
      by_contra found
      obtain ⟨heap, read⟩ := Option.ne_none_iff_exists'.mp found
      rw [← List.cons_append] at read
      obtain before | inside := flatHeapAtFront?_append_marker read
      · rw [unread] at before
        contradiction
      · obtain ⟨⟨tail, whole⟩, apart⟩ := flatHeapAtFront?_eq_some_iff.mp read
        refine outside heap ?_ inside
        rw [whole, pieces_written_append]
        · exact List.mem_cons_self
        · exact flatHeap?_eq_some_iff.mpr ⟨⟨tail, rfl⟩, apart⟩
    rw [List.cons_append, pieces_cons unreadable] at outside ⊢
    rw [ih fun heap found => outside heap (List.mem_cons_of_mem _ found), pieces_cons unread,
      List.cons_append]
  | placeholder heap front read ih =>
    have apart := (flatHeap?_eq_some_iff.mp read).2
    have longer : flatHeap? (heap ++ closing ++ (front ++ (marker ++ rest))) = some heap :=
      flatHeap?_eq_some_iff.mpr ⟨⟨_, rfl⟩, apart⟩
    rw [List.append_assoc, pieces_written_append longer] at outside ⊢
    rw [ih fun heap found => outside heap (List.mem_cons_of_mem _ found),
      pieces_written_append read, List.cons_append]

theorem MarksOutside.pieces_eq {part next : List Char} {rest : List (List Char)}
    (outside : MarksOutside (part :: next :: rest)) :
    pieces (List.intercalate marker (part :: next :: rest)) =
      pieces part ++ (marker.map .char ++ pieces (List.intercalate marker (next :: rest))) := by
  rw [MarksOutside, List.intercalate_cons_cons, List.append_assoc] at outside
  rw [List.intercalate_cons_cons, List.append_assoc, pieces_append_marker outside]

theorem MarksOutside.tail {part : List Char} {rest : List (List Char)}
    (outside : MarksOutside (part :: rest)) : MarksOutside rest := by
  cases rest with
  | nil => exact fun heap found => absurd found List.not_mem_nil
  | cons next rest =>
    intro heap found
    refine outside heap ?_
    rw [outside.pieces_eq]
    exact List.mem_append_right _ (List.mem_append_right _ found)

theorem MarksOutside.mem_pieces_iff {parts : List (List Char)} (outside : MarksOutside parts)
    {heap : List Char} : .placeholder heap ∈ pieces (List.intercalate marker parts) ↔
      ∃ part ∈ parts, .placeholder heap ∈ pieces part := by
  induction parts with
  | nil => simp [pieces_nil]
  | cons part rest ih =>
    cases rest with
    | nil => simp
    | cons next rest =>
      have absent : Piece.placeholder heap ∉ marker.map .char := by simp
      rw [outside.pieces_eq, List.mem_append, List.mem_append, or_iff_right absent, ih outside.tail,
        List.exists_mem_cons_iff (l := next :: rest)]

theorem marksOutside_of_plain {parts : List (List Char)} (plain : ∀ part ∈ parts, '%' ∉ part) :
    MarksOutside parts := by
  have bare : '%' ∉ List.intercalate marker parts := by
    intro member
    obtain inMarker | ⟨part, among, inside⟩ := Text.mem_of_mem_intercalate member
    · exact absurd inMarker (by decide)
    · exact plain part among inside
  intro heap found
  rw [pieces_of_notMem bare] at found
  simp at found

theorem MarksOutside.open_iff {parts : List (List Char)} (outside : MarksOutside parts) :
    Open (List.intercalate marker parts) ↔ ∃ part ∈ parts, Open part := by
  simp only [open_iff_mem_pieces, outside.mem_pieces_iff]
  constructor
  · rintro ⟨heap, part, member, found⟩
    exact ⟨part, member, heap, found⟩
  · rintro ⟨part, member, heap, found⟩
    exact ⟨heap, part, member, found⟩

/-! ### Passes over parts -/

variable {resolve : Resolver} {render : Renderer}

theorem pass_cons_iff {part : List Char} {rest later : List (List Char)} :
    Pass resolve render (part :: rest) later ↔ ∃ first done, later = first :: done ∧
      fill resolve render (pieces part) = .ok first ∧ Pass resolve render rest done := by
  rw [Pass, fillParts]
  constructor
  · intro pass
    cases behind : fillParts resolve render rest with
    | error error => simp [behind, Except.bind] at pass
    | ok done =>
      cases front : fill resolve render (pieces part) with
      | error error => simp [behind, front, Except.bind, Except.map] at pass
      | ok first =>
        simp only [behind, front, Except.bind, Except.map, Except.ok.injEq] at pass
        exact ⟨first, done, pass.symm, rfl, behind⟩
  · rintro ⟨first, done, rfl, front, behind⟩
    rw [Pass] at behind
    rw [behind, front]
    rfl

theorem Pass.ne_nil {parts later : List (List Char)} (pass : Pass resolve render parts later)
    (nonempty : parts ≠ []) : later ≠ [] := by
  obtain ⟨part, rest, rfl⟩ := List.exists_cons_of_ne_nil nonempty
  obtain ⟨first, done, rfl, _⟩ := pass_cons_iff.mp pass
  exact List.cons_ne_nil first done

/-- A part after a pass is a part before it with its placeholders filled. -/
theorem Pass.exists_fill {parts later : List (List Char)} (pass : Pass resolve render parts later)
    {out : List Char} (member : out ∈ later) :
    ∃ part ∈ parts, fill resolve render (pieces part) = .ok out := by
  induction parts generalizing later with
  | nil =>
    obtain rfl := Except.ok.inj pass
    exact absurd member List.not_mem_nil
  | cons part rest ih =>
    obtain ⟨first, done, rfl, front, behind⟩ := pass_cons_iff.mp pass
    obtain rfl | among := List.mem_cons.mp member
    · exact ⟨part, List.mem_cons_self, front⟩
    · obtain ⟨before, among, filled⟩ := ih behind among
      exact ⟨before, List.mem_cons_of_mem part among, filled⟩

/-- A pass leaves parts without percent signs as they are. -/
theorem pass_of_plain {parts : List (List Char)} (plain : ∀ part ∈ parts, '%' ∉ part) :
    Pass resolve render parts parts := by
  induction parts with
  | nil => rfl
  | cons part rest ih =>
    obtain ⟨front, later⟩ := List.forall_mem_cons.mp plain
    refine pass_cons_iff.mpr ⟨part, rest, rfl, ?_, ih later⟩
    rw [pieces_of_notMem front, fill_map_char]

theorem fill_append_marker (front ps : List Piece) :
    fill resolve render (front ++ (marker.map .char ++ ps)) =
      (fill resolve render ps).bind fun out =>
        (fill resolve render front).map (· ++ (marker ++ out)) := by
  rw [fill_append, fill_append, fill_map_char]
  cases fill resolve render ps <;> rfl

/-- A pass over the text with marks rewrites its parts. -/
theorem fill_intercalate {parts : List (List Char)} (outside : MarksOutside parts) :
    fill resolve render (pieces (List.intercalate marker parts)) =
      (fillParts resolve render parts).map (List.intercalate marker) := by
  induction parts with
  | nil => rfl
  | cons part rest ih =>
    cases rest with
    | nil =>
      rw [List.intercalate_singleton, fillParts, fillParts]
      cases fill resolve render (pieces part) with
      | error error => rfl
      | ok out => simp [Except.bind, Except.map]
    | cons next rest =>
      rw [outside.pieces_eq, fill_append_marker, ih outside.tail, fillParts.eq_2 _ _ part]
      cases behind : fillParts resolve render (next :: rest) with
      | error error => rfl
      | ok done =>
        obtain ⟨first, others, rfl⟩ :=
          List.exists_cons_of_ne_nil (Pass.ne_nil behind (List.cons_ne_nil _ _))
        cases fill resolve render (pieces part) with
        | error error => rfl
        | ok out => simp [Except.bind, Except.map, List.intercalate_cons_cons]

theorem partPasses_of_bare {limit : Nat} (allowed : Nat) {parts : List (List Char)}
    (bare : ¬ ∃ part ∈ parts, Open part) :
    partPasses resolve render limit allowed parts = .ok parts := by
  cases allowed <;> rw [partPasses, if_neg bare]

theorem partPasses_zero {limit : Nat} {parts : List (List Char)}
    (opened : ∃ part ∈ parts, Open part) :
    partPasses resolve render limit 0 parts = .error (.reported (.nestingDepthExceeded limit)) := by
  rw [partPasses, if_pos opened]

theorem partPasses_succ {limit : Nat} (allowed : Nat) {parts : List (List Char)}
    (opened : ∃ part ∈ parts, Open part) :
    partPasses resolve render limit (allowed + 1) parts =
      (fillParts resolve render parts).bind (partPasses resolve render limit allowed) := by
  rw [partPasses, if_pos opened]
  cases fillParts resolve render parts <;> rfl

/-- As long as no placeholder holds a mark, the passes over the text with marks rewrite its parts. -/
theorem passes_intercalate {parts : List (List Char)}
    (outside : ∀ later, ReflTransGen (Pass resolve render) parts later → MarksOutside later)
    (limit allowed : Nat) :
    passes resolve render limit allowed (List.intercalate marker parts) =
      (partPasses resolve render limit allowed parts).map (List.intercalate marker) := by
  induction allowed generalizing parts with
  | zero =>
    have here := outside parts .refl
    by_cases opened : ∃ part ∈ parts, Open part
    · obtain ⟨heap, found⟩ := open_iff_mem_pieces.mp (here.open_iff.mpr opened)
      rw [passes_zero resolve render limit found, partPasses_zero opened]
      rfl
    · have bare := notMem_pieces_of_not_open (mt here.open_iff.mp opened)
      rw [passes_of_bare resolve render limit 0 bare, partPasses_of_bare 0 opened]
      rfl
  | succ allowed ih =>
    have here := outside parts .refl
    by_cases opened : ∃ part ∈ parts, Open part
    · obtain ⟨heap, found⟩ := open_iff_mem_pieces.mp (here.open_iff.mpr opened)
      rw [passes_succ resolve render limit allowed found, partPasses_succ allowed opened,
        fill_intercalate here]
      cases filled : fillParts resolve render parts with
      | error error => rfl
      | ok later => exact ih fun last run => outside last (.head filled run)
    · have bare := notMem_pieces_of_not_open (mt here.open_iff.mp opened)
      rw [passes_of_bare resolve render limit _ bare, partPasses_of_bare _ opened]
      rfl

/-- A failure to fill parts is one to resolve a placeholder of a part. -/
theorem exists_of_fillParts_error {parts : List (List Char)} {failure : Failure}
    (failed : fillParts resolve render parts = .error failure) :
    ∃ part ∈ parts, ∃ heap, .placeholder heap ∈ pieces part ∧
      resolve (String.ofList heap) = .error failure := by
  induction parts with
  | nil => contradiction
  | cons part rest ih =>
    rw [fillParts] at failed
    cases behind : fillParts resolve render rest with
    | error inner =>
      rw [behind, Except.bind] at failed
      obtain rfl := Except.error.inj failed
      obtain ⟨later, member, found⟩ := ih behind
      exact ⟨later, List.mem_cons_of_mem part member, found⟩
    | ok done =>
      cases front : fill resolve render (pieces part) with
      | error inner =>
        rw [behind, Except.bind, front, Except.map] at failed
        obtain rfl := Except.error.inj failed
        exact ⟨part, List.mem_cons_self, exists_of_fill_error resolve render front⟩
      | ok out =>
        rw [behind, Except.bind, front, Except.map] at failed
        contradiction

/-- Passes over parts lead to parts without placeholders, to parts with a failure, or use up the
limit. -/
theorem exists_partPasses (resolve : Resolver) (render : Renderer) (limit allowed : Nat)
    (parts : List (List Char)) :
    ∃ last, ReflTransGen (Pass resolve render) parts last ∧
      (partPasses resolve render limit allowed parts = .ok last ∨
        (∃ failure, fillParts resolve render last = .error failure ∧
          partPasses resolve render limit allowed parts = .error failure) ∨
        partPasses resolve render limit allowed parts = .error (.reported (.nestingDepthExceeded limit))) := by
  induction allowed generalizing parts with
  | zero =>
    refine ⟨parts, .refl, ?_⟩
    by_cases opened : ∃ part ∈ parts, Open part
    · exact Or.inr (Or.inr (partPasses_zero opened))
    · exact Or.inl (partPasses_of_bare 0 opened)
  | succ allowed ih =>
    by_cases opened : ∃ part ∈ parts, Open part
    · rw [partPasses_succ allowed opened]
      cases filled : fillParts resolve render parts with
      | error failure => exact ⟨parts, .refl, Or.inr (Or.inl ⟨failure, filled, rfl⟩)⟩
      | ok later =>
        obtain ⟨last, run, ends⟩ := ih later
        exact ⟨last, .head filled run, ends⟩
    · exact ⟨parts, .refl, Or.inl (partPasses_of_bare _ opened)⟩

/-- Substitution is the one without a marker, as long as no placeholder holds a mark and the name
inside the marker does not come up. -/
theorem substitute_eq_substituteParts {limit : Nat} {text : String}
    (outside : ∀ later, ReflTransGen (Pass resolve render) (escapeParts text.toList) later →
      MarksOutside later)
    (unmarked : ∀ later, ReflTransGen (Pass resolve render) (escapeParts text.toList) later →
      ∀ part ∈ later, Unmarked part) :
    substitute resolve render limit text = substituteParts resolve render limit text := by
  rw [substitute, substituteParts, mask_eq_intercalate, passes_intercalate outside]
  obtain ⟨last, run, done | ⟨failure, _, failed⟩ | exceeded⟩ :=
    exists_partPasses resolve render limit limit (escapeParts text.toList)
  · rw [done, Except.map, Except.map, Except.map, unmask_intercalate_marker (unmarked last run)]
  · rw [failed]
    rfl
  · rw [exceeded]
    rfl

end EnvTemplate.Template
