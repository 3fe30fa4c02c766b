import EnvTemplate.Placeholder
import EnvTemplate.Proofs.Text.Pattern
/-! Texts cut into characters and innermost placeholders by one reading from left to right. The
placeholders of this reading are the innermost ones of balanced openings and closings, so what a
text written piece by piece holds can be said without counting openings. -/
namespace EnvTemplate.Placeholder

/-- The heap before the next delimiter of a text, if that delimiter is a closing. -/
def flatHeap? : List Char → Option (List Char)
  | '%' :: 'e' :: 'n' :: 'v' :: '(' :: _ => none
  | ')' :: '%' :: _ => some []
  | c :: rest => (flatHeap? rest).map (c :: ·)
  | [] => none

def flatHeapAtFront? (text : List Char) : Option (List Char) :=
  (Text.afterFront? opening text).bind flatHeap?

inductive Piece
  | char (c : Char)
  | placeholder (heap : List Char)
deriving DecidableEq

def Piece.text : Piece → List Char
  | .char c => [c]
  | .placeholder heap => written heap

def Piece.isPlaceholder : Piece → Bool
  | .char _ => false
  | .placeholder _ => true

/-- Cuts a text whose first `skip` characters belong to a placeholder that has been read. -/
def piecesFrom : (skip : Nat) → List Char → List Piece
  | _, [] => []
  | skip + 1, _ :: rest => piecesFrom skip rest
  | 0, c :: rest =>
    match flatHeapAtFront? (c :: rest) with
    | some heap => .placeholder heap :: piecesFrom ((written heap).length - 1) rest
    | none => .char c :: piecesFrom 0 rest

def pieces (text : List Char) : List Piece :=
  piecesFrom 0 text

/-- The placeholders among pieces of which the first begins at the given position. -/
def spansFrom : (position : Nat) → List Piece → List Placeholder
  | _, [] => []
  | position, .char _ :: rest => spansFrom (position + 1) rest
  | position, .placeholder heap :: rest =>
    let stop := position + (written heap).length
    ⟨position, stop, String.ofList heap⟩ :: spansFrom stop rest

attribute [local simp] flatHeap? piecesFrom spansFrom

theorem opening_eq : opening = ['%', 'e', 'n', 'v', '('] := rfl

theorem closing_eq : closing = [')', '%'] := rfl

theorem written_length (heap : List Char) : (written heap).length = heap.length + 7 := by
  simp [written, opening_eq, closing_eq]

/-! ### The heap at the front -/

theorem flatHeap?_closing (rest : List Char) : flatHeap? (closing ++ rest) = some [] := rfl

theorem flatHeap?_cons {c : Char} {rest : List Char} (opens : ¬ opening <+: c :: rest)
    (closes : ¬ closing <+: c :: rest) :
    flatHeap? (c :: rest) = (flatHeap? rest).map (c :: ·) := by
  apply flatHeap?.eq_3
  · rintro tail rfl rfl
    exact opens (List.prefix_append opening tail)
  · rintro tail rfl rfl
    exact closes (List.prefix_append closing tail)

theorem flatHeap?_sound {text heap : List Char} (read : flatHeap? text = some heap) :
    ∃ rest, text = heap ++ closing ++ rest := by
  fun_induction flatHeap? text generalizing heap with
  | case1 => contradiction
  | case2 rest =>
    obtain rfl := Option.some.inj read
    exact ⟨rest, rfl⟩
  | case3 c rest _ _ ih =>
    obtain ⟨inner, found, rfl⟩ := Option.map_eq_some_iff.mp read
    obtain ⟨tail, rfl⟩ := ih found
    exact ⟨tail, rfl⟩
  | case4 => contradiction

/-- The heap that is read ends at the first closing, and no opening stands before it. -/
theorem flatHeap?_eq_some_iff {text heap : List Char} :
    flatHeap? text = some heap ↔
      (∃ rest, text = heap ++ closing ++ rest) ∧ ¬ opening <:+: heap ∧ ¬ closing <:+: heap := by
  constructor
  · intro read
    refine ⟨flatHeap?_sound read, ?_⟩
    fun_induction flatHeap? text generalizing heap with
    | case1 => contradiction
    | case2 rest =>
      obtain rfl := Option.some.inj read
      simp [opening_eq, closing_eq]
    | case3 c rest opens closes ih =>
      obtain ⟨inner, found, rfl⟩ := Option.map_eq_some_iff.mp read
      obtain ⟨tail, rfl⟩ := flatHeap?_sound found
      obtain ⟨unopened, unclosed⟩ := ih found
      rw [List.infix_cons_iff, List.infix_cons_iff, or_iff_left unopened, or_iff_left unclosed,
        opening_eq, closing_eq]
      constructor
      · rintro ⟨behind, same⟩
        obtain ⟨rfl, rfl⟩ := List.cons.inj same
        exact opens _ rfl rfl
      · rintro ⟨behind, same⟩
        obtain ⟨rfl, rfl⟩ := List.cons.inj same
        exact closes _ rfl rfl
    | case4 => contradiction
  · rintro ⟨⟨rest, rfl⟩, unopened, unclosed⟩
    induction heap with
    | nil => exact flatHeap?_closing rest
    | cons c heap ih =>
      rw [List.infix_cons_iff, not_or] at unopened unclosed
      have opens : ¬ opening <+: (c :: heap) ++ ')' :: '%' :: rest := by
        rw [Text.prefix_append_cons_iff (by decide)]
        exact unopened.1
      have closes : ¬ closing <+: c :: (heap ++ closing ++ rest) := by
        rw [closing_eq] at unclosed ⊢
        intro found
        obtain ⟨rfl, percent⟩ := List.cons_prefix_cons.mp found
        cases heap with
        | nil => simp at percent
        | cons d heap =>
          obtain rfl := (List.cons_prefix_cons.mp percent).1
          exact unclosed.1 (List.prefix_append [')', '%'] heap)
      have shape : c :: (heap ++ closing ++ rest) = (c :: heap) ++ ')' :: '%' :: rest := by
        simp [closing_eq]
      rw [← shape] at opens
      have inner := ih unopened.2 unclosed.2
      rw [List.cons_append, List.cons_append, flatHeap?_cons opens closes, inner, Option.map_some]

/-- Text before a delimiter is passed over, unless its last character makes a closing with it. -/
theorem flatHeap?_append {front rest : List Char} (plain : '%' ∉ front)
    (apart : rest.head? = some '%' → front.getLast? ≠ some ')') :
    flatHeap? (front ++ rest) = (flatHeap? rest).map (front ++ ·) := by
  induction front with
  | nil => simp
  | cons c front ih =>
    obtain ⟨different, plain⟩ : '%' ≠ c ∧ '%' ∉ front := by simpa using plain
    have inner : rest.head? = some '%' → front.getLast? ≠ some ')' := by
      intro percent last
      exact apart percent (by simp [List.getLast?_cons, last])
    have opens : ¬ opening <+: c :: (front ++ rest) := fun found =>
      different (List.cons_prefix_cons.mp found).1
    have closes : ¬ closing <+: c :: (front ++ rest) := by
      rw [closing_eq]
      intro found
      obtain ⟨rfl, percent⟩ := List.cons_prefix_cons.mp found
      cases front with
      | nil =>
        obtain ⟨tail, rfl⟩ := percent
        exact apart rfl rfl
      | cons d front =>
        obtain rfl := (List.cons_prefix_cons.mp percent).1
        exact plain (by simp)
    rw [List.cons_append, flatHeap?_cons opens closes, ih plain inner, Option.map_map]
    rfl

/-- A heap without percent signs ends at the closing that follows it. -/
theorem flatHeap?_heap {heap : List Char} (plain : '%' ∉ heap) (rest : List Char) :
    flatHeap? (heap ++ closing ++ rest) = some heap := by
  have paren : (closing ++ rest).head? = some ')' := rfl
  rw [List.append_assoc, flatHeap?_append plain (by simp [paren]), flatHeap?_closing,
    Option.map_some, List.append_nil]

/-- What a balanced reading leaves out is a closing and what follows it. -/
theorem balanced_sound {depth : Nat} {text heap : List Char}
    (read : balanced depth text = some heap) : ∃ rest, text = heap ++ closing ++ rest := by
  fun_induction balanced depth text generalizing heap with
  | case1 depth rest ih =>
    obtain ⟨inner, found, rfl⟩ := Option.map_eq_some_iff.mp read
    obtain ⟨tail, rfl⟩ := ih found
    exact ⟨tail, by simp [opening_eq]⟩
  | case2 rest =>
    obtain rfl := Option.some.inj read
    exact ⟨rest, rfl⟩
  | case3 rest depth ih =>
    obtain ⟨inner, found, rfl⟩ := Option.map_eq_some_iff.mp read
    obtain ⟨tail, rfl⟩ := ih found
    exact ⟨tail, by simp [closing_eq]⟩
  | case4 depth c rest _ _ ih =>
    obtain ⟨inner, found, rfl⟩ := Option.map_eq_some_iff.mp read
    obtain ⟨tail, rfl⟩ := ih found
    exact ⟨tail, rfl⟩
  | case5 => contradiction

/-- A balanced placeholder without an opening in its heap is one that the next delimiter closes. -/
theorem filter_balanced (text : List Char) :
    ((balanced 0 text).filter fun heap => !Text.contains opening heap) = flatHeap? text := by
  fun_induction flatHeap? text with
  | case1 rest =>
    rw [balanced.eq_1, Option.filter_eq_none_iff]
    intro heap found
    obtain ⟨inner, _, rfl⟩ := Option.map_eq_some_iff.mp found
    have holds : Text.contains opening (opening ++ inner) = true :=
      Text.contains_iff_infix.mpr (List.prefix_append opening inner).isInfix
    simp [holds]
  | case2 rest => rfl
  | case3 c rest opens closes ih =>
    have front : ∀ heap, balanced 0 rest = some heap → ¬ opening <+: c :: heap := by
      rintro heap found ⟨tail, same⟩
      obtain ⟨behind, rfl⟩ := balanced_sound found
      rw [opening_eq] at same
      obtain ⟨rfl, rfl⟩ := List.cons.inj same
      exact opens _ rfl rfl
    rw [balanced.eq_4 0 c rest opens closes, ← ih]
    cases found : balanced 0 rest with
    | none => rfl
    | some heap =>
      have same : Text.contains opening (c :: heap) = Text.contains opening heap := by
        rw [Bool.eq_iff_iff, Text.contains_iff_infix, Text.contains_iff_infix,
          List.infix_cons_iff, or_iff_right (front heap found)]
      rw [Option.map_some, Option.filter_some, Option.filter_some, same]
      split <;> rfl
  | case4 => rfl

theorem flatHeapAtFront?_eq_filter (text : List Char) :
    flatHeapAtFront? text = (heapAtFront? text).filter fun heap => !Text.contains opening heap := by
  rw [flatHeapAtFront?, heapAtFront?]
  cases Text.afterFront? opening text with
  | none => rfl
  | some rest => exact (filter_balanced rest).symm

theorem flatHeapAtFront?_sound {text heap : List Char}
    (read : flatHeapAtFront? text = some heap) : ∃ rest, text = written heap ++ rest := by
  obtain ⟨tail, front, read⟩ := Option.bind_eq_some_iff.mp read
  obtain ⟨rest, rfl⟩ := flatHeap?_sound read
  exact ⟨rest, by simp [Text.afterFront?_eq_some_iff.mp front, written]⟩

theorem flatHeapAtFront?_opening (rest : List Char) :
    flatHeapAtFront? (opening ++ rest) = flatHeap? rest := by
  rw [flatHeapAtFront?, Text.afterFront?_eq_some_iff.mpr rfl, Option.bind_some]

theorem flatHeapAtFront?_eq_some_iff {text heap : List Char} :
    flatHeapAtFront? text = some heap ↔
      (∃ rest, text = written heap ++ rest) ∧ ¬ opening <:+: heap ∧ ¬ closing <:+: heap := by
  constructor
  · intro read
    refine ⟨flatHeapAtFront?_sound read, ?_⟩
    obtain ⟨tail, _, read⟩ := Option.bind_eq_some_iff.mp read
    exact (flatHeap?_eq_some_iff.mp read).2
  · rintro ⟨⟨rest, rfl⟩, apart⟩
    have shape : written heap ++ rest = opening ++ (heap ++ closing ++ rest) := by simp [written]
    rw [shape, flatHeapAtFront?_opening]
    exact flatHeap?_eq_some_iff.mpr ⟨⟨rest, rfl⟩, apart⟩

theorem flatHeapAtFront?_eq_none {text : List Char} (opens : ¬ opening <+: text) :
    flatHeapAtFront? text = none := by
  cases front : Text.afterFront? opening text with
  | none => rw [flatHeapAtFront?, front, Option.bind_none]
  | some rest =>
    rw [Text.afterFront?_eq_some_iff.mp front] at opens
    exact absurd (List.prefix_append _ _) opens

/-! ### The pieces of a text -/

theorem piecesFrom_eq_pieces_drop (skip : Nat) (text : List Char) :
    piecesFrom skip text = pieces (text.drop skip) := by
  induction skip generalizing text with
  | zero => rfl
  | succ skip ih =>
    cases text with
    | nil => rfl
    | cons c rest => simpa only [piecesFrom, List.drop_succ_cons] using ih rest

theorem pieces_nil : pieces [] = [] := rfl

theorem pieces_cons {c : Char} {rest : List Char} (outside : flatHeapAtFront? (c :: rest) = none) :
    pieces (c :: rest) = .char c :: pieces rest := by
  rw [pieces, piecesFrom, outside, pieces]

theorem pieces_written_append {heap rest : List Char}
    (read : flatHeap? (heap ++ closing ++ rest) = some heap) :
    pieces (written heap ++ rest) = .placeholder heap :: pieces rest := by
  have front : flatHeapAtFront? (written heap ++ rest) = some heap := by
    rw [← read, ← flatHeapAtFront?_opening]
    simp [written]
  obtain ⟨inner, whole⟩ : ∃ inner, written heap = '%' :: inner := ⟨_, rfl⟩
  have skipped : (inner ++ rest).drop ((written heap).length - 1) = rest := by simp [whole]
  rw [whole, List.cons_append] at front ⊢
  rw [pieces, piecesFrom, front]
  simp only [piecesFrom_eq_pieces_drop, skipped]

theorem placeholder_mem_pieces_opening_append {heap text : List Char}
    (read : flatHeap? text = some heap) : .placeholder heap ∈ pieces (opening ++ text) := by
  obtain ⟨rest, rfl⟩ := flatHeap?_sound read
  have front := pieces_written_append read
  rw [written, List.append_assoc, List.append_assoc] at front
  rw [List.append_assoc, front]
  exact List.mem_cons_self

theorem pieces_append_of_notMem {front : List Char} (plain : '%' ∉ front) (rest : List Char) :
    pieces (front ++ rest) = front.map .char ++ pieces rest := by
  induction front with
  | nil => rfl
  | cons c front ih =>
    obtain ⟨different, plain⟩ : '%' ≠ c ∧ '%' ∉ front := by simpa using plain
    have outside : flatHeapAtFront? (c :: (front ++ rest)) = none :=
      flatHeapAtFront?_eq_none fun found => different (List.cons_prefix_cons.mp found).1
    rw [List.cons_append, pieces_cons outside, ih plain, List.map_cons, List.cons_append]

theorem pieces_of_notMem {text : List Char} (plain : '%' ∉ text) : pieces text = text.map .char := by
  have whole := pieces_append_of_notMem plain []
  rwa [pieces_nil, List.append_nil, List.append_nil] at whole

/-- An opening that another one follows is text. -/
theorem pieces_opening_append {rest : List Char} (unclosed : flatHeap? rest = none) :
    pieces (opening ++ rest) = opening.map .char ++ pieces rest := by
  have outside : flatHeapAtFront? ('%' :: (['e', 'n', 'v', '('] ++ rest)) = none := by
    rw [← unclosed, ← flatHeapAtFront?_opening]
    rfl
  have behind : pieces (['e', 'n', 'v', '('] ++ rest) =
      ['e', 'n', 'v', '('].map .char ++ pieces rest :=
    pieces_append_of_notMem (by decide) rest
  exact (pieces_cons outside).trans (congrArg (.char '%' :: ·) behind)

/-- A closing is text, if its percent sign does not open the next placeholder. -/
theorem pieces_closing_append {rest : List Char} (follows : rest.head? ≠ some 'e') :
    pieces (closing ++ rest) = closing.map .char ++ pieces rest := by
  have paren : flatHeapAtFront? (')' :: '%' :: rest) = none :=
    flatHeapAtFront?_eq_none fun found => by simp [opening_eq] at found
  have percent : flatHeapAtFront? ('%' :: rest) = none := by
    apply flatHeapAtFront?_eq_none
    rintro ⟨tail, same⟩
    obtain rfl : ['e', 'n', 'v', '('] ++ tail = rest := (List.cons.inj same).2
    exact follows rfl
  exact (pieces_cons paren).trans (congrArg (.char ')' :: ·) (pieces_cons percent))

/-- Texts are read from the front, a whole innermost placeholder or else one character at a time. -/
theorem reading_induction {motive : List Char → Prop} (nil : motive [])
    (char : ∀ c rest, flatHeapAtFront? (c :: rest) = none → motive rest → motive (c :: rest))
    (placeholder : ∀ heap rest, flatHeap? (heap ++ closing ++ rest) = some heap → motive rest →
      motive (written heap ++ rest)) (text : List Char) : motive text := by
  induction size : text.length using Nat.strongRecOn generalizing text with
  | ind n ih =>
    cases text with
    | nil => exact nil
    | cons c rest =>
      cases read : flatHeapAtFront? (c :: rest) with
      | none => exact char c rest read (ih rest.length (by simp [← size]) rest rfl)
      | some heap =>
        obtain ⟨tail, whole⟩ := flatHeapAtFront?_sound read
        have shorter : tail.length < n := by
          rw [← size, whole, List.length_append, written_length]
          omega
        rw [whole] at read ⊢
        refine placeholder heap tail ?_ (ih tail.length shorter tail rfl)
        rw [← read, ← flatHeapAtFront?_opening]
        simp [written]

/-- Nothing is lost in cutting. -/
theorem flatMap_text_pieces (text : List Char) : (pieces text).flatMap Piece.text = text := by
  induction text using reading_induction with
  | nil => rfl
  | char c rest outside ih =>
    rw [pieces_cons outside, List.flatMap_cons, ih]
    rfl
  | placeholder heap rest read ih =>
    rw [pieces_written_append read, List.flatMap_cons, ih]
    rfl

theorem append_of_pieces {text heap : List Char} {front back : List Piece}
    (cut : pieces text = front ++ .placeholder heap :: back) :
    text = front.flatMap Piece.text ++ written heap ++ back.flatMap Piece.text := by
  rw [← flatMap_text_pieces text, cut, List.flatMap_append, List.flatMap_cons, List.append_assoc]
  rfl

theorem heap_infix_of_mem_pieces {text heap : List Char} (found : .placeholder heap ∈ pieces text) :
    heap <:+: text := by
  obtain ⟨front, back, cut⟩ := List.append_of_mem found
  have whole : written heap <:+: text := ⟨_, _, (append_of_pieces cut).symm⟩
  have inside : heap <:+: written heap := ⟨opening, closing, rfl⟩
  exact inside.trans whole

/-- Every placeholder takes two percent signs of its text. -/
theorem two_mul_countP_le (ps : List Piece) :
    2 * ps.countP Piece.isPlaceholder + ps.count (.char '%') ≤ (ps.flatMap Piece.text).count '%' := by
  induction ps with
  | nil => simp
  | cons p ps ih =>
    rw [List.flatMap_cons, List.count_append, List.countP_cons, List.count_cons]
    cases p with
    | char c =>
      by_cases percent : c = '%'
      · simp only [percent, Piece.isPlaceholder, Piece.text, BEq.rfl, List.count_cons_self,
          List.count_nil, Bool.false_eq_true, if_true, if_false]
        omega
      · simp only [Piece.isPlaceholder, Piece.text, beq_iff_eq, Piece.char.injEq, percent, ne_eq,
          not_false_eq_true, List.count_cons_of_ne, List.count_nil, Bool.false_eq_true, if_false]
        omega
    | placeholder heap =>
      have delimiters : 2 ≤ (written heap).count '%' := by
        simp [written, opening_eq, closing_eq]
      simp only [Piece.isPlaceholder, Piece.text, beq_iff_eq, reduceCtorEq, if_true, if_false]
      omega

/-- Balanced openings and closings give the placeholders that one reading from left to right finds. -/
theorem innermostFrom_eq_spansFrom (text : List Char) (position free : Nat) :
    innermostFrom position free text =
      spansFrom (max position free) (piecesFrom (free - position) text) := by
  induction text generalizing position free with
  | nil => simp [innermostFrom]
  | cons c rest ih =>
    by_cases inside : position < free
    · have passed : innermostFrom position free (c :: rest) =
          innermostFrom (position + 1) free rest := by
        rw [innermostFrom]
        split
        · rfl
        · exact if_pos (Or.inr inside)
      have start : max (position + 1) free = max position free := by omega
      have skip : free - position = free - (position + 1) + 1 := by omega
      rw [passed, ih, start, skip, piecesFrom]
    · have start : max position free = position := by omega
      have next : max (position + 1) free = position + 1 := by omega
      have outside : free - position = 0 := by omega
      have beyond : free - (position + 1) = 0 := by omega
      rw [start, outside, innermostFrom, piecesFrom, flatHeapAtFront?_eq_filter]
      cases heapAtFront? (c :: rest) with
      | none => simp only [Option.filter_none, ih, next, beyond, spansFrom]
      | some heap =>
        by_cases opens : Text.contains opening heap = true
        · simp only [opens, true_or, if_true, Option.filter_some, Bool.not_true, Bool.false_eq_true,
            if_false, ih, next, beyond, spansFrom]
        · have stop : max (position + 1) (position + (written heap).length) =
              position + (written heap).length := by
            rw [written_length]
            omega
          have skip : position + (written heap).length - (position + 1) =
              (written heap).length - 1 := by omega
          simp only [opens, inside, Bool.false_eq_true, or_self, if_false, Option.filter_some,
            Bool.not_false, if_true, ih, stop, skip, spansFrom]

theorem innermost_eq_spansFrom (text : List Char) :
    innermost text = spansFrom 0 (pieces text) :=
  innermostFrom_eq_spansFrom text 0 0

end EnvTemplate.Placeholder
