import EnvTemplate.Proofs.Placeholder.Pieces
import EnvTemplate.Proofs.Text.Decoding
/-! The placeholders of a text by one sweep. At each opening the next delimiter decides: a closing
ends a placeholder, and at another opening the sweep starts again. Balancing openings against
closings finds the same placeholders, in a text and in its bytes. -/
namespace EnvTemplate.Placeholder

/-- What opens and closes a span, in characters or in bytes. -/
structure Delimiters (α : Type) where
  opening : List α
  closing : List α
  opens : opening ≠ []

structure Span (α : Type) where
  start : Nat
  stop : Nat
  heap : List α

namespace Delimiters

variable {α : Type} [DecidableEq α] (d : Delimiters α)

/-- What stands before and after the next delimiter of a text, if that delimiter is a closing. -/
def closed? (text : List α) : Option (List α × List α) :=
  (Text.cutPattern d.closing text).filter fun (heap, _) =>
    (Text.cutPattern d.opening text).all fun (inner, _) => heap.length < inner.length

variable {d} in
theorem append_of_closed? {text heap behind : List α}
    (closed : d.closed? text = some (heap, behind)) : text = heap ++ d.closing ++ behind :=
  Text.append_of_cutPattern (Option.filter_eq_some_iff.mp closed).1

variable {d} in
theorem closed?_cons {x : α} {xs : List α} (opens : ¬ d.opening <+: x :: xs)
    (closes : ¬ d.closing <+: x :: xs) :
    d.closed? (x :: xs) = (d.closed? xs).map fun (heap, behind) => (x :: heap, behind) := by
  rw [closed?, closed?, Text.cutPattern_cons opens, Text.cutPattern_cons closes]
  cases Text.cutPattern d.closing xs with
  | none => rfl
  | some cut =>
    cases Text.cutPattern d.opening xs with
    | none => rfl
    | some inner =>
      simp only [Option.map_some, Option.filter_some, Option.all_some, List.length_cons,
        Nat.add_lt_add_iff_right]
      split <;> rfl

/-- The spans that one sweep finds in a text whose first member has the given position. -/
def sweep (position : Nat) (text : List α) : List (Span α) :=
  match _ : Text.cutPattern d.opening text with
  | none => []
  | some (before, rest) =>
    let start := position + before.length
    match _ : d.closed? rest with
    | some (heap, behind) =>
      let stop := start + (d.opening ++ heap ++ d.closing).length
      ⟨start, stop, heap⟩ :: sweep stop behind
    | none => sweep (start + d.opening.length) rest
termination_by text.length
decreasing_by
  all_goals
    have whole := congrArg List.length (Text.append_of_cutPattern ‹_›)
    have opens := List.length_pos_iff.mpr d.opens
    simp only [List.length_append] at whole
  · have inner := congrArg List.length (append_of_closed? ‹_›)
    simp only [List.length_append] at inner
    omega
  · omega

section
variable {d} {text before rest heap behind : List α} (position : Nat)

theorem sweep_of_none (absent : Text.cutPattern d.opening text = none) :
    d.sweep position text = [] := by
  rw [sweep]
  split
  · rfl
  · simp_all

theorem sweep_of_closed (next : Text.cutPattern d.opening text = some (before, rest))
    (closed : d.closed? rest = some (heap, behind)) :
    d.sweep position text =
      ⟨position + before.length,
        position + before.length + (d.opening ++ heap ++ d.closing).length, heap⟩ ::
      d.sweep (position + before.length + (d.opening ++ heap ++ d.closing).length) behind := by
  rw [sweep]
  split
  · simp_all
  · split <;> simp_all

theorem sweep_of_open (next : Text.cutPattern d.opening text = some (before, rest))
    (opened : d.closed? rest = none) :
    d.sweep position text = d.sweep (position + before.length + d.opening.length) rest := by
  rw [sweep]
  split
  · simp_all
  · split <;> simp_all

theorem sweep_nil : d.sweep position [] = [] := by
  refine sweep_of_none position ?_
  cases found : Text.cutPattern d.opening [] with
  | none => rfl
  | some cut =>
    have whole := Text.append_of_cutPattern found
    exact absurd (by simp_all) d.opens

/-- Where no opening begins, the sweep goes on at the next member. -/
theorem sweep_cons {x : α} {xs : List α} (absent : ¬ d.opening <+: x :: xs) :
    d.sweep position (x :: xs) = d.sweep (position + 1) xs := by
  have passed := Text.cutPattern_cons absent
  cases next : Text.cutPattern d.opening xs with
  | none =>
    rw [next, Option.map_none] at passed
    rw [sweep_of_none position passed, sweep_of_none _ next]
  | some cut =>
    obtain ⟨before, rest⟩ := cut
    rw [next, Option.map_some] at passed
    have start : position + (x :: before).length = position + 1 + before.length := by
      rw [List.length_cons]
      omega
    cases closed : d.closed? rest with
    | none => rw [sweep_of_open position passed closed, sweep_of_open _ next closed, start]
    | some found =>
      rw [sweep_of_closed position passed closed, sweep_of_closed _ next closed, start]

/-- No opening begins in a part without the first member of an opening. -/
theorem sweep_append_of_notMem {p : α} {ps : List α} (shape : d.opening = p :: ps)
    {front : List α} (absent : p ∉ front) (rest : List α) :
    d.sweep position (front ++ rest) = d.sweep (position + front.length) rest := by
  induction front generalizing position with
  | nil => rfl
  | cons x xs ih =>
    obtain ⟨different, absent⟩ : p ≠ x ∧ p ∉ xs := by simpa using absent
    have outside : ¬ d.opening <+: x :: (xs ++ rest) := by
      rw [shape]
      exact fun front => different (List.cons_prefix_cons.mp front).1
    rw [List.cons_append, sweep_cons position outside, ih (position + 1) absent, List.length_cons,
      Nat.add_right_comm, Nat.add_assoc]

theorem sweep_opening_closed (closed : d.closed? rest = some (heap, behind)) :
    d.sweep position (d.opening ++ rest) =
      ⟨position, position + (d.opening ++ heap ++ d.closing).length, heap⟩ ::
        d.sweep (position + (d.opening ++ heap ++ d.closing).length) behind :=
  sweep_of_closed position (Text.cutPattern_pattern_append d.opening rest) closed

theorem sweep_opening_open (opened : d.closed? rest = none) :
    d.sweep position (d.opening ++ rest) = d.sweep (position + d.opening.length) rest :=
  sweep_of_open position (Text.cutPattern_pattern_append d.opening rest) opened

end

end Delimiters

/-! ### Characters -/

def delimiters : Delimiters Char where
  opening := opening
  closing := closing
  opens := by decide

/-- The heap before a closing is flat if the closing is the next delimiter. -/
theorem closed?_map_fst (text : List Char) :
    (delimiters.closed? text).map Prod.fst = flatHeap? text := by
  fun_induction flatHeap? text with
  | case1 rest =>
    have next : Text.cutPattern opening (opening ++ rest) = some ([], rest) :=
      Text.cutPattern_pattern_append opening rest
    have opened : delimiters.closed? (opening ++ rest) = none := by
      rw [Delimiters.closed?, Option.filter_eq_none_iff]
      intro found _
      simp [delimiters, next]
    exact congrArg _ opened
  | case2 rest =>
    have next : Text.cutPattern closing (')' :: '%' :: rest) = some ([], rest) :=
      Text.cutPattern_pattern_append closing rest
    have apart : ¬ opening <+: ')' :: '%' :: rest := by
      rintro ⟨tail, same⟩
      exact absurd (List.cons.inj same).1 (by decide)
    have closed : delimiters.closed? (')' :: '%' :: rest) = some ([], rest) := by
      simp only [Delimiters.closed?, delimiters, next, Text.cutPattern_cons apart]
      cases Text.cutPattern opening ('%' :: rest) <;> simp
    rw [closed]
    rfl
  | case3 c rest opens closes ih =>
    have opens : ¬ opening <+: c :: rest := by
      rintro ⟨tail, same⟩
      obtain ⟨rfl, rfl⟩ := List.cons.inj same
      exact opens _ rfl rfl
    have closes : ¬ closing <+: c :: rest := by
      rintro ⟨tail, same⟩
      obtain ⟨rfl, rfl⟩ := List.cons.inj same
      exact closes _ rfl rfl
    rw [Delimiters.closed?_cons opens closes, ← ih, Option.map_map, Option.map_map]
    rfl
  | case4 => rfl

section
variable {heap behind rest : List Char} (position : Nat)

theorem sweep_open (opened : delimiters.closed? rest = none) :
    delimiters.sweep position (opening ++ rest) =
      delimiters.sweep (position + opening.length) rest :=
  Delimiters.sweep_opening_open position opened

theorem sweep_written
    (closed : delimiters.closed? (heap ++ closing ++ behind) = some (heap, behind)) :
    delimiters.sweep position (written heap ++ behind) =
      ⟨position, position + (written heap).length, heap⟩ ::
        delimiters.sweep (position + (written heap).length) behind := by
  have shape : written heap ++ behind = opening ++ (heap ++ closing ++ behind) := by simp [written]
  rw [shape]
  exact Delimiters.sweep_opening_closed position closed

end

/-- A sweep takes a character that begins no opening, an opening that another one follows, or a
whole placeholder. -/
theorem sweep_induction {motive : List Char → Prop} (nil : motive [])
    (char : ∀ c rest, ¬ opening <+: c :: rest → motive rest → motive (c :: rest))
    (opened : ∀ rest, delimiters.closed? rest = none → motive rest → motive (opening ++ rest))
    (closed : ∀ heap behind, delimiters.closed? (heap ++ closing ++ behind) = some (heap, behind) →
      motive behind → motive (written heap ++ behind)) (text : List Char) : motive text := by
  induction size : text.length using Nat.strongRecOn generalizing text with
  | ind n ih =>
    by_cases opens : opening <+: text
    · obtain ⟨rest, rfl⟩ := opens
      have some : 0 < opening.length := by decide
      rw [List.length_append] at size
      cases next : delimiters.closed? rest with
      | none => exact opened rest next (ih rest.length (by omega) rest rfl)
      | some found =>
        obtain ⟨heap, behind⟩ := found
        obtain rfl : rest = heap ++ closing ++ behind := Delimiters.append_of_closed? next
        have shape : opening ++ (heap ++ closing ++ behind) = written heap ++ behind := by
          simp [written]
        simp only [List.length_append] at size
        rw [shape]
        exact closed heap behind next (ih behind.length (by omega) behind rfl)
    · cases text with
      | nil => exact nil
      | cons c rest => exact char c rest opens (ih rest.length (by simp [← size]) rest rfl)

theorem spansFrom_map_char (position : Nat) (front : List Char) (ps : List Piece) :
    spansFrom position (front.map .char ++ ps) = spansFrom (position + front.length) ps := by
  induction front generalizing position with
  | nil => rfl
  | cons c front ih =>
    rw [List.map_cons, List.cons_append, spansFrom, ih, List.length_cons, Nat.add_right_comm,
      Nat.add_assoc]

theorem spansFrom_pieces_eq_sweep (position : Nat) (text : List Char) :
    spansFrom position (pieces text) =
      (delimiters.sweep position text).map fun s => ⟨s.start, s.stop, String.ofList s.heap⟩ := by
  induction text using sweep_induction generalizing position with
  | nil =>
    rw [Delimiters.sweep_nil]
    rfl
  | char c rest outside ih =>
    rw [pieces_cons (flatHeapAtFront?_eq_none outside), Delimiters.sweep_cons position outside,
      spansFrom, ih]
  | opened rest next ih =>
    have flat := closed?_map_fst rest
    rw [next] at flat
    rw [pieces_opening_append flat.symm, spansFrom_map_char, sweep_open position next, ih]
  | closed heap behind next ih =>
    have flat := closed?_map_fst (heap ++ closing ++ behind)
    rw [next] at flat
    rw [pieces_written_append flat.symm, spansFrom, sweep_written position next, ih, List.map_cons]

/-! ### Bytes -/

section
open Utf8

theorem exists_encode_cons {pattern : List Char} (nonempty : pattern ≠ []) :
    ∃ first tail, encode pattern = first :: tail ∧ ¬ IsContinuation first := by
  cases pattern with
  | nil => contradiction
  | cons c pattern =>
    obtain ⟨first, tail, shape, boundary, _⟩ := encodeChar_spec c
    exact ⟨first, tail ++ encode pattern, by rw [encode_cons, shape, List.cons_append], boundary⟩

/-- A pattern stands in the bytes of a text where it stands in the text. -/
theorem cutPattern_encode {pattern : List Char} (nonempty : pattern ≠ []) (text : List Char) :
    Text.cutPattern (encode pattern) (encode text) =
      (Text.cutPattern pattern text).map fun (a, b) => (encode a, encode b) := by
  obtain ⟨p, ps, first, boundary⟩ := exists_encode_cons nonempty
  induction text with
  | nil =>
    have absent : Text.cutPattern pattern [] = none := by
      cases pattern with
      | nil => contradiction
      | cons => rfl
    rw [absent, first]
    rfl
  | cons c rest ih =>
    by_cases front : pattern <+: c :: rest
    · obtain ⟨behind, whole⟩ := front
      rw [← whole, encode_append, Text.cutPattern_pattern_append, Text.cutPattern_pattern_append]
      rfl
    · obtain ⟨b, tail, shape, _, inner⟩ := encodeChar_spec c
      have absent : p ∉ tail := fun member => boundary (inner p member)
      have outside : ¬ encode pattern <+: b :: (tail ++ encode rest) := by
        rw [← List.cons_append, ← shape, ← encode_cons, encode_prefix_iff]
        exact front
      rw [Text.cutPattern_cons front, encode_cons, shape, List.cons_append,
        Text.cutPattern_cons outside, first, Text.cutPattern_append_of_notMem absent, ← first, ih,
        Option.map_map, Option.map_map, Option.map_map]
      congr 1
      funext cut
      simp [encode_cons, shape]

def byteDelimiters : Delimiters UInt8 where
  opening := encode opening
  closing := encode closing
  opens := by decide

theorem closed?_encode (text : List Char) :
    byteDelimiters.closed? (encode text) =
      (delimiters.closed? text).map fun (heap, behind) => (encode heap, encode behind) := by
  have closes := cutPattern_encode (show closing ≠ [] by decide) text
  have opens := cutPattern_encode (show opening ≠ [] by decide) text
  simp only [Delimiters.closed?, byteDelimiters, delimiters, closes, opens]
  cases closed : Text.cutPattern closing text with
  | none => rfl
  | some cut =>
    have before := Text.append_of_cutPattern closed
    rw [List.append_assoc] at before
    cases opened : Text.cutPattern opening text with
    | none => rfl
    | some inner =>
      have other := Text.append_of_cutPattern opened
      rw [List.append_assoc] at other
      simp only [Option.map_some, Option.filter_some, Option.all_some,
        length_encode_lt_iff before other]
      split <;> rfl

section
variable {c : Char} {heap behind rest : List Char} (position : Nat)

theorem sweep_encode_char (outside : ¬ opening <+: c :: rest) :
    byteDelimiters.sweep position (encode (c :: rest)) =
      byteDelimiters.sweep (position + (encodeChar c).length) (encode rest) := by
  obtain ⟨b, tail, shape, _, inner⟩ := encodeChar_spec c
  obtain ⟨p, ps, first, boundary⟩ := exists_encode_cons (show opening ≠ [] by decide)
  have absent : p ∉ tail := fun member => boundary (inner p member)
  have begins : ¬ byteDelimiters.opening <+: b :: (tail ++ encode rest) := by
    rw [← List.cons_append, ← shape, ← encode_cons]
    exact fun front => outside (encode_prefix_iff.mp front)
  rw [encode_cons, shape, List.cons_append, Delimiters.sweep_cons position begins,
    Delimiters.sweep_append_of_notMem _ first absent, List.length_cons, Nat.add_right_comm,
    Nat.add_assoc]

theorem sweep_encode_open (opened : delimiters.closed? rest = none) :
    byteDelimiters.sweep position (encode (opening ++ rest)) =
      byteDelimiters.sweep (position + (encode opening).length) (encode rest) := by
  have bytes := closed?_encode rest
  rw [opened] at bytes
  rw [encode_append]
  exact Delimiters.sweep_opening_open position bytes

theorem sweep_encode_written
    (closed : delimiters.closed? (heap ++ closing ++ behind) = some (heap, behind)) :
    byteDelimiters.sweep position (encode (written heap ++ behind)) =
      ⟨position, position + (encode (written heap)).length, encode heap⟩ ::
        byteDelimiters.sweep (position + (encode (written heap)).length) (encode behind) := by
  have bytes := closed?_encode (heap ++ closing ++ behind)
  rw [closed] at bytes
  have swept := Delimiters.sweep_opening_closed position bytes
  have shape : encode (written heap ++ behind) =
      encode opening ++ encode (heap ++ closing ++ behind) := by
    simp [written, encode_append]
  have whole : encode (written heap) = encode opening ++ encode heap ++ encode closing := by
    simp only [written, encode_append]
  rw [shape, whole]
  exact swept

end

/-- A span of a text as a span of its bytes. -/
def Span.encoded (s : Span Char) (text : List Char) : Span UInt8 where
  start := (encode (text.take s.start)).length
  stop := (encode (text.take s.stop)).length
  heap := encode s.heap

/-- A sweep over the bytes of a text finds what a sweep over its characters finds. -/
theorem sweep_encode (front text : List Char) :
    byteDelimiters.sweep (encode front).length (encode text) =
      (delimiters.sweep front.length text).map (·.encoded (front ++ text)) := by
  induction text using sweep_induction generalizing front with
  | nil =>
    rw [Delimiters.sweep_nil, List.map_nil]
    exact Delimiters.sweep_nil _
  | char c rest outside ih =>
    have later := ih (front ++ [c])
    rw [sweep_encode_char _ outside, Delimiters.sweep_cons _ outside]
    simpa [encode_append, encode] using later
  | opened rest next ih =>
    have later := ih (front ++ opening)
    rw [sweep_encode_open _ next, sweep_open _ next]
    simpa only [encode_append, List.length_append, List.append_assoc] using later
  | closed heap behind next ih =>
    have later := ih (front ++ written heap)
    have before : (front ++ (written heap ++ behind)).take front.length = front := List.take_left
    have through : (front ++ (written heap ++ behind)).take (front.length + (written heap).length) =
        front ++ written heap := by
      rw [← List.append_assoc, ← List.length_append, List.take_left]
    rw [sweep_encode_written _ next, sweep_written _ next, List.map_cons, Span.encoded, before,
      through]
    simpa only [encode_append, List.length_append, List.append_assoc, List.cons.injEq, true_and]
      using later

/-- The place and the heap of a placeholder in the bytes of its text. -/
def encoded (p : Placeholder) (text : List Char) : Span UInt8 where
  start := (p.byteSpan text).1
  stop := (p.byteSpan text).2
  heap := utf8 p.heap

theorem length_encode_take_le (text : List Char) {i j : Nat} (order : i ≤ j) :
    (encode (text.take i)).length ≤ (encode (text.take j)).length := by
  obtain ⟨rest, whole⟩ := List.take_prefix_take_left (l := text) order
  rw [← whole, encode_append, List.length_append]
  omega

end

/-! ### The spans that are found -/

theorem le_start_of_mem_spansFrom {position : Nat} {ps : List Piece} {p : Placeholder}
    (found : p ∈ spansFrom position ps) : position ≤ p.start := by
  induction ps generalizing position with
  | nil => exact absurd found List.not_mem_nil
  | cons piece rest ih =>
    cases piece with
    | char c => exact Nat.le_of_succ_le (ih found)
    | placeholder heap =>
      obtain rfl | later := List.mem_cons.mp found
      · exact Nat.le_refl _
      · exact Nat.le_trans (Nat.le_add_right _ _) (ih later)

theorem pairwise_spansFrom (position : Nat) (ps : List Piece) :
    (spansFrom position ps).Pairwise fun p q => p.stop ≤ q.start := by
  induction ps generalizing position with
  | nil => exact .nil
  | cons piece rest ih =>
    cases piece with
    | char c => exact ih (position + 1)
    | placeholder heap =>
      exact List.pairwise_cons.mpr ⟨fun q later => le_start_of_mem_spansFrom later, ih _⟩

/-- A span is where the pieces before its placeholder end. -/
theorem exists_of_mem_spansFrom {position : Nat} {ps : List Piece} {p : Placeholder}
    (found : p ∈ spansFrom position ps) :
    ∃ front heap back, ps = front ++ .placeholder heap :: back ∧
      p = ⟨position + (front.flatMap Piece.text).length,
        position + (front.flatMap Piece.text).length + (written heap).length,
        String.ofList heap⟩ := by
  induction ps generalizing position with
  | nil => exact absurd found List.not_mem_nil
  | cons piece rest ih =>
    have later : ∀ next, next = position + piece.text.length → p ∈ spansFrom next rest →
        ∃ front heap back, piece :: rest = front ++ .placeholder heap :: back ∧
          p = ⟨position + (front.flatMap Piece.text).length,
            position + (front.flatMap Piece.text).length + (written heap).length,
            String.ofList heap⟩ := by
      rintro _ rfl found
      obtain ⟨front, heap, back, rfl, same⟩ := ih found
      refine ⟨piece :: front, heap, back, rfl, ?_⟩
      rw [List.flatMap_cons, List.length_append, ← Nat.add_assoc, same]
    cases piece with
    | char c => exact later _ rfl found
    | placeholder heap =>
      obtain rfl | behind := List.mem_cons.mp found
      · exact ⟨[], heap, rest, rfl, rfl⟩
      · exact later _ rfl behind

theorem flat_of_mem_pieces {text heap : List Char} (found : .placeholder heap ∈ pieces text) :
    ¬ opening <:+: heap ∧ ¬ closing <:+: heap := by
  induction text using reading_induction with
  | nil => exact absurd found List.not_mem_nil
  | char c rest outside ih =>
    rw [pieces_cons outside] at found
    obtain same | later := List.mem_cons.mp found
    · contradiction
    · exact ih later
  | placeholder first rest read ih =>
    rw [pieces_written_append read] at found
    obtain same | later := List.mem_cons.mp found
    · obtain rfl := Piece.placeholder.inj same
      exact (flatHeap?_eq_some_iff.mp read).2
    · exact ih later

/-- An opening that the next delimiter closes is reported, unless it lies inside a span on its
left. -/
theorem mem_spansFrom_of_flat (position : Nat) {before heap after : List Char}
    (unopened : ¬ opening <:+: heap) (unclosed : ¬ closing <:+: heap) (text : List Char)
    (whole : text = before ++ written heap ++ after)
    (free : ∀ p ∈ spansFrom position (pieces text), p.start < position + before.length →
      p.stop ≤ position + before.length) :
    ⟨position + before.length, position + before.length + (written heap).length,
      String.ofList heap⟩ ∈ spansFrom position (pieces text) := by
  have front : ∀ rest, flatHeapAtFront? (written heap ++ rest) = some heap := fun rest =>
    flatHeapAtFront?_eq_some_iff.mpr ⟨⟨rest, rfl⟩, unopened, unclosed⟩
  induction text using reading_induction generalizing position before with
  | nil => simp [written, opening_eq] at whole
  | char c rest outside ih =>
    rw [pieces_cons outside, spansFrom] at free ⊢
    cases before with
    | nil =>
      rw [whole, List.nil_append, front] at outside
      contradiction
    | cons d before =>
      have same : position + (d :: before).length = position + 1 + before.length := by
        rw [List.length_cons]
        omega
      rw [same] at free ⊢
      exact ih (position + 1) (List.cons.inj whole).2 free
  | placeholder first rest read ih =>
    rw [pieces_written_append read, spansFrom] at free ⊢
    cases before with
    | nil =>
      have begins : flatHeapAtFront? (written first ++ rest) = some first :=
        flatHeapAtFront?_eq_some_iff.mpr ⟨⟨rest, rfl⟩, (flatHeap?_eq_some_iff.mp read).2⟩
      rw [whole, List.nil_append, front] at begins
      obtain rfl := Option.some.inj begins
      exact List.mem_cons_self
    | cons d before =>
      have ended := free _ List.mem_cons_self (by simp)
      obtain ⟨inner, shape⟩ : written first <+: d :: before :=
        List.prefix_of_prefix_length_le ⟨rest, whole⟩ ⟨written heap ++ after, by simp⟩
          (Nat.le_of_add_le_add_left ended)
      have behind : rest = inner ++ written heap ++ after := by
        rw [← shape, List.append_assoc, List.append_assoc, ← List.append_assoc inner] at whole
        exact List.append_cancel_left whole
      have same : position + (d :: before).length =
          position + (written first).length + inner.length := by
        rw [← shape, List.length_append, Nat.add_assoc]
      rw [same] at free ⊢
      exact List.mem_cons_of_mem _
        (ih _ behind fun p later => free p (List.mem_cons_of_mem _ later))

/-- A reported placeholder stands in its text, with no other one in its heap. -/
theorem exists_of_mem_innermost {text : List Char} {p : Placeholder} (found : p ∈ innermost text) :
    ∃ before heap after, text = before ++ written heap ++ after ∧
      p = ⟨before.length, (before ++ written heap).length, String.ofList heap⟩ ∧
      ¬ opening <:+: heap ∧ ¬ closing <:+: heap := by
  rw [innermost_eq_spansFrom] at found
  obtain ⟨front, heap, back, cut, rfl⟩ := exists_of_mem_spansFrom found
  have among : .placeholder heap ∈ pieces text := by simp [cut]
  exact ⟨front.flatMap Piece.text, heap, back.flatMap Piece.text, append_of_pieces cut, by simp,
    flat_of_mem_pieces among⟩

theorem byteSpan_of_append {text before heap after : List Char}
    (whole : text = before ++ written heap ++ after) (name : String) :
    byteSpan ⟨before.length, (before ++ written heap).length, name⟩ text =
      ((Utf8.encode before).length, (Utf8.encode (before ++ written heap)).length) := by
  have start : text.take before.length = before := by
    rw [whole, List.append_assoc, List.take_left]
  have stop : text.take (before ++ written heap).length = before ++ written heap := by
    rw [whole, List.take_left]
  rw [byteSpan, start, stop]

/-- Balancing finds what one sweep finds, in the text and in its bytes. The spans come one behind
the other, each is a written heap without delimiters, and every opening that the next delimiter
closes has one, unless it lies inside a span on its left. -/
theorem innermost_eq_sweep (text : List Char) :
    innermost text =
      ((delimiters.sweep 0 text).map fun s => ⟨s.start, s.stop, String.ofList s.heap⟩) ∧
    (innermost text).map (·.encoded text) = byteDelimiters.sweep 0 (Utf8.encode text) ∧
    (innermost text).Pairwise (fun p q =>
      p.stop ≤ q.start ∧ (p.byteSpan text).2 ≤ (q.byteSpan text).1) ∧
    (∀ p ∈ innermost text, ∃ before heap after,
      text = before ++ written heap ++ after ∧ p.heap = String.ofList heap ∧
      p.start = before.length ∧ p.stop = (before ++ written heap).length ∧
      p.byteSpan text =
        ((Utf8.encode before).length, (Utf8.encode (before ++ written heap)).length) ∧
      ¬ opening <:+: heap ∧ ¬ closing <:+: heap) ∧
    ∀ before heap after, text = before ++ written heap ++ after →
      ¬ opening <:+: heap → ¬ closing <:+: heap →
      (∀ p ∈ innermost text, p.start < before.length → p.stop ≤ before.length) →
      ⟨before.length, (before ++ written heap).length, String.ofList heap⟩ ∈ innermost text := by
  have swept : innermost text =
      (delimiters.sweep 0 text).map fun s => ⟨s.start, s.stop, String.ofList s.heap⟩ := by
    rw [innermost_eq_spansFrom, spansFrom_pieces_eq_sweep]
  refine ⟨swept, ?_, ?_, fun p found => ?_,
    fun before heap after whole unopened unclosed free => ?_⟩
  · have bytes := sweep_encode [] text
    rw [swept, List.map_map]
    refine Eq.trans ?_ bytes.symm
    refine List.map_congr_left fun s _ => ?_
    simp [encoded, Span.encoded, byteSpan, utf8]
  · rw [innermost_eq_spansFrom]
    exact (pairwise_spansFrom 0 _).imp fun order => ⟨order, length_encode_take_le text order⟩
  · obtain ⟨before, heap, after, whole, rfl, flat⟩ := exists_of_mem_innermost found
    exact ⟨before, heap, after, whole, rfl, rfl, rfl, byteSpan_of_append whole _, flat⟩
  · rw [innermost_eq_spansFrom] at free ⊢
    have found := mem_spansFrom_of_flat 0 unopened unclosed text whole (by simpa using free)
    simpa using found

/-- The second opening shares its percent sign with the first span, and the third one is free. -/
theorem innermost_shared_percent :
    ⟨14, 22, "ü"⟩ ∈ innermost "%env(a)%env(b)%env(ü)%".toList :=
  (innermost_eq_sweep "%env(a)%env(b)%env(ü)%".toList).2.2.2.2 "%env(a)%env(b)".toList ['ü'] []
    (by decide) (by decide) (by decide) (by decide)

end EnvTemplate.Placeholder
