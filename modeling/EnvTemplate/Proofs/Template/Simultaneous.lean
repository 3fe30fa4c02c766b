import EnvTemplate.Proofs.Placeholder.Sweep
import EnvTemplate.Proofs.Template.Limit
import Mathlib.Data.List.Forall2
/-! A pass as one substitution. Spans of a text are spliced from right to left into a text whose
length changes; since they come one behind the other, what stands to the left of the last one that
has been spliced is still the old text. So the gaps between the spans stay, and every span becomes
what is written for its heap. -/
namespace EnvTemplate.Template
open Placeholder

/-- What stands before, between and behind spans, from a position on. -/
def gaps (text : List Char) : (position : Nat) → List Placeholder → List (List Char)
  | position, [] => [text.drop position]
  | position, p :: rest => (text.take p.start).drop position :: gaps text p.stop rest

def interleave : (gaps inner : List (List Char)) → List Char
  | gap :: gaps, x :: inner => gap ++ x ++ interleave gaps inner
  | gaps, _ => gaps.flatten

/-- Spans that come one behind the other, between a position and a length. -/
def InRow (length : Nat) : (position : Nat) → List Placeholder → Prop
  | position, [] => position ≤ length
  | position, p :: rest => position ≤ p.start ∧ p.start ≤ p.stop ∧ InRow length p.stop rest

def Writes (resolve : Resolver) (render : Renderer) (p : Placeholder) (text : List Char) : Prop :=
  ∃ v, resolve p.heap = .ok v ∧ text = (render v).toList

section
variable {length position : Nat} {ps : List Placeholder}

theorem InRow.le (row : InRow length position ps) : position ≤ length := by
  induction ps generalizing position with
  | nil => exact row
  | cons p ps ih =>
    obtain ⟨before, order, row⟩ := row
    exact before.trans (order.trans (ih row))

theorem InRow.weaken (row : InRow length position ps) {earlier : Nat} (le : earlier ≤ position) :
    InRow length earlier ps := by
  cases ps with
  | nil => exact le.trans row
  | cons p ps =>
    obtain ⟨before, order, row⟩ := row
    exact ⟨le.trans before, order, row⟩

theorem InRow.append_right {front back : List Placeholder} {p : Placeholder}
    (row : InRow length position (front ++ p :: back)) :
    p.start ≤ p.stop ∧ InRow length p.stop back := by
  induction front generalizing position with
  | nil => exact row.2
  | cons q front ih => exact ih row.2.2

end

theorem inRow_spansFrom (ps : List Piece) {length position : Nat}
    (fits : position + (ps.flatMap Piece.text).length ≤ length) :
    InRow length position (spansFrom position ps) := by
  induction ps generalizing position with
  | nil => simpa [spansFrom, InRow] using fits
  | cons p ps ih =>
    rw [List.flatMap_cons, List.length_append, ← Nat.add_assoc] at fits
    cases p with
    | char c => exact (ih fits).weaken (Nat.le_succ position)
    | placeholder heap => exact ⟨Nat.le_refl _, Nat.le_add_right _ _, ih fits⟩

theorem inRow_innermost (text : List Char) : InRow text.length 0 (innermost text) := by
  rw [innermost_eq_spansFrom]
  refine inRow_spansFrom (pieces text) ?_
  rw [flatMap_text_pieces, Nat.zero_add]

theorem take_append_gap (text : List Char) {i j : Nat} (order : i ≤ j) :
    text.take i ++ (text.take j).drop i = text.take j := by
  have whole := List.take_append_drop i (text.take j)
  rwa [List.take_take, Nat.min_eq_left order] at whole

/-! ### The loop -/

section
variable (resolve : Resolver) (render : Renderer) (text : List Char)

theorem replacePass_cons (p : Placeholder) (ps : List Placeholder) :
    replacePass resolve render text (p :: ps) =
      (replacePass resolve render text ps).bind fun out =>
        (resolve p.heap).map fun v => splice out p (render v).toList := by
  rw [replacePass, List.foldrM_cons]
  rfl

variable {text} in
/-- A span is spliced where the old text still stands up to its end. -/
theorem splice_take_append {p : Placeholder} (order : p.start ≤ p.stop) (fits : p.stop ≤ text.length)
    (rendered behind : List Char) :
    splice (text.take p.stop ++ behind) p rendered = text.take p.start ++ rendered ++ behind := by
  have length : (text.take p.stop).length = p.stop := List.length_take_of_le fits
  rw [splice, List.take_append_of_le_length (length.symm ▸ order), List.take_take,
    Nat.min_eq_left order, List.drop_append_of_le_length (Nat.le_of_eq length.symm),
    List.drop_eq_nil_of_le (Nat.le_of_eq length), List.nil_append]

variable {resolve render text}

/-- The spans behind a position are spliced if and only if all their heaps have values. Then the text
before the position is the old one, and what is written for the heaps stands between the gaps. -/
theorem replacePass_eq_ok_iff {position : Nat} {ps : List Placeholder}
    (row : InRow text.length position ps) {out : List Char} :
    replacePass resolve render text ps = .ok out ↔
      ∃ inner, List.Forall₂ (Writes resolve render) ps inner ∧
        out = text.take position ++ interleave (gaps text position ps) inner := by
  induction ps generalizing position out with
  | nil =>
    have whole : text.take position ++ interleave (gaps text position []) [] = text := by
      simp [gaps, interleave]
    simp only [List.forall₂_nil_left_iff, exists_eq_left, whole]
    exact ⟨fun done => (Except.ok.inj done).symm, fun same => congrArg Except.ok same.symm⟩
  | cons p ps ih =>
    obtain ⟨before, order, row⟩ := row
    -- the spans behind `p` are spliced first and leave the text up to the end of `p` as it was
    have next (v : Value) (inner : List (List Char)) :
        splice (text.take p.stop ++ interleave (gaps text p.stop ps) inner) p (render v).toList =
          text.take position ++
            interleave (gaps text position (p :: ps)) ((render v).toList :: inner) := by
      rw [splice_take_append order row.le, gaps, interleave, ← List.append_assoc,
        ← List.append_assoc, take_append_gap text before]
    rw [replacePass_cons]
    constructor
    · intro done
      cases later : replacePass resolve render text ps with
      | error error => simp [later, Except.bind] at done
      | ok current =>
        obtain ⟨inner, each, rfl⟩ := (ih row).mp later
        cases value : resolve p.heap with
        | error error => simp [later, value, Except.bind, Except.map] at done
        | ok v =>
          have spliced : splice (text.take p.stop ++ interleave (gaps text p.stop ps) inner) p
              (render v).toList = out := by
            simpa [later, value, Except.bind, Except.map] using done
          exact ⟨(render v).toList :: inner, .cons ⟨v, value, rfl⟩ each,
            spliced.symm.trans (next v inner)⟩
    · rintro ⟨inner, each, rfl⟩
      obtain ⟨_, inner, ⟨v, value, rfl⟩, later, rfl⟩ := List.forall₂_cons_left_iff.mp each
      rw [(ih row).mpr ⟨inner, later, rfl⟩, value, ← next v inner]
      rfl

theorem exists_replacePass_iff {ps : List Placeholder} :
    (∃ out, replacePass resolve render text ps = .ok out) ↔
      ∀ p ∈ ps, ∃ v, resolve p.heap = .ok v := by
  induction ps with
  | nil => exact ⟨fun _ p found => absurd found List.not_mem_nil, fun _ => ⟨text, rfl⟩⟩
  | cons p ps ih =>
    rw [List.forall_mem_cons, ← ih, replacePass_cons]
    constructor
    · rintro ⟨out, done⟩
      cases later : replacePass resolve render text ps with
      | error error => simp [later, Except.bind] at done
      | ok current =>
        cases value : resolve p.heap with
        | error error => simp [later, value, Except.bind, Except.map] at done
        | ok v => exact ⟨⟨v, rfl⟩, current, rfl⟩
    · rintro ⟨⟨v, value⟩, current, later⟩
      rw [later, value]
      exact ⟨_, rfl⟩

/-- Of several heaps without a value the rightmost one gives the failure. -/
theorem replacePass_eq_error_iff {ps : List Placeholder} {failure : Failure} :
    replacePass resolve render text ps = .error failure ↔
      ∃ front p back, ps = front ++ p :: back ∧ (∀ q ∈ back, ∃ v, resolve q.heap = .ok v) ∧
        resolve p.heap = .error failure := by
  induction ps with
  | nil => simp [replacePass, pure, Except.pure]
  | cons p ps ih =>
    rw [replacePass_cons]
    constructor
    · intro failed
      cases later : replacePass resolve render text ps with
      | error error =>
        obtain rfl : error = failure := by simpa [later, Except.bind] using failed
        obtain ⟨front, q, back, rfl, resolved, unresolved⟩ := ih.mp later
        exact ⟨p :: front, q, back, rfl, resolved, unresolved⟩
      | ok current =>
        refine ⟨[], p, ps, rfl, exists_replacePass_iff.mp ⟨current, later⟩, ?_⟩
        cases value : resolve p.heap with
        | error error => simpa [later, value, Except.bind, Except.map] using failed
        | ok v => simp [later, value, Except.bind, Except.map] at failed
    · rintro ⟨front, q, back, shape, resolved, unresolved⟩
      cases front with
      | nil =>
        obtain ⟨rfl, rfl⟩ := List.cons.inj shape
        obtain ⟨current, later⟩ := exists_replacePass_iff.mpr resolved
        rw [later, unresolved]
        rfl
      | cons first front =>
        obtain ⟨rfl, rfl⟩ := List.cons.inj shape
        rw [ih.mpr ⟨front, q, back, rfl, resolved, unresolved⟩]
        rfl

end

/-! ### The spans of a pass -/

/-- A number of bytes after which a character of a text begins, or its end. -/
def IsBoundary (text : List Char) (offset : Nat) : Prop :=
  ∃ front back, text = front ++ back ∧ offset = (Utf8.encode front).length

/-- The place that a placeholder has in the bytes of a text is still its place in another one: it begins
and ends with a character there, its bytes are the same, and exchanging them splices the text. -/
structure StillStands (p : Placeholder) (text current : List Char) : Prop where
  start : IsBoundary current (p.byteSpan text).1
  stop : IsBoundary current (p.byteSpan text).2
  written : ∃ before after, current = before ++ Placeholder.written p.heap.toList ++ after ∧
    p.byteSpan text = ((Utf8.encode before).length,
      (Utf8.encode (before ++ Placeholder.written p.heap.toList)).length)
  splice : ∀ rendered, Utf8.encode (splice current p rendered) =
    (Utf8.encode current).take (p.byteSpan text).1 ++ Utf8.encode rendered ++
      (Utf8.encode current).drop (p.byteSpan text).2

section
variable {resolve : Resolver} {render : Renderer} {text : List Char}

/-- What stands up to the end of a span is the old text when the span is spliced. -/
theorem exists_append_of_replacePass {front back : List Placeholder} {p : Placeholder}
    (found : innermost text = front ++ p :: back) {current : List Char}
    (made : replacePass resolve render text back = .ok current) :
    ∃ behind, current = text.take p.stop ++ behind := by
  have row := inRow_innermost text
  rw [found] at row
  obtain ⟨inner, _, same⟩ := (replacePass_eq_ok_iff row.append_right.2).mp made
  exact ⟨_, same⟩

/-- What stands between the start and the end of its span is the placeholder itself. -/
theorem slice_innermost {p : Placeholder} (found : p ∈ innermost text) :
    (text.take p.stop).drop p.start = written p.heap.toList := by
  obtain ⟨before, heap, after, whole, rfl, _⟩ := exists_of_mem_innermost found
  have front : text.take (before ++ written heap).length = before ++ written heap := by
    rw [whole, List.take_left]
  rw [front, List.drop_left, String.toList_ofList]

/-- Splicing is an exchange of bytes. -/
theorem encode_splice (before middle after rendered : List Char) (name : String) :
    Utf8.encode (splice (before ++ middle ++ after)
        ⟨before.length, (before ++ middle).length, name⟩ rendered) =
      (Utf8.encode (before ++ middle ++ after)).take (Utf8.encode before).length ++
        Utf8.encode rendered ++
        (Utf8.encode (before ++ middle ++ after)).drop (Utf8.encode (before ++ middle)).length := by
  have front : (before ++ middle ++ after).take before.length = before := by
    rw [List.append_assoc, List.take_left]
  have frontBytes : (Utf8.encode (before ++ middle ++ after)).take (Utf8.encode before).length =
      Utf8.encode before := by
    rw [List.append_assoc, Utf8.encode_append, List.take_left]
  have backBytes : (Utf8.encode (before ++ middle ++ after)).drop
      (Utf8.encode (before ++ middle)).length = Utf8.encode after := by
    rw [Utf8.encode_append (before ++ middle), List.drop_left]
  rw [splice, front, List.drop_left, frontBytes, backBytes, Utf8.encode_append, Utf8.encode_append]

theorem stillStands {front back : List Placeholder} {p : Placeholder}
    (found : innermost text = front ++ p :: back) {current : List Char}
    (made : replacePass resolve render text back = .ok current) : StillStands p text current := by
  obtain ⟨behind, same⟩ := exists_append_of_replacePass found made
  have among : p ∈ innermost text := by simp [found]
  obtain ⟨before, heap, after, whole, rfl, _⟩ := exists_of_mem_innermost among
  have place := byteSpan_of_append whole (String.ofList heap)
  have front : text.take (before ++ written heap).length = before ++ written heap := by
    rw [whole, List.take_left]
  rw [front] at same
  subst same
  refine ⟨?_, ?_, ⟨before, behind, ?_, ?_⟩, fun rendered => ?_⟩
  · exact ⟨before, written heap ++ behind, by rw [List.append_assoc], congrArg Prod.fst place⟩
  · exact ⟨before ++ written heap, behind, rfl, congrArg Prod.snd place⟩
  · rw [String.toList_ofList]
  · rw [String.toList_ofList, place]
  · rw [place]
    exact encode_splice before (written heap) behind rendered (String.ofList heap)

theorem interleave_slices {position : Nat} {ps : List Placeholder}
    (row : InRow text.length position ps) {slice : Placeholder → List Char}
    (slices : ∀ p ∈ ps, (text.take p.stop).drop p.start = slice p) :
    interleave (gaps text position ps) (ps.map slice) = text.drop position := by
  induction ps generalizing position with
  | nil => simp [gaps, interleave]
  | cons p ps ih =>
    obtain ⟨before, order, row⟩ := row
    obtain ⟨first, later⟩ := List.forall_mem_cons.mp slices
    have whole : text.take position ++ ((text.take p.start).drop position ++ slice p ++
        text.drop p.stop) = text.take position ++ text.drop position := by
      rw [← List.append_assoc, ← List.append_assoc, take_append_gap text before, ← first,
        take_append_gap text order, List.take_append_drop, List.take_append_drop]
    rw [gaps, List.map_cons, interleave, ih row later]
    exact List.append_cancel_left whole

/-- With the placeholders themselves between the gaps it is the text again. -/
theorem interleave_written (text : List Char) :
    interleave (gaps text 0 (innermost text))
      ((innermost text).map fun p => written p.heap.toList) = text :=
  interleave_slices (inRow_innermost text) fun _ found => slice_innermost found

end

/-- A pass replaces all placeholders that are found at once: the loop from right to left gives the gaps
of the text with what is written for each heap between them, if and only if all heaps have values.
The place of every placeholder is still its place when the loop comes to it. Substitution fails with
the failure of the rightmost placeholder without a value in the first pass that has one, and in no
other way but at its limit. -/
theorem replacePass_simultaneous (resolve : Resolver) (render : Renderer) :
    (∀ text : List Char,
      interleave (gaps text 0 (innermost text))
        ((innermost text).map fun p => written p.heap.toList) = text ∧
      (∀ out, replacePass resolve render text (innermost text) = .ok out ↔
        ∃ inner, List.Forall₂ (Writes resolve render) (innermost text) inner ∧
          out = interleave (gaps text 0 (innermost text)) inner) ∧
      ∀ front p back current, innermost text = front ++ p :: back →
        replacePass resolve render text back = .ok current → StillStands p text current) ∧
    ∀ limit text failure, substitute resolve render limit text = .error failure ↔
      (∃ n last, n < limit ∧ Rewritings resolve render n (mask text.toList) last ∧
        ∃ front p back, innermost last = front ++ p :: back ∧
          (∀ q ∈ back, ∃ v, resolve q.heap = .ok v) ∧ resolve p.heap = .error failure) ∨
      failure = .reported (.nestingDepthExceeded limit) ∧
        ∃ last, Rewritings resolve render limit (mask text.toList) last ∧ Open last := by
  refine ⟨fun text => ⟨interleave_written text, fun out => ?_, fun front p back current found made =>
    stillStands found made⟩, fun limit text failure => ?_⟩
  · exact replacePass_eq_ok_iff (inRow_innermost text)
  · rw [substitute_eq_error_iff]
    simp only [replacePass_eq_error_iff, Exhausts]

/-- Gives one heap a value that opens a placeholder, another one nothing, and others no value. -/
def unevenResolver : Resolver := fun heap =>
  if heap = "a" then .ok (.string "%env(ä")
  else if heap = "b" then .ok (.string "")
  else emptyResolver heap

/-- The second placeholder is replaced by nothing before the first one grows, and of two heaps without
a value the right one is named. -/
theorem replacePass_uneven :
    innermost "é%env(a)%ü%env(b)%".toList = [⟨1, 9, "a"⟩, ⟨10, 18, "b"⟩] ∧
    StillStands ⟨1, 9, "a"⟩ "é%env(a)%ü%env(b)%".toList "é%env(a)%ü".toList ∧
    replacePass unevenResolver renderPlain "é%env(a)%ü%env(b)%".toList
      (innermost "é%env(a)%ü%env(b)%".toList) = .ok "é%env(äü".toList ∧
    substitute unevenResolver renderPlain 1 "%env(c)%-%env(d)%-%env(a)%" =
      .error (.reported (.undefinedReference .environmentVariable "d" "d")) := by
  obtain ⟨pass, failure⟩ := replacePass_simultaneous unevenResolver renderPlain
  obtain ⟨_, gives, stands⟩ := pass "é%env(a)%ü%env(b)%".toList
  have found : innermost "é%env(a)%ü%env(b)%".toList = [⟨1, 9, "a"⟩, ⟨10, 18, "b"⟩] := by decide
  have single : mask "%env(c)%-%env(d)%-%env(a)%".toList = "%env(c)%-%env(d)%-%env(a)%".toList := by
    decide
  refine ⟨found, stands [] _ [_] _ found rfl, (gives _).mpr ?_, (failure 1 _ _).mpr ?_⟩
  · rw [found]
    exact ⟨["%env(ä".toList, []], .cons ⟨_, rfl, rfl⟩ (.cons ⟨_, rfl, rfl⟩ .nil), rfl⟩
  · rw [single]
    refine Or.inl ⟨0, _, by decide, .none _, [⟨0, 8, "c"⟩], ⟨9, 17, "d"⟩, [⟨18, 26, "a"⟩], by decide, ?_, rfl⟩
    simp [unevenResolver]

end EnvTemplate.Template
