import EnvTemplate.Proofs.Template.Mask
import EnvTemplate.Proofs.Template.Pass
/-! Placeholders nested to any depth. A row of items is written out as a text, and substitution
gives its structural value whenever the limit covers the height of its nesting. Every pass turns
the written row into the written row that is one level lower. -/
namespace EnvTemplate.Template
open Placeholder (Piece opening closing flatHeap? pieces)

/-- A row of items: literals, and placeholders whose heaps are such rows themselves. -/
inductive Nested
  | empty
  | literal (text : List Char) (rest : Nested)
  | placeholder (body rest : Nested)

namespace Nested

def written : Nested → List Char
  | .empty => []
  | .literal text rest => text ++ rest.written
  | .placeholder body rest => Placeholder.written body.written ++ rest.written

def height : Nested → Nat
  | .empty => 0
  | .literal _ rest => rest.height
  | .placeholder body rest => max (body.height + 1) rest.height

def BeginsWithPlaceholder : Nested → Prop
  | .placeholder _ _ => True
  | .empty | .literal _ _ => False

/-- Whether a row may stand right after a placeholder. -/
def FollowsPlaceholder : Nested → Prop
  | .empty => True
  | .literal text _ => text.head? ≠ some 'e'
  | .placeholder _ _ => False

/-- Rows whose written text shows where its items begin and end. -/
def Legible : Nested → Prop
  | .empty => True
  | .literal text rest =>
    text ≠ [] ∧ Plain text ∧ (rest.BeginsWithPlaceholder → text.getLast? ≠ some ')') ∧ rest.Legible
  | .placeholder body rest => body.Legible ∧ rest.FollowsPlaceholder ∧ rest.Legible

variable (resolve : Resolver) (render : Renderer)

/-- Literals as they are, and for a placeholder what is written for the value of its body. -/
def value : Nested → List Char
  | .empty => []
  | .literal text rest => text ++ rest.value
  | .placeholder body rest => rendered resolve render body.value ++ rest.value

/-- Every heap that is met in the first `limit` passes renders. -/
def Resolves (limit : Nat) : Nested → Prop
  | .empty => True
  | .literal _ rest => rest.Resolves limit
  | .placeholder body rest =>
    (body.height < limit → Renders resolve render (body.value resolve render)) ∧
      body.Resolves limit ∧ rest.Resolves limit

/-- The row with every innermost placeholder made a literal. -/
def lowered : Nested → Nested
  | .empty => .empty
  | .literal text rest => .literal text rest.lowered
  | .placeholder body rest =>
    if body.height = 0 then .literal (rendered resolve render body.written) rest.lowered
    else .placeholder body.lowered rest.lowered

def cut : Nested → List Piece
  | .empty => []
  | .literal text rest => text.map .char ++ rest.cut
  | .placeholder body rest =>
    if body.height = 0 then .placeholder body.written :: rest.cut
    else opening.map .char ++ (body.cut ++ (closing.map .char ++ rest.cut))

/-- What every pass keeps of a legible row. Literals may have become empty, so the neighbours of a
placeholder are told by the written text. -/
def Separated : Nested → Prop
  | .empty => True
  | .literal text rest =>
    Plain text ∧ (rest.written.head? = some '%' → text.getLast? ≠ some ')') ∧ rest.Separated
  | .placeholder body rest =>
    body.Separated ∧ rest.written.head? ≠ some '%' ∧ rest.written.head? ≠ some 'e' ∧ rest.Separated

-- what is read off a row goes by its cases, and so do the proofs
attribute [local simp] written height value lowered cut

theorem Legible.beginsWithPlaceholder {t : Nested} (legible : t.Legible)
    (percent : t.written.head? = some '%') : t.BeginsWithPlaceholder := by
  cases t with
  | empty => simp at percent
  | literal text rest =>
    obtain ⟨nonempty, plain, _⟩ := legible
    rw [written, List.head?_append_of_ne_nil _ nonempty] at percent
    exact absurd (List.mem_of_head? percent) plain.1
  | placeholder body rest => trivial

theorem Legible.separated {t : Nested} (legible : t.Legible) : t.Separated := by
  induction t with
  | empty => trivial
  | literal text rest ih =>
    obtain ⟨_, plain, apart, legible⟩ := legible
    exact ⟨plain, fun percent => apart (legible.beginsWithPlaceholder percent), ih legible⟩
  | placeholder body rest ihBody ihRest =>
    obtain ⟨inner, follows, legible⟩ := legible
    refine ⟨ihBody inner, ?_, ?_, ihRest legible⟩
    · intro percent
      have begins := legible.beginsWithPlaceholder percent
      cases rest with
      | empty | literal text rest => exact begins
      | placeholder body rest => exact follows
    · cases rest with
      | empty => simp
      | literal text rest =>
        rw [written, List.head?_append_of_ne_nil _ legible.1]
        exact follows
      | placeholder body rest => exact absurd follows id

/-! ### The pieces of a written row -/

theorem notMem_written {t : Nested} (separated : t.Separated) (flat : t.height = 0) :
    '%' ∉ t.written := by
  induction t with
  | empty => simp
  | literal text rest ih =>
    obtain ⟨plain, _, separated⟩ := separated
    simpa using ⟨plain.1, ih separated flat⟩
  | placeholder body rest _ _ => simp at flat

theorem written_ne_nil {t : Nested} (deep : t.height ≠ 0) : t.written ≠ [] := by
  induction t with
  | empty => exact absurd rfl deep
  | literal text rest ih => simp [ih deep]
  | placeholder body rest _ _ => simp [Placeholder.written, Placeholder.opening_eq]

/-- The next delimiter after an opening is another opening when placeholders stand between. -/
theorem flatHeap?_written_append {t : Nested} (separated : t.Separated) (deep : t.height ≠ 0)
    (rest : List Char) : flatHeap? (t.written ++ rest) = none := by
  induction t with
  | empty => simp at deep
  | literal text tail ih =>
    obtain ⟨plain, apart, separated⟩ := separated
    have read := ih separated deep
    have front : (tail.written ++ rest).head? = some '%' → text.getLast? ≠ some ')' := by
      rwa [List.head?_append_of_ne_nil tail.written (written_ne_nil deep)]
    rw [written, List.append_assoc, Placeholder.flatHeap?_append plain.1 front, read, Option.map_none]
  | placeholder body tail _ _ => rfl

theorem pieces_written_append {t : Nested} (separated : t.Separated) {rest : List Char}
    (follows : rest.head? ≠ some 'e') : pieces (t.written ++ rest) = t.cut ++ pieces rest := by
  induction t generalizing rest with
  | empty => rfl
  | literal text tail ih =>
    obtain ⟨plain, _, separated⟩ := separated
    rw [written, List.append_assoc, Placeholder.pieces_append_of_notMem plain.1, ih separated follows,
      cut, List.append_assoc]
  | placeholder body tail ihBody ihTail =>
    obtain ⟨inner, _, next, separated⟩ := separated
    rw [written, List.append_assoc, cut]
    split
    · rename_i flat
      rw [Placeholder.pieces_written_append
          (Placeholder.flatHeap?_heap (notMem_written inner flat) _),
        ihTail separated follows, List.cons_append]
    · rename_i deep
      have after : (tail.written ++ rest).head? ≠ some 'e' := by
        cases whole : tail.written with
        | nil => exact follows
        | cons c cs => simpa [whole] using next
      have unclosed := flatHeap?_written_append inner deep (closing ++ (tail.written ++ rest))
      rw [Placeholder.written, List.append_assoc, List.append_assoc,
        Placeholder.pieces_opening_append unclosed, ihBody inner (by simp [Placeholder.closing_eq]),
        Placeholder.pieces_closing_append after, ihTail separated follows]
      simp only [List.append_assoc]

theorem pieces_written {t : Nested} (separated : t.Separated) : pieces t.written = t.cut := by
  have whole := @pieces_written_append t separated [] (by simp)
  rwa [Placeholder.pieces_nil, List.append_nil, List.append_nil] at whole

theorem placeholder_mem_cut {t : Nested} (deep : t.height ≠ 0) :
    ∃ heap, .placeholder heap ∈ t.cut := by
  induction t with
  | empty => exact absurd rfl deep
  | literal text rest ih =>
    obtain ⟨heap, found⟩ := ih deep
    exact ⟨heap, List.mem_append_right _ found⟩
  | placeholder body rest ihBody _ =>
    rw [cut]
    split
    · exact ⟨body.written, List.mem_cons_self⟩
    · rename_i deep
      obtain ⟨heap, found⟩ := ihBody deep
      exact ⟨heap, List.mem_append_right _ (List.mem_append_left _ found)⟩

theorem placeholder_notMem_cut {t : Nested} (flat : t.height = 0) (heap : List Char) :
    .placeholder heap ∉ t.cut := by
  induction t with
  | empty => exact List.not_mem_nil
  | literal text rest ih => simpa using ih flat
  | placeholder body rest _ _ => simp at flat

/-! ### One level lower -/

variable {resolve render}

theorem value_eq_written {t : Nested} (flat : t.height = 0) :
    t.value resolve render = t.written := by
  induction t with
  | empty => rfl
  | literal text rest ih => rw [value, written, ih flat]
  | placeholder body rest _ _ => simp at flat

theorem height_lowered (t : Nested) : (t.lowered resolve render).height = t.height - 1 := by
  induction t with
  | empty => rfl
  | literal text rest ih => exact ih
  | placeholder body rest ihBody ihRest =>
    rw [lowered]
    split
    · rename_i flat
      simp only [height, flat, ihRest]
      omega
    · rename_i deep
      simp only [height, ihBody, ihRest]
      omega

theorem value_lowered (t : Nested) :
    (t.lowered resolve render).value resolve render = t.value resolve render := by
  induction t with
  | empty => rfl
  | literal text rest ih => rw [lowered, value, value, ih]
  | placeholder body rest ihBody ihRest =>
    rw [lowered]
    split
    · rename_i flat
      rw [value, value, ihRest, value_eq_written flat]
    · rw [value, value, ihBody, ihRest]

theorem Resolves.lowered {t : Nested} {limit : Nat}
    (resolves : t.Resolves resolve render (limit + 1)) :
    (t.lowered resolve render).Resolves resolve render limit := by
  induction t with
  | empty => trivial
  | literal text rest ih => exact ih resolves
  | placeholder body rest ihBody ihRest =>
    obtain ⟨renders, inner, resolves⟩ := resolves
    rw [Nested.lowered]
    split
    · exact ihRest resolves
    · rename_i deep
      refine ⟨fun low => ?_, ihBody inner, ihRest resolves⟩
      rw [height_lowered] at low
      rw [value_lowered]
      exact renders (by omega)

/-- Lowering changes no first character that is not a percent sign. -/
theorem head?_written_lowered {t : Nested} (separated : t.Separated)
    (plain : t.written.head? ≠ some '%') :
    (t.lowered resolve render).written.head? = t.written.head? := by
  induction t with
  | empty => rfl
  | literal text rest ih =>
    rw [lowered, written, written]
    cases text with
    | nil => exact ih separated.2.2 plain
    | cons c text => rfl
  | placeholder body rest _ _ => exact absurd rfl plain

theorem Separated.lowered {t : Nested} {limit : Nat} (separated : t.Separated)
    (resolves : t.Resolves resolve render (limit + 1)) :
    (t.lowered resolve render).Separated := by
  induction t with
  | empty => trivial
  | literal text rest ih =>
    obtain ⟨plain, apart, separated⟩ := separated
    refine ⟨plain, fun percent => ?_, ih separated resolves⟩
    by_cases kept : rest.written.head? = some '%'
    · exact apart kept
    · rw [head?_written_lowered separated kept] at percent
      exact absurd percent kept
  | placeholder body rest ihBody ihRest =>
    obtain ⟨inner, percent, letter, separated⟩ := separated
    obtain ⟨renders, resolvesInner, resolves⟩ := resolves
    have head : (rest.lowered resolve render).written.head? = rest.written.head? :=
      head?_written_lowered separated percent
    rw [Nested.lowered]
    split
    · rename_i flat
      have plain := (renders (by omega)).plain
      rw [value_eq_written flat] at plain
      exact ⟨plain, fun next => absurd (head ▸ next) percent, ihRest separated resolves⟩
    · exact ⟨ihBody inner resolvesInner, head ▸ percent, head ▸ letter, ihRest separated resolves⟩

/-- A pass over a written row gives the row that is one level lower. -/
theorem fill_cut {t : Nested} {limit : Nat} (resolves : t.Resolves resolve render (limit + 1)) :
    fill resolve render t.cut = .ok (t.lowered resolve render).written := by
  induction t with
  | empty => rfl
  | literal text rest ih =>
    rw [cut, fill_append, ih resolves, Except.bind, fill_map_char, Except.map]
    rfl
  | placeholder body rest ihBody ihRest =>
    obtain ⟨renders, inner, resolves⟩ := resolves
    rw [cut, lowered]
    split
    · rename_i flat
      have renders := renders (by omega)
      rw [value_eq_written flat] at renders
      rw [renders.fill_placeholder, ihRest resolves]
      rfl
    · simp only [fill_append, fill_map_char, ihBody inner, ihRest resolves, Except.bind, Except.map,
        written, Placeholder.written, List.append_assoc]

/-! ### Substitution -/

theorem passes_written_of_flat {t : Nested} (separated : t.Separated) (flat : t.height = 0)
    (limit allowed : Nat) :
    passes resolve render limit allowed t.written = .ok (t.value resolve render) := by
  rw [value_eq_written flat]
  apply passes_of_bare
  rw [pieces_written separated]
  exact placeholder_notMem_cut flat

theorem passes_written {t : Nested} {allowed : Nat} (separated : t.Separated)
    (resolves : t.Resolves resolve render allowed) (limit : Nat) :
    passes resolve render limit allowed t.written =
      if t.height ≤ allowed then .ok (t.value resolve render)
      else .error (.reported (.nestingDepthExceeded limit)) := by
  -- on the passes left: each of them lowers the row, and with it what the limit must cover
  induction allowed generalizing t with
  | zero =>
    by_cases flat : t.height = 0
    · rw [passes_written_of_flat separated flat, if_pos (by omega)]
    · obtain ⟨heap, found⟩ := placeholder_mem_cut flat
      rw [← pieces_written separated] at found
      rw [passes_zero resolve render limit found, if_neg (by omega)]
  | succ allowed ih =>
    by_cases flat : t.height = 0
    · rw [passes_written_of_flat separated flat, if_pos (by omega)]
    · obtain ⟨heap, found⟩ := placeholder_mem_cut flat
      rw [← pieces_written separated] at found
      have lower := ih (separated.lowered resolves) resolves.lowered
      rw [passes_succ resolve render limit allowed found, pieces_written separated,
        fill_cut resolves]
      refine lower.trans ?_
      rw [height_lowered, value_lowered]
      exact if_congr (by omega) rfl rfl

theorem mask_written_append {t : Nested} (separated : t.Separated) {rest : List Char}
    (single : rest.head? ≠ some '%') : mask (t.written ++ rest) = t.written ++ mask rest := by
  induction t generalizing rest with
  | empty => rfl
  | literal text tail ih =>
    obtain ⟨plain, _, separated⟩ := separated
    rw [written, List.append_assoc, mask_append_of_notMem plain.1, ih separated single,
      List.append_assoc]
  | placeholder body tail ihBody ihTail =>
    obtain ⟨inner, percent, _, separated⟩ := separated
    have after : (tail.written ++ rest).head? ≠ some '%' := by
      cases whole : tail.written with
      | nil => exact single
      | cons c cs => simpa [whole] using percent
    have paren : (closing ++ (tail.written ++ rest)).head? ≠ some '%' := by
      simp [Placeholder.closing_eq]
    rw [written, Placeholder.written]
    simp only [List.append_assoc]
    rw [mask_opening_append, ihBody inner paren, mask_closing_append after, ihTail separated single]

theorem nul_notMem_value {t : Nested} {limit : Nat} (separated : t.Separated)
    (resolves : t.Resolves resolve render limit) (within : t.height ≤ limit) :
    '\x00' ∉ t.value resolve render := by
  induction t with
  | empty => exact List.not_mem_nil
  | literal text rest ih =>
    obtain ⟨plain, _, separated⟩ := separated
    simpa using ⟨plain.2, ih separated resolves within⟩
  | placeholder body rest _ ih =>
    obtain ⟨_, _, _, separated⟩ := separated
    obtain ⟨renders, _, resolves⟩ := resolves
    simp only [height] at within
    have plain := (renders (by omega)).plain
    simpa using ⟨plain.2, ih separated resolves (by omega)⟩

end Nested

/-- Substitution evaluates a legible row structurally if the limit covers the height of its nesting,
and gives up at the limit otherwise. -/
theorem substitute_written {t : Nested} {resolve : Resolver} {render : Renderer} {limit : Nat}
    (legible : t.Legible) (resolves : t.Resolves resolve render limit) :
    substitute resolve render limit (String.ofList t.written) =
      if t.height ≤ limit then .ok (String.ofList (t.value resolve render))
      else .error (.reported (.nestingDepthExceeded limit)) := by
  have separated := legible.separated
  have masked := @Nested.mask_written_append t separated [] (by simp)
  rw [mask_nil, List.append_nil] at masked
  rw [substitute, String.toList_ofList, masked, Nested.passes_written separated resolves]
  split
  · rename_i within
    rw [Except.map, unmask_of_notMem (Nested.nul_notMem_value separated resolves within)]
  · rfl

/-- A row whose branches are nested to different heights. -/
def Nested.uneven : Nested :=
  .literal ['a'] (.placeholder
    (.literal ['x'] (.placeholder (.literal ['b'] .empty) (.literal ['-'] .empty)))
    (.literal ['c'] (.placeholder (.literal ['d'] .empty) .empty)))

/-- Gives the heaps that are met in it, and no others, a value. -/
def Nested.unevenResolver : Resolver := fun heap =>
  match heap.toList with
  | ['b'] => .ok (.string "e)")
  | ['x', 'e', ')', '-'] => .ok (.bool true)
  | ['d'] => .ok (.string "")
  | _ => emptyResolver heap

theorem substitute_written_uneven :
    Nested.uneven.Legible ∧ Nested.uneven.Resolves Nested.unevenResolver renderPlain 2 ∧
      Nested.uneven.Resolves Nested.unevenResolver renderPlain 1 ∧
      substitute Nested.unevenResolver renderPlain 2 "a%env(x%env(b)%-)%c%env(d)%" =
        .ok "atruec" ∧
      substitute Nested.unevenResolver renderPlain 1 "a%env(x%env(b)%-)%c%env(d)%" =
        .error (.reported (.nestingDepthExceeded 1)) := by
  have legible : Nested.uneven.Legible := by
    simp [Nested.uneven, Nested.Legible, Plain, Nested.BeginsWithPlaceholder,
      Nested.FollowsPlaceholder]
  have written : Nested.uneven.written = "a%env(x%env(b)%-)%c%env(d)%".toList := rfl
  have truth : (renderPlain (.bool true)).toList = ['t', 'r', 'u', 'e'] := by
    simp [renderPlain, Value.jsonText]
    decide
  have deep : Renders Nested.unevenResolver renderPlain ['b'] :=
    ⟨.string "e)", by simp [Nested.unevenResolver], by simp [renderPlain, Plain]⟩
  have outer : Renders Nested.unevenResolver renderPlain ['x', 'e', ')', '-'] :=
    ⟨.bool true, by simp [Nested.unevenResolver], by simp [Plain, truth]⟩
  have last : Renders Nested.unevenResolver renderPlain ['d'] :=
    ⟨.string "", by simp [Nested.unevenResolver], by simp [renderPlain, Plain]⟩
  have deepText : rendered Nested.unevenResolver renderPlain ['b'] = ['e', ')'] := by
    simp [rendered, Nested.unevenResolver, renderPlain]
  have resolves (limit : Nat) : Nested.uneven.Resolves Nested.unevenResolver renderPlain limit := by
    simp [Nested.uneven, Nested.Resolves, Nested.value, deep, deepText, outer, last]
  have value : Nested.uneven.value Nested.unevenResolver renderPlain = "atruec".toList := by
    have outerText : rendered Nested.unevenResolver renderPlain ['x', 'e', ')', '-'] =
        ['t', 'r', 'u', 'e'] := by simpa [rendered, Nested.unevenResolver] using truth
    have lastText : rendered Nested.unevenResolver renderPlain ['d'] = [] := by
      simp [rendered, Nested.unevenResolver, renderPlain]
    simp [Nested.uneven, Nested.value, deepText, outerText, lastText]
  have within := substitute_written legible (resolves 2)
  have beyond := substitute_written legible (resolves 1)
  rw [written, value, String.ofList_toList, String.ofList_toList] at within
  rw [written, String.ofList_toList] at beyond
  exact ⟨legible, resolves 2, resolves 1, within, beyond⟩

end EnvTemplate.Template
