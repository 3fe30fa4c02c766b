import EnvTemplate.Proofs.Text.Pattern
import EnvTemplate.Url.Domain
/-! Delimiters in domain names. Whatever the other characters of a name are mapped to, composed with or
encoded as, a delimiter of URLs stays where it stands; so a name that holds one is refused. -/
namespace EnvTemplate

/-! ### Composition -/

namespace Unicode

variable {c : Char}

theorem toNat_lt_of_not_takesMarks (alone : takesMarks c = false) : c.toNat < 0x80 := by
  simp only [takesMarks, Bool.or_eq_false_iff, decide_eq_false_iff_not] at alone
  omega

theorem decomposition_of_lt (low : c.toNat < 0xC0) (depth : Nat) : decomposition depth c = [c] := by
  cases depth with
  | zero => rfl
  | succ depth => rw [decomposition, decompose?, if_pos low]

theorem mem_orderMarks {text : List Char} : c ∈ orderMarks text ↔ c ∈ text := by
  have parts : c ∈ (text.foldr orderMarks.step ([], [])).1 ++ (text.foldr orderMarks.step ([], [])).2 ↔
      c ∈ text := by
    induction text with
    | nil => rfl
    | cons d text ih =>
      rw [List.foldr_cons, List.mem_cons, ← ih, orderMarks.step]
      split
      · simp only [List.nil_append, List.mem_cons, List.mem_append, orderMarks.sorted,
          List.mem_mergeSort]
      · simp only [List.cons_append, List.mem_cons]
  rw [← parts, orderMarks, List.mem_append, List.mem_append, orderMarks.sorted, List.mem_mergeSort]

/-- Composing one more character keeps those that have no composites. -/
theorem Composing.mem_text_push (alone : takesMarks c = false) {s : Composing} {d : Char}
    (member : c ∈ s.text ∨ c = d) : c ∈ (s.push d).text := by
  have plain : ∀ pushed : Composing, pushed.text = s.text ++ [d] → c ∈ pushed.text := by
    intro pushed shape
    rw [shape, List.mem_append, List.mem_singleton]
    exact member
  rw [push]
  split
  · rename_i composite made
    split at made
    · contradiction
    · obtain ⟨b, base, made⟩ := Option.bind_eq_some_iff.mp made
      rw [compose?] at made
      split at made
      · contradiction
      · rename_i composes
        simp only [Bool.or_eq_true, Bool.not_eq_true', decide_eq_true_eq, not_or,
          Bool.not_eq_false] at composes
        have notBase : c ≠ b := by
          rintro rfl
          exact absurd composes.1 (Bool.eq_false_iff.mp alone)
        have notMark : c ≠ d := by
          rintro rfl
          have low := toNat_lt_of_not_takesMarks alone
          omega
        have inside := member.resolve_right notMark
        simp only [text, base, Option.toList_some, List.mem_append, List.mem_singleton] at inside ⊢
        exact inside.imp_left (Or.imp_right fun same => absurd same notBase)
  · split
    · exact plain _ (by simp [text])
    · exact plain _ (by simp [text])

theorem mem_compose (alone : takesMarks c = false) {text : List Char} (member : c ∈ text) :
    c ∈ compose text := by
  have low := toNat_lt_of_not_takesMarks alone
  have ordered : c ∈ orderMarks (text.flatMap (decomposition 4)) := by
    rw [mem_orderMarks, List.mem_flatMap]
    exact ⟨c, member, by rw [decomposition_of_lt (by omega)]; exact List.mem_cons_self⟩
  have kept : ∀ (parts : List Char) (s : Composing), c ∈ s.text ∨ c ∈ parts →
      c ∈ (parts.foldl Composing.push s).text := by
    intro parts
    induction parts with
    | nil => exact fun s member => member.resolve_right List.not_mem_nil
    | cons d parts ih =>
      intro s member
      refine ih _ ?_
      obtain inside | first | later : c ∈ s.text ∨ c = d ∨ c ∈ parts := by
        simpa using member
      · exact .inl (Composing.mem_text_push alone (.inl inside))
      · exact .inl (Composing.mem_text_push alone (.inr first))
      · exact .inr later
  exact kept _ _ (.inr ordered)

end Unicode

/-- What a member becomes is among what all members become. -/
theorem exists_mem_of_mapM {α β : Type} {f : α → Option β} {xs : List α} {ys : List β}
    (all : xs.mapM f = some ys) {x : α} (member : x ∈ xs) : ∃ y ∈ ys, f x = some y := by
  induction xs generalizing ys with
  | nil => contradiction
  | cons first rest ih =>
    simp only [List.mapM_cons, Option.bind_eq_bind, Option.bind_eq_some_iff, Option.pure_def,
      Option.some.injEq] at all
    obtain ⟨y, read, others, later, rfl⟩ := all
    obtain rfl | member := List.mem_cons.mp member
    · exact ⟨y, List.mem_cons_self, read⟩
    · obtain ⟨z, inside, same⟩ := ih later member
      exact ⟨z, List.mem_cons_of_mem _ inside, same⟩

/-! ### Encoding -/

namespace Punycode

theorem output_prefix_pass (basic n : Nat) (label : List Char) (e : Encoder) :
    e.output <+: (e.pass basic n label).output := by
  induction label generalizing e with
  | nil => exact List.prefix_rfl
  | cons c label ih =>
    refine List.IsPrefix.trans ?_ (ih _)
    dsimp only
    split
    · exact List.prefix_rfl
    · split
      · exact List.prefix_append _ _
      · exact List.prefix_rfl

theorem output_prefix_foldl_advance (basic : Nat) (label : List Char) (others : List Nat)
    (state : Encoder × Nat) :
    state.1.output <+: (others.foldl (Encoder.advance basic label) state).1.output := by
  induction others generalizing state with
  | nil => exact List.prefix_rfl
  | cons n others ih =>
    refine List.IsPrefix.trans ?_ (ih _)
    exact output_prefix_pass basic n label
      { state.1 with delta := state.1.delta + (n - state.2) * (state.1.placed + 1) }

/-- The ASCII characters of a label stand in front of its encoding. -/
theorem mem_encode {c : Char} (ascii : c.toNat < 128) {label : List Char} (member : c ∈ label) :
    c ∈ encode label := by
  have basic : c ∈ label.filter (·.toNat < 128) :=
    List.mem_filter.mpr ⟨member, decide_eq_true ascii⟩
  refine (output_prefix_foldl_advance _ label _ (_, 128)).subset ?_
  dsimp only
  rw [List.isEmpty_eq_false_iff.mpr (List.ne_nil_of_mem basic), if_neg Bool.false_ne_true,
    List.mem_append]
  exact .inl basic

end Punycode

/-! ### Names -/

open Unicode (takesMarks toNat_lt_of_not_takesMarks)

section
variable {c : Char} (alone : takesMarks c = false)
include alone

theorem toLower_of_not_takesMarks : c.toLower = c := by
  delta takesMarks Char.isAlpha Char.isUpper at alone
  simp only [Bool.or_eq_false_iff, decide_eq_false_iff_not] at alone
  exact dif_neg alone.1.1.1.2.1

theorem Idna.mem_normalize? {text mapped : List Char} (normal : normalize? text = some mapped)
    (member : c ∈ text) : c ∈ mapped := by
  obtain ⟨parts, all, rfl⟩ := Option.map_eq_some_iff.mp normal
  obtain ⟨part, inside, same⟩ := exists_mem_of_mapM all member
  rw [mapChar?, if_pos (toNat_lt_of_not_takesMarks alone), toLower_of_not_takesMarks alone] at same
  obtain rfl := Option.some.inj same
  exact Unicode.mem_compose alone (List.mem_flatten.mpr ⟨_, inside, List.mem_cons_self⟩)

namespace Domain

theorem mem_ascii_of_read? {label : List Char} {l : Label} (read : Label.read? label = some l)
    (member : c ∈ label) : c ∈ l.ascii := by
  rw [Label.read?] at read
  split at read
  · dsimp only at read
    split at read
    · obtain ⟨meaning, _, valid⟩ := Option.bind_eq_some_iff.mp read
      split at valid
      · obtain rfl := Option.some.inj valid
        exact member
      · contradiction
    · contradiction
  · split at read
    · obtain rfl := Option.some.inj read
      exact member
    · split at read
      · obtain rfl := Option.some.inj read
        refine List.mem_append_right _ (Punycode.mem_encode ?_ member)
        exact toNat_lt_of_not_takesMarks alone
      · contradiction

theorem mem_of_encoded? (notStop : c ≠ '.') {domain ascii : List Char}
    (encoded : encoded? domain = some ascii) (member : c ∈ domain) : c ∈ ascii := by
  obtain ⟨normal, normalized, encoded⟩ := Option.bind_eq_some_iff.mp encoded
  obtain ⟨labels, read, joined⟩ := Option.bind_eq_some_iff.mp encoded
  dsimp only at joined
  split at joined
  · contradiction
  · obtain rfl := Option.some.inj joined
    have inside := Idna.mem_normalize? alone normalized member
    have whole : ['.'].intercalate (normal.splitOn '.') = normal := List.intercalate_splitOn '.'
    rw [← whole] at inside
    obtain stop | ⟨label, present, inside⟩ := Text.mem_of_mem_intercalate inside
    · exact absurd (List.mem_singleton.mp stop) notStop
    · obtain ⟨l, listed, same⟩ := exists_mem_of_mapM read present
      have part : l.ascii ∈ labels.map Label.ascii := List.mem_map_of_mem listed
      exact (Text.infix_intercalate_of_mem part).subset (mem_ascii_of_read? alone same inside)

/-- A domain name in its ASCII form had no delimiter in any form. -/
theorem isForbidden_of_mem {domain ascii : List Char} (normal : toAscii? domain = some ascii)
    (member : c ∈ domain) : isForbidden c = false := by
  by_cases notStop : c = '.'
  · rw [notStop]
    decide
  obtain ⟨name, inside, allowed⟩ : ∃ name, c ∈ name ∧
      (if name.any isForbidden then none else some name) = some ascii := by
    rw [toAscii?] at normal
    split at normal
    · exact ⟨_, List.mem_map.mpr ⟨c, member, toLower_of_not_takesMarks alone⟩, normal⟩
    · obtain ⟨name, encoded, allowed⟩ := Option.bind_eq_some_iff.mp normal
      exact ⟨name, mem_of_encoded? alone notStop encoded member, allowed⟩
  split at allowed
  · contradiction
  · rename_i clean
    rw [List.any_eq_true, not_exists] at clean
    exact Bool.eq_false_iff.mpr fun forbidden => clean c ⟨inside, forbidden⟩

end Domain

end

end EnvTemplate
