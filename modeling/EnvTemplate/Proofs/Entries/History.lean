import EnvTemplate.Proofs.Entries
import Mathlib.Data.List.Induction
/-! Mappings that a row of insertions builds. The keys stand in the order in which they first came. Of
pairs that are stored one after the other the last value of a key counts, at the place of its first.
Where a new value is made of the one that is there, and can fail to be made, the value of a key and
whether it can be made depend on the items of this key alone. -/
namespace EnvTemplate.Entries

variable {α β : Type}

/-! ### First occurrences -/

theorem eraseDups_concat (names : List String) (name : String) :
    (names ++ [name]).eraseDups =
      if name ∈ names then names.eraseDups else names.eraseDups ++ [name] := by
  rw [List.eraseDups_append]
  split
  · rename_i member
    simp [List.removeAll, member]
  · rename_i new
    simp [List.removeAll, new, List.eraseDups_cons]

/-- Without repetitions the members of a list stand in the order in which they first came. -/
theorem pairwise_idxOf_eraseDups (names : List String) :
    names.eraseDups.Pairwise fun a b => names.idxOf a < names.idxOf b := by
  induction names using List.reverseRecOn with
  | nil => exact List.Pairwise.nil
  | append_singleton front name ih =>
    -- What is appended does not move the first occurrence of a name of the front.
    have kept : front.eraseDups.Pairwise fun a b =>
        (front ++ [name]).idxOf a < (front ++ [name]).idxOf b := by
      refine ih.imp_of_mem fun {a b} first second order => ?_
      rwa [List.idxOf_append_of_mem (List.mem_eraseDups.mp first),
        List.idxOf_append_of_mem (List.mem_eraseDups.mp second)]
    rw [eraseDups_concat]
    split
    · exact kept
    · rename_i new
      refine List.pairwise_append.mpr ⟨kept, List.pairwise_singleton _ _, ?_⟩
      intro a first b last
      obtain rfl := List.mem_singleton.mp last
      have place := List.mem_eraseDups.mp first
      rw [List.idxOf_append_of_mem place, List.idxOf_append_of_notMem new]
      exact Nat.lt_add_right _ (List.idxOf_lt_length_of_mem place)

/-! ### Pairs -/

theorem ofPairs_concat (pairs : List (String × α)) (pair : String × α) :
    ofPairs (pairs ++ [pair]) = insert (ofPairs pairs) pair.1 pair.2 := by
  rw [ofPairs, List.foldl_append]
  rfl

theorem keys_ofPairs (pairs : List (String × α)) :
    keys (ofPairs pairs) = (keys pairs).eraseDups := by
  induction pairs using List.reverseRecOn with
  | nil => rfl
  | append_singleton front pair ih =>
    have keysConcat : keys (front ++ [pair]) = keys front ++ [pair.1] := List.map_append
    rw [ofPairs_concat, keys_insert, ih, keysConcat, eraseDups_concat]
    simp only [List.mem_eraseDups]

/-- Entries stand in the order in which their keys first came. -/
theorem pairwise_ofPairs (pairs : List (String × α)) :
    (ofPairs pairs).Pairwise fun a b => (keys pairs).idxOf a.1 < (keys pairs).idxOf b.1 := by
  have sorted := pairwise_idxOf_eraseDups (keys pairs)
  rw [← keys_ofPairs] at sorted
  exact List.Pairwise.of_map Prod.fst (fun _ _ order => order) sorted

theorem distinct_ofPairs (pairs : List (String × α)) : Distinct (ofPairs pairs) := by
  rw [Distinct, keys_ofPairs]
  refine (pairwise_idxOf_eraseDups _).imp ?_
  rintro a b order rfl
  exact Nat.lt_irrefl _ order

theorem get?_ofPairs (pairs : List (String × α)) (key : String) :
    get? (ofPairs pairs) key = get? pairs.reverse key := by
  induction pairs using List.reverseRecOn with
  | nil => rfl
  | append_singleton front pair ih =>
    rw [ofPairs_concat, get?_insert, ih, List.reverse_append]
    exact (get?_cons pair front.reverse key).symm

/-- The value is the last one that the pairs give to the key. -/
def IsLast (pairs : List (String × α)) (key : String) (value : α) : Prop :=
  ∃ before behind, pairs = before ++ (key, value) :: behind ∧ key ∉ keys behind

theorem get?_ofPairs_eq_some_iff {pairs : List (String × α)} {key : String} {value : α} :
    get? (ofPairs pairs) key = some value ↔ IsLast pairs key value := by
  rw [get?_ofPairs, get?, List.lookup_eq_some_iff]
  constructor
  · rintro ⟨behind, before, shape, other⟩
    refine ⟨before.reverse, behind.reverse, List.reverse_inj.mp (by simpa using shape), ?_⟩
    intro again
    obtain ⟨pair, member, same⟩ := List.mem_map.mp again
    exact bne_iff_ne.mp (other pair (List.mem_reverse.mp member)) same.symm
  · rintro ⟨before, behind, rfl, other⟩
    refine ⟨behind.reverse, before.reverse, by simp, ?_⟩
    intro pair member
    refine bne_iff_ne.mpr ?_
    rintro rfl
    exact other (List.mem_map_of_mem (List.mem_reverse.mp member))

theorem isLast_iff_mem {pairs : List (String × α)} {key : String} {value : α} :
    IsLast pairs key value ↔ (key, value) ∈ ofPairs pairs :=
  get?_ofPairs_eq_some_iff.symm.trans (get?_eq_some_iff (distinct_ofPairs pairs))

theorem get?_ofPairs_eq_none_iff {pairs : List (String × α)} {key : String} :
    get? (ofPairs pairs) key = none ↔ key ∉ keys pairs := by
  rw [get?_eq_none_iff, keys_ofPairs, List.mem_eraseDups]

/-- Among the keys whose last value satisfies `p` this one has come first. -/
structure IsFirst (p : α → Prop) (pairs : List (String × α)) (key : String) (value : α) : Prop where
  last : IsLast pairs key value
  holds : p value
  first : ∀ other v, IsLast pairs other v → p v →
    (keys pairs).idxOf key ≤ (keys pairs).idxOf other

theorem IsLast.mem_keys {pairs : List (String × α)} {key : String} {value : α}
    (last : IsLast pairs key value) : key ∈ keys pairs := by
  obtain ⟨before, behind, rfl, _⟩ := last
  simp [keys]

theorem IsLast.unique {pairs : List (String × α)} {key : String} {v w : α}
    (left : IsLast pairs key v) (right : IsLast pairs key w) : v = w :=
  Option.some.inj ((get?_ofPairs_eq_some_iff.mpr left).symm.trans
    (get?_ofPairs_eq_some_iff.mpr right))

theorem IsFirst.unique {p : α → Prop} {pairs : List (String × α)} {key other : String} {v w : α}
    (left : IsFirst p pairs key v) (right : IsFirst p pairs other w) : key = other ∧ v = w := by
  have order := left.first other w right.last right.holds
  have converse := right.first key v left.last left.holds
  have same : key = other :=
    (List.idxOf_inj left.last.mem_keys).mp (Nat.le_antisymm order converse)
  subst same
  exact ⟨rfl, left.last.unique right.last⟩

theorem isFirst_of_find? {p : α → Bool} {pairs : List (String × α)} {key : String} {value : α}
    (found : (ofPairs pairs).find? (fun entry => p entry.2) = some (key, value)) :
    IsFirst (p · = true) pairs key value := by
  obtain ⟨holds, before, behind, shape, failing⟩ := List.find?_eq_some_iff_append.mp found
  have sorted := pairwise_ofPairs pairs
  rw [shape, List.pairwise_append, List.pairwise_cons] at sorted
  refine ⟨isLast_iff_mem.mpr (by simp [shape]), holds, ?_⟩
  intro other v last satisfies
  -- Entries before the one that is found fail the test, and those behind it have come later.
  have place := isLast_iff_mem.mp last
  rw [shape, List.mem_append, List.mem_cons] at place
  rcases place with earlier | same | later
  · have fails := failing _ earlier
    simp [satisfies] at fails
  · obtain ⟨rfl, rfl⟩ := Prod.mk.inj same
    exact Nat.le_refl _
  · exact Nat.le_of_lt (sorted.2.1.1 _ later)

theorem find?_ofPairs_eq_some_iff {p : α → Bool} {pairs : List (String × α)} {key : String}
    {value : α} :
    (ofPairs pairs).find? (fun entry => p entry.2) = some (key, value) ↔
      IsFirst (p · = true) pairs key value := by
  constructor
  · exact isFirst_of_find?
  · intro first
    cases found : (ofPairs pairs).find? fun entry => p entry.2 with
    | none =>
      exact absurd first.holds (List.find?_eq_none.mp found _ (isLast_iff_mem.mp first.last))
    | some entry =>
      obtain ⟨rfl, rfl⟩ := (isFirst_of_find? found).unique first
      rfl

/-! ### Values made of the present ones -/

section
variable (name : β → String) (f : β → Option α → Option α)

/-- Gives the name of an item what it makes of the present value of this name, if it makes one. -/
def put? (m : Entries α) (x : β) : Option (Entries α) :=
  (f x (get? m (name x))).map (insert m (name x))

/-- The value of a key after the items of this key, each of which works on what the last one left. -/
def slot? (key : String) (items : List β) (old : Option α) : Option (Option α) :=
  (items.filter (name · = key)).foldlM (fun old x => (f x old).map some) old

variable {name f} {m n : Entries α} {x : β} {items : List β}

/-- An item moves the slot of its own name on, and leaves the others. -/
theorem slot?_cons_get? {value : α} (made : f x (get? m (name x)) = some value) (key : String) :
    slot? name f key (x :: items) (get? m key) =
      slot? name f key items (get? (insert m (name x) value) key) := by
  by_cases own : name x = key
  · subst own
    simp [slot?, made]
  · simp [slot?, own, get?_insert]

theorem slot?_cons_eq_none (failed : f x (get? m (name x)) = none) :
    slot? name f (name x) (x :: items) (get? m (name x)) = none := by
  simp [slot?, failed]

theorem slot?_of_foldlM (built : items.foldlM (put? name f) m = some n) (key : String) :
    slot? name f key items (get? m key) = some (get? n key) := by
  induction items generalizing m with
  | nil =>
    obtain rfl := Option.some.inj built
    rfl
  | cons x items ih =>
    obtain ⟨next, stored, built⟩ := Option.bind_eq_some_iff.mp built
    obtain ⟨value, made, rfl⟩ := Option.map_eq_some_iff.mp stored
    rw [slot?_cons_get? made, ih built]

/-- Items build a mapping if every slot gets through those of its own key. -/
theorem isSome_foldlM_put?_iff :
    (items.foldlM (put? name f) m).isSome ↔ ∀ key, (slot? name f key items (get? m key)).isSome := by
  induction items generalizing m with
  | nil => exact iff_of_true rfl fun _ => rfl
  | cons x items ih =>
    rw [List.foldlM_cons, put?]
    cases made : f x (get? m (name x)) with
    | none =>
      refine iff_of_false Bool.false_ne_true fun through => ?_
      have own := through (name x)
      rw [slot?_cons_eq_none made] at own
      contradiction
    | some value =>
      simp only [slot?_cons_get? made]
      exact ih

theorem slot?_filter (key other : String) (old : Option α) :
    slot? name f other (items.filter (name · = key)) old =
      if other = key then slot? name f key items old else some old := by
  rw [slot?, List.filter_filter]
  split
  · rename_i same
    subst same
    simp [slot?]
  · rename_i different
    have none : (items.filter fun x => decide (name x = other) && decide (name x = key)) = [] := by
      refine List.filter_eq_nil_iff.mpr fun x _ both => different ?_
      obtain ⟨first, second⟩ := by simpa using both
      exact first.symm.trans second
    rw [none]
    rfl

/-- Items build a mapping if and only if those of every key do. -/
theorem isSome_foldlM_put?_iff_filter :
    (items.foldlM (put? name f) []).isSome ↔
      ∀ key, ((items.filter (name · = key)).foldlM (put? name f) []).isSome := by
  have apart (key : String) : ((items.filter (name · = key)).foldlM (put? name f) []).isSome ↔
      (slot? name f key items none).isSome := by
    rw [isSome_foldlM_put?_iff]
    constructor
    · intro through
      have own := through key
      rwa [slot?_filter, if_pos rfl] at own
    · intro through other
      rw [slot?_filter]
      split
      · exact through
      · rfl
  simp only [apart]
  exact isSome_foldlM_put?_iff

/-- The value of a key is what the items of this key alone make. -/
theorem get?_foldlM_put?_filter (built : items.foldlM (put? name f) [] = some m) (key : String) :
    ∃ own, (items.filter (name · = key)).foldlM (put? name f) [] = some own ∧
      get? m key = get? own key := by
  have some := isSome_foldlM_put?_iff_filter.mp (Option.isSome_of_eq_some built) key
  obtain ⟨own, alone⟩ := Option.isSome_iff_exists.mp some
  have whole := slot?_of_foldlM built key
  have part := slot?_of_foldlM alone key
  rw [slot?_filter, if_pos rfl] at part
  exact ⟨own, alone, Option.some.inj (whole.symm.trans part)⟩

/-- What items build is what some pairs of their names build. -/
theorem exists_pairs_of_foldlM (built : items.foldlM (put? name f) [] = some m) :
    ∃ pairs, keys pairs = items.map name ∧ ofPairs pairs = m := by
  induction items using List.reverseRecOn generalizing m with
  | nil =>
    obtain rfl := Option.some.inj built
    exact ⟨[], rfl, rfl⟩
  | append_singleton front x ih =>
    rw [List.foldlM_append] at built
    obtain ⟨before, first, last⟩ := Option.bind_eq_some_iff.mp built
    have stored : put? name f before x = some m := by simpa using last
    obtain ⟨value, _, rfl⟩ := Option.map_eq_some_iff.mp stored
    obtain ⟨pairs, names, rfl⟩ := ih first
    refine ⟨pairs ++ [(name x, value)], ?_, ofPairs_concat pairs (name x, value)⟩
    rw [keys, List.map_append, List.map_append, ← names]
    rfl

end

end EnvTemplate.Entries
