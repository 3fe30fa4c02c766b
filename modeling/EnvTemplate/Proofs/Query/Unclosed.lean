import EnvTemplate.Proofs.Query.Nested
/-! Keys with brackets that are not closed. A key is a name, a row of closed brackets and a tail. The
tail counts only where the row is empty: then it belongs to the name. Behind a closed bracket it is
dropped, an unclosed bracket in it included. -/
namespace EnvTemplate.Query

def brackets (texts : List (List Char)) : List Char :=
  texts.flatMap fun text => '[' :: text ++ [']']

/-- A bracket is opened and never closed. -/
def LeavesOpen (key : List Char) : Prop :=
  ∃ before after, key = before ++ '[' :: after ∧ ']' ∉ after

def Closes (key : List Char) : Prop :=
  ∃ before after, key = before ++ '[' :: after ∧ ']' ∈ after

/-- A text that does not begin with a closed bracket. -/
def Loose (tail : List Char) : Prop :=
  tail.head? = some '[' → ']' ∉ tail

/-! ### The row of brackets -/

theorem segmentsFrom_unclosed {text : List Char} (unclosed : ']' ∉ text) (inner : List Char) :
    segmentsFrom (some inner) text = [] := by
  induction text generalizing inner with
  | nil => rfl
  | cons c rest ih =>
    obtain ⟨different, later⟩ : ']' ≠ c ∧ ']' ∉ rest := by simpa using unclosed
    rw [segmentsFrom, if_neg (Ne.symm different)]
    exact ih later (c :: inner)

theorem segmentsFrom_loose {tail : List Char} (loose : Loose tail) :
    segmentsFrom none tail = [] := by
  cases tail with
  | nil => rfl
  | cons c rest =>
    rw [segmentsFrom]
    by_cases opening : c = '['
    · subst opening
      have unclosed : ']' ∉ rest := fun inside => loose rfl (List.mem_cons_of_mem _ inside)
      rw [if_pos rfl]
      exact segmentsFrom_unclosed unclosed []
    · rw [if_neg opening]

/-- The row is read up to the text that no closed bracket begins. -/
theorem segmentsFrom_brackets {texts : List (List Char)} (closed : ∀ text ∈ texts, ']' ∉ text)
    {tail : List Char} (loose : Loose tail) :
    segmentsFrom none (brackets texts ++ tail) = texts.map .ofText := by
  induction texts with
  | nil => exact segmentsFrom_loose loose
  | cons text texts ih =>
    obtain ⟨first, later⟩ := List.forall_mem_cons.mp closed
    have read := segmentsFrom_inner first [] (brackets texts ++ tail)
    simp only [brackets, List.flatMap_cons, List.cons_append, List.append_assoc,
      List.nil_append] at read ⊢
    rw [segmentsFrom, if_pos rfl, read, List.map_cons]
    exact congrArg _ (ih later)

/-- Every text begins with a longest row of closed brackets. -/
theorem exists_brackets (text : List Char) :
    ∃ texts tail, text = brackets texts ++ tail ∧ (∀ text ∈ texts, ']' ∉ text) ∧ Loose tail := by
  induction size : text.length using Nat.strongRecOn generalizing text with
  | ind n ih =>
    -- a text that begins with a closed bracket is shorter without it
    by_cases loose : Loose text
    · exact ⟨[], text, rfl, by simp, loose⟩
    · obtain ⟨opened, closed⟩ : text.head? = some '[' ∧ ']' ∈ text := by simpa [Loose] using loose
      obtain ⟨rest, rfl⟩ := List.head?_eq_some_iff.mp opened
      have inside : ']' ∈ rest := by simpa using closed
      obtain ⟨first, behind, rfl, plain⟩ := List.eq_append_cons_of_mem inside
      have shorter : behind.length < n := by
        rw [← size, List.length_cons, List.length_append, List.length_cons]
        omega
      obtain ⟨texts, tail, rfl, each, ends⟩ := ih behind.length shorter behind rfl
      refine ⟨first :: texts, tail, ?_, List.forall_mem_cons.mpr ⟨plain, each⟩, ends⟩
      simp [brackets]

theorem exists_brackets_of_mem {behind : List Char} (inside : ']' ∈ behind) :
    ∃ texts tail, '[' :: behind = brackets texts ++ tail ∧ texts ≠ [] ∧
      (∀ text ∈ texts, ']' ∉ text) ∧ Loose tail := by
  obtain ⟨texts, tail, row, closed, loose⟩ := exists_brackets ('[' :: behind)
  refine ⟨texts, tail, row, ?_, closed, loose⟩
  rintro rfl
  obtain rfl : '[' :: behind = tail := row
  exact loose rfl (List.mem_cons_of_mem _ inside)

theorem getLast?_brackets {texts : List (List Char)} (some : texts ≠ []) :
    (brackets texts).getLast? = Option.some ']' := by
  obtain ⟨front, text, rfl⟩ := (List.eq_nil_or_concat' texts).resolve_left some
  have row : brackets (front ++ [text]) = brackets front ++ '[' :: text ++ [']'] := by
    simp [brackets]
  rw [row, List.getLast?_concat]

theorem head?_brackets_append {texts : List (List Char)} (some : texts ≠ []) (tail : List Char) :
    (brackets texts ++ tail).head? = Option.some '[' := by
  obtain ⟨text, rest, rfl⟩ := List.exists_cons_of_ne_nil some
  rfl

theorem loose_nil : Loose [] := fun opened => nomatch opened

/-! ### Keys -/

/-- A key at its first bracket: the name and what follows it. -/
theorem splitKey_base {base behind : List Char} (nonempty : base ≠ []) (plain : '[' ∉ base)
    (first : ∀ c ∈ behind.head?, c = '[') :
    splitKey (base ++ behind) =
      if behind.contains ']' then some ⟨String.ofList base, segmentsFrom none behind⟩
      else some ⟨String.ofList (base ++ behind), []⟩ := by
  have named : String.ofList base ≠ "" := by simpa using nonempty
  have unbracketed : '[' ∉ (String.ofList base).toList := by simpa using plain
  have split := splitKey_append named unbracketed first
  rwa [String.toList_ofList] at split

/-- A key with a row of brackets is split into its name and the texts between them, and loses what
stands behind them. -/
theorem splitKey_brackets {base : List Char} (nonempty : base ≠ []) (plain : '[' ∉ base)
    {texts : List (List Char)} (some : texts ≠ []) (closed : ∀ text ∈ texts, ']' ∉ text)
    {tail : List Char} (loose : Loose tail) :
    splitKey (base ++ brackets texts ++ tail) =
      Option.some ⟨String.ofList base, texts.map .ofText⟩ := by
  have first : ∀ c ∈ (brackets texts ++ tail).head?, c = '[' := by
    simp [head?_brackets_append some]
  have inside : (brackets texts ++ tail).contains ']' = true := by
    simp [List.mem_of_getLast? (getLast?_brackets some)]
  rw [List.append_assoc, splitKey_base nonempty plain first, if_pos inside,
    segmentsFrom_brackets closed loose]

theorem closes_append_iff {base behind : List Char} (plain : '[' ∉ base) :
    Closes (base ++ '[' :: behind) ↔ ']' ∈ behind := by
  constructor
  · rintro ⟨before, after, same, inside⟩
    obtain ⟨middle, rfl, rest⟩ | ⟨middle, rfl, rest⟩ := List.append_eq_append_iff.mp same
    · have within : ']' ∈ '[' :: behind := by
        rw [rest]
        simp [inside]
      simpa using within
    · cases middle with
      | nil =>
        obtain ⟨_, rfl⟩ := List.cons.inj rest
        exact inside
      | cons c middle =>
        obtain ⟨rfl, _⟩ := List.cons.inj rest
        simp at plain
  · exact fun inside => ⟨base, behind, rfl, inside⟩

/-- A key of which no bracket is closed is a name as a whole. -/
theorem splitKey_of_not_closes {base behind : List Char} (nonempty : base ≠ []) (plain : '[' ∉ base)
    (unclosed : ']' ∉ behind) :
    splitKey (base ++ '[' :: behind) = some ⟨String.ofList (base ++ '[' :: behind), []⟩ := by
  have outside : ¬ ('[' :: behind).contains ']' = true := by simp [unclosed]
  rw [splitKey_base nonempty plain (by simp), if_neg outside]

/-- An unclosed bracket stands behind the row, since the row ends with a closed one. -/
theorem LeavesOpen.tail {base tail : List Char} {texts : List (List Char)} (some : texts ≠ [])
    (leavesOpen : LeavesOpen (base ++ brackets texts ++ tail)) : LeavesOpen tail := by
  obtain ⟨before, after, same, unclosed⟩ := leavesOpen
  obtain ⟨middle, rfl, rest⟩ | ⟨middle, row, rest⟩ := List.append_eq_append_iff.mp same
  · exact ⟨middle, after, rest, unclosed⟩
  · cases middle with
    | nil => exact ⟨[], after, rest.symm, unclosed⟩
    | cons c middle =>
      obtain ⟨rfl, rfl⟩ := List.cons.inj rest
      have last : ('[' :: middle).getLast? = Option.some ']' := by
        have ends := congrArg List.getLast? row
        rw [List.getLast?_append, List.getLast?_append, getLast?_brackets some] at ends
        simpa using ends.symm
      have inside : ']' ∈ middle := by simpa using List.mem_of_getLast? last
      exact absurd (List.mem_append_left _ inside) unclosed

/-! ### Queries -/

theorem ofPairs_concat (pairs : List (List Char × List Char)) (pair : List Char × List Char) :
    ofPairs (pairs ++ [pair]) = (ofPairs pairs).bind fun entries => store entries pair := by
  rw [ofPairs, List.foldlM_append]
  simp [ofPairs]

theorem ofPairs_concat_of_plain {pair : List Char × List Char} {name : String}
    (split : splitKey pair.1 = some ⟨name, []⟩) (pairs : List (List Char × List Char)) :
    ofPairs (pairs ++ [pair]) =
      (ofPairs pairs).map (Entries.insert · name (.string (String.ofList pair.2))) := by
  have stored : ∀ entries, store entries pair =
      some (Entries.insert entries name (.string (String.ofList pair.2))) := by
    intro entries
    rw [store, split]
    rfl
  rw [ofPairs_concat]
  simp only [stored]
  exact (Option.map_eq_bind ..).symm

theorem keys_of_ofPairs_single {text : List Char} {key : Key} {value : List Char}
    {entries : Entries Value} (split : splitKey text = some key)
    (built : ofPairs [(text, value)] = some entries) : Entries.keys entries = [key.base] := by
  have stored : store [] (text, value) = some entries := by simpa [ofPairs] using built
  rw [store, split] at stored
  obtain ⟨v, _, same⟩ := Option.bind_eq_some_iff.mp stored
  obtain rfl := Option.some.inj same
  rfl

/-- A key that begins with no bracket and leaves one open, taken apart at its first bracket. -/
theorem LeavesOpen.exists_base {key : List Char} (leavesOpen : LeavesOpen key)
    (named : key.head? ≠ some '[') :
    ∃ base behind, key = base ++ '[' :: behind ∧ base ≠ [] ∧ '[' ∉ base := by
  have opened : '[' ∈ key := by
    obtain ⟨before, after, rfl, _⟩ := leavesOpen
    simp
  obtain ⟨base, behind, rfl, plain⟩ := List.eq_append_cons_of_mem opened
  refine ⟨base, behind, rfl, ?_, plain⟩
  rintro rfl
  exact named rfl

section
variable {base tail : List Char} (nonempty : base ≠ []) (plain : '[' ∉ base)
  {texts : List (List Char)} (some : texts ≠ []) (closed : ∀ text ∈ texts, ']' ∉ text)
  (loose : Loose tail)
include nonempty plain some closed loose

theorem ofPairs_drop_tail (pairs : List (List Char × List Char)) (value : List Char) :
    ofPairs (pairs ++ [(base ++ brackets texts ++ tail, value)]) =
      ofPairs (pairs ++ [(base ++ brackets texts, value)]) := by
  have whole := splitKey_brackets nonempty plain some closed loose
  have row := splitKey_brackets nonempty plain some closed loose_nil
  rw [List.append_nil] at row
  rw [ofPairs_concat, ofPairs_concat]
  simp only [store, whole, row]

/-- A value behind a row of brackets is not stored under the whole key. -/
theorem not_literal :
    ofPairs [(base ++ brackets texts ++ tail, [])] ≠
      Option.some [(String.ofList (base ++ brackets texts ++ tail), .string "")] := by
  intro literal
  have split := splitKey_brackets nonempty plain some closed loose
  have names : [String.ofList (base ++ brackets texts ++ tail)] = [String.ofList base] :=
    keys_of_ofPairs_single split literal
  have same := String.ofList_injective (List.cons.inj names.symm).1
  rw [List.append_assoc] at same
  have none := List.append_eq_nil_iff.mp (List.self_eq_append_right.mp same)
  have last := getLast?_brackets some
  simp [none.1] at last

end

/-- A key with a name that leaves a bracket open is a name as a whole if and only if none of its
brackets is closed. Otherwise the text behind its first row of closed brackets, the open bracket in
it included, is dropped. A key that ends with this row is split into its name and the texts between
the brackets. -/
theorem ofPairs_unclosed_iff (key : List Char) :
    (key.head? ≠ some '[' → LeavesOpen key →
      ((∀ pairs value, ofPairs (pairs ++ [(key, value)]) =
          (ofPairs pairs).map
            (Entries.insert · (String.ofList key) (.string (String.ofList value)))) ↔
        ¬ Closes key) ∧
      (Closes key → ∃ base texts tail, key = base ++ brackets texts ++ tail ∧
        base ≠ [] ∧ '[' ∉ base ∧ texts ≠ [] ∧ (∀ text ∈ texts, ']' ∉ text) ∧
        Loose tail ∧ LeavesOpen tail ∧
        ∀ pairs value, ofPairs (pairs ++ [(key, value)]) =
          ofPairs (pairs ++ [(base ++ brackets texts, value)]))) ∧
    ∀ base texts, key = base ++ brackets texts → base ≠ [] → '[' ∉ base →
      (∀ text ∈ texts, ']' ∉ text) →
      splitKey key = some ⟨String.ofList base, texts.map .ofText⟩ := by
  refine ⟨fun named leavesOpen => ?_, ?_⟩
  · obtain ⟨base, behind, rfl, nonempty, plain⟩ := leavesOpen.exists_base named
    rw [closes_append_iff plain]
    by_cases inside : ']' ∈ behind
    · obtain ⟨texts, tail, row, some, closed, loose⟩ := exists_brackets_of_mem inside
      rw [row, ← List.append_assoc] at leavesOpen ⊢
      refine ⟨⟨fun literal => ?_, fun unclosed => absurd inside unclosed⟩, fun _ =>
        ⟨base, texts, tail, rfl, nonempty, plain, some, closed, loose, leavesOpen.tail some,
          ofPairs_drop_tail nonempty plain some closed loose⟩⟩
      exact absurd (literal [] []) (not_literal nonempty plain some closed loose)
    · refine ⟨⟨fun _ => inside, fun _ pairs value => ?_⟩, fun within => absurd within inside⟩
      exact ofPairs_concat_of_plain (splitKey_of_not_closes nonempty plain inside) pairs
  · rintro base texts rfl nonempty plain closed
    cases texts with
    | nil =>
      have first : ∀ c ∈ ([] : List Char).head?, c = '[' := by simp
      have whole := splitKey_base nonempty plain first
      simpa [brackets] using whole
    | cons text texts =>
      have split := splitKey_brackets nonempty plain (List.cons_ne_nil text texts) closed loose_nil
      rwa [List.append_nil] at split

/-- Before any closed bracket an open one belongs to the name, also behind another open one. Inside a
closed bracket an opening one is text. -/
theorem ofPairs_unclosed_pair :
    LeavesOpen "a]b[[c".toList ∧ ¬ Closes "a]b[[c".toList ∧
    ofPairs [("a[]".toList, ['1']), ("a]b[[c".toList, ['2'])] =
      some [("a", .sequence [.string "1"]), ("a]b[[c", .string "2")] ∧
    splitKey "a[b[][]".toList = some ⟨"a", [.under "b[", .append]⟩ := by
  have leavesOpen : LeavesOpen "a]b[[c".toList := ⟨"a]b[".toList, ['c'], rfl, by decide⟩
  have unclosed : ¬ Closes "a]b[[c".toList := by
    have plain : '[' ∉ "a]b".toList := by decide
    have outside : ']' ∉ "[c".toList := by decide
    exact fun closes => outside ((closes_append_iff plain).mp closes)
  obtain ⟨stored, _⟩ := ofPairs_unclosed_iff "a]b[[c".toList
  have literal := (stored (by decide) leavesOpen).1.mpr unclosed [("a[]".toList, ['1'])] ['2']
  obtain ⟨_, row⟩ := ofPairs_unclosed_iff "a[b[][]".toList
  have split := row ['a'] [['b', '['], []] rfl (by decide) (by decide) (by simp)
  exact ⟨leavesOpen, unclosed, literal, split⟩

/-- Behind a closed bracket an open one is lost, and the key is not taken as a whole. -/
theorem parse_unclosed_behind :
    Form.pairs "a[b][c=1".toList = [("a[b][c".toList, ['1'])] ∧ LeavesOpen "a[b][c".toList ∧
    parse "a[b][c=1".toList = some [("a", .mapping [("b", .string "1")])] ∧
    (parse "a[b][c=1".toList).bind (Entries.get? · "a[b][c") = none :=
  ⟨rfl, ⟨"a[b]".toList, ['c'], rfl, by decide⟩, rfl, rfl⟩

end EnvTemplate.Query
