import EnvTemplate.Proofs.Entries.History
import EnvTemplate.Query
/-! Names of a query. Every pair is stored under one name, and works on nothing but the value of this
name. So the pairs of other names can be left out, or moved past it, without a change to the value;
only the order of the names tells which one came first. A name whose pairs cannot be stored takes the
values of all others with it. -/
namespace EnvTemplate.Query

/-- The name of a decoded key: what stands before its first bracket, or the whole key if no bracket
is closed behind it. A key that begins with a bracket has the empty name. -/
def nameOf (key : List Char) : String :=
  let name := key.takeWhile (· != '[')
  String.ofList (if name = [] ∨ ']' ∈ key.dropWhile (· != '[') then name else key)

/-- What a pair stores, if it has a name. -/
def assignment? (pair : List Char × List Char) : Option (Key × String) :=
  (splitKey pair.1).map fun key => (key, String.ofList pair.2)

/-- A key is refused if it has the empty name, and else stores under its name. -/
theorem splitKey_cases (key : List Char) :
    (nameOf key = "" ∧ splitKey key = none) ∨
      (nameOf key ≠ "" ∧ ∃ segments, splitKey key = some ⟨nameOf key, segments⟩) := by
  by_cases empty : key.takeWhile (· != '[') = []
  · refine Or.inl ⟨?_, ?_⟩
    · simp [nameOf, empty]
    · simp [splitKey, empty]
  · have some : key ≠ [] := by
      rintro rfl
      exact empty rfl
    by_cases closed : ']' ∈ key.dropWhile (· != '[')
    · have name : nameOf key = String.ofList (key.takeWhile (· != '[')) := by
        simp only [nameOf, closed, or_true, if_true]
      refine Or.inr ⟨?_, segmentsFrom none (key.dropWhile (· != '[')), ?_⟩
      · rw [name]
        simpa using empty
      · simp [splitKey, name, empty, closed]
    · have name : nameOf key = String.ofList key := by
        simp only [nameOf, empty, closed, or_self, if_false]
      refine Or.inr ⟨?_, [], ?_⟩
      · rw [name]
        simpa using some
      · simp [splitKey, name, empty, closed]

/-- Stores what an assignment makes of the value of its name. -/
theorem ofPairs_eq_foldlM_put? (pairs : List (List Char × List Char)) :
    ofPairs pairs = (pairs.filterMap assignment?).foldlM
      (Entries.put? (·.1.base) fun x old => assign (old.getD .null) x.1.segments x.2) [] := by
  rw [List.foldlM_filterMap, ofPairs]
  refine congrArg (fun step => pairs.foldlM step []) ?_
  funext entries pair
  rw [store, assignment?]
  cases splitKey pair.1 with
  | none => rfl
  | some key => exact (Option.map_eq_bind ..).symm

/-- The pairs of a name store what all pairs store under it. -/
theorem filterMap_assignment?_filter (pairs : List (List Char × List Char)) (name : String) :
    (pairs.filter (nameOf ·.1 = name)).filterMap assignment? =
      (pairs.filterMap assignment?).filter (·.1.base = name) := by
  rw [List.filterMap_filter, List.filter_filterMap]
  refine congrArg (List.filterMap · pairs) ?_
  funext pair
  rw [assignment?]
  rcases splitKey_cases pair.1 with ⟨_, none⟩ | ⟨_, segments, split⟩
  · simp [none]
  · by_cases same : nameOf pair.1 = name <;> simp [split, same, Option.filter]

theorem map_base_assignments (pairs : List (List Char × List Char)) :
    (pairs.filterMap assignment?).map (·.1.base) = (pairs.map (nameOf ·.1)).filter (· ≠ "") := by
  induction pairs with
  | nil => rfl
  | cons pair pairs ih =>
    rw [List.filterMap_cons, List.map_cons, List.filter_cons, assignment?]
    rcases splitKey_cases pair.1 with ⟨empty, none⟩ | ⟨nonempty, segments, split⟩
    · simpa [none, empty] using ih
    · simpa [split, nonempty] using ih

theorem isSome_ofPairs_iff (pairs : List (List Char × List Char)) :
    (ofPairs pairs).isSome ↔ ∀ name, (ofPairs (pairs.filter (nameOf ·.1 = name))).isSome := by
  simp only [ofPairs_eq_foldlM_put?, filterMap_assignment?_filter]
  exact Entries.isSome_foldlM_put?_iff_filter

theorem get?_ofPairs_filter {pairs : List (List Char × List Char)} {entries : Entries Value}
    (built : ofPairs pairs = some entries) (name : String) :
    ∃ own, ofPairs (pairs.filter (nameOf ·.1 = name)) = some own ∧
      Entries.get? entries name = Entries.get? own name := by
  rw [ofPairs_eq_foldlM_put?] at built
  rw [ofPairs_eq_foldlM_put?, filterMap_assignment?_filter]
  exact Entries.get?_foldlM_put?_filter built name

/-- What pairs build is the mapping of some values under their names. -/
theorem exists_ofPairs_eq {pairs : List (List Char × List Char)} {entries : Entries Value}
    (built : ofPairs pairs = some entries) :
    ∃ named, Entries.keys named = (pairs.map (nameOf ·.1)).filter (· ≠ "") ∧
      Entries.ofPairs named = entries := by
  rw [ofPairs_eq_foldlM_put?] at built
  rw [← map_base_assignments]
  exact Entries.exists_pairs_of_foldlM built

theorem keys_ofPairs {pairs : List (List Char × List Char)} {entries : Entries Value}
    (built : ofPairs pairs = some entries) :
    Entries.keys entries = ((pairs.map (nameOf ·.1)).filter (· ≠ "")).eraseDups := by
  obtain ⟨named, names, rfl⟩ := exists_ofPairs_eq built
  rw [Entries.keys_ofPairs, names]

theorem distinct_ofPairs {pairs : List (List Char × List Char)} {entries : Entries Value}
    (built : ofPairs pairs = some entries) : Entries.Distinct entries := by
  obtain ⟨named, _, rfl⟩ := exists_ofPairs_eq built
  exact Entries.distinct_ofPairs named

/-- Neighbours of different names are not both of one name. -/
theorem filter_swap {p q : List Char × List Char} (different : nameOf p.1 ≠ nameOf q.1)
    (front behind : List (List Char × List Char)) (name : String) :
    (front ++ q :: p :: behind).filter (nameOf ·.1 = name) =
      (front ++ p :: q :: behind).filter (nameOf ·.1 = name) := by
  by_cases first : nameOf p.1 = name
  · have second : nameOf q.1 ≠ name := fun same => different (first.trans same.symm)
    simp [first, second]
  · simp [List.filter_cons, first]

/-- Pairs that build a mapping still do so after an exchange of neighbours of different names, and
the entries are the same but for their order. -/
theorem exists_perm_of_swap {p q : List Char × List Char} (different : nameOf p.1 ≠ nameOf q.1)
    {front behind : List (List Char × List Char)} {entries : Entries Value}
    (built : ofPairs (front ++ p :: q :: behind) = some entries) :
    ∃ exchanged, ofPairs (front ++ q :: p :: behind) = some exchanged ∧
      exchanged.Perm entries := by
  have all := (isSome_ofPairs_iff _).mp (Option.isSome_of_eq_some built)
  have still : (ofPairs (front ++ q :: p :: behind)).isSome := by
    rw [isSome_ofPairs_iff]
    intro name
    rw [filter_swap different]
    exact all name
  obtain ⟨exchanged, rebuilt⟩ := Option.isSome_iff_exists.mp still
  refine ⟨exchanged, rebuilt, ?_⟩
  refine Entries.perm_of_get?_eq (distinct_ofPairs rebuilt) (distinct_ofPairs built) fun name => ?_
  obtain ⟨own, alone, value⟩ := get?_ofPairs_filter rebuilt name
  obtain ⟨other, apart, same⟩ := get?_ofPairs_filter built name
  rw [filter_swap different, apart] at alone
  obtain rfl := Option.some.inj alone
  exact value.trans same.symm

/-- Pairs build a mapping if and only if the pairs of every name do. The value of a name is what the
pairs of this name alone store, and the names stand in the order in which they first came. So
neighbours of different names can change places, and the entries are still the same but for their
order. -/
theorem ofPairs_names (pairs : List (List Char × List Char)) :
    ((∃ entries, ofPairs pairs = some entries) ↔
      ∀ name, ∃ own, ofPairs (pairs.filter (nameOf ·.1 = name)) = some own) ∧
    ∀ entries, ofPairs pairs = some entries →
      (∀ name, ∃ own, ofPairs (pairs.filter (nameOf ·.1 = name)) = some own ∧
        Entries.get? entries name = Entries.get? own name) ∧
      Entries.keys entries = ((pairs.map (nameOf ·.1)).filter (· ≠ "")).eraseDups ∧
      ∀ front p q behind, pairs = front ++ p :: q :: behind → nameOf p.1 ≠ nameOf q.1 →
        ∃ exchanged, ofPairs (front ++ q :: p :: behind) = some exchanged ∧
          exchanged.Perm entries := by
  refine ⟨?_, fun entries built => ⟨get?_ofPairs_filter built, keys_ofPairs built, ?_⟩⟩
  · simp only [← Option.isSome_iff_exists]
    exact isSome_ofPairs_iff pairs
  · rintro front p q behind rfl different
    exact exists_perm_of_swap different built

def decoded (pairs : List (String × String)) : List (List Char × List Char) :=
  pairs.map fun pair => (pair.1.toList, pair.2.toList)

/-- Pairs of two names that take turns. Items are appended to the first one and then get keys, and the
other is a text until a bracket replaces it. A pair without a name and an unclosed bracket come
between them. -/
def crossing : List (String × String) :=
  [("a[]", "1"), ("b", "2"), ("[a]", "3"), ("b[x", "4"), ("a[x]", "5"), ("b[x]", "6"), ("a[]", "7")]

/-- With the first two pairs exchanged the other name comes first, and nothing else changes. -/
theorem ofPairs_names_crossing :
    ∃ entries exchanged, ofPairs (decoded crossing) = some entries ∧
      nameOf "a[]".toList ≠ nameOf "b".toList ∧
      Entries.keys entries = ["a", "b", "b[x"] ∧
      Entries.get? entries "a" =
        some (.mapping [("0", .string "1"), ("x", .string "5"), ("1", .string "7")]) ∧
      ofPairs (decoded (("b", "2") :: ("a[]", "1") :: crossing.drop 2)) = some exchanged ∧
      exchanged.Perm entries := by
  have different : nameOf "a[]".toList ≠ nameOf "b".toList := by decide
  obtain ⟨_, names⟩ := ofPairs_names (decoded crossing)
  have built : ofPairs (decoded crossing) = some
      [("a", .mapping [("0", .string "1"), ("x", .string "5"), ("1", .string "7")]),
        ("b", .mapping [("x", .string "6")]), ("b[x", .string "4")] := rfl
  obtain ⟨_, order, exchange⟩ := names _ built
  obtain ⟨exchanged, rebuilt, same⟩ := exchange [] _ _ (decoded (crossing.drop 2)) rfl different
  exact ⟨_, exchanged, built, different, order.trans rfl, rfl, rebuilt, same⟩

/-- Pairs of one name, of which the second has no place, and a pair of another name, whose value is
lost with them. -/
theorem ofPairs_names_overflow :
    ofPairs (decoded [("a[9223372036854775807]", "1"), ("a[]", "2"), ("b", "3")]) = none ∧
    (decoded [("a[9223372036854775807]", "1"), ("a[]", "2"), ("b", "3")]).filter
      (nameOf ·.1 = "b") = decoded [("b", "3")] ∧
    ofPairs (decoded [("b", "3")]) = some [("b", .string "3")] :=
  ⟨rfl, rfl, rfl⟩

end EnvTemplate.Query
