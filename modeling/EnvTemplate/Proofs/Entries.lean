import EnvTemplate.Entries
import Mathlib.Data.List.Nodup
/-! Entries under look-up and insertion: a key keeps its place, and a new key comes last. -/
namespace EnvTemplate.Entries

variable {α : Type}

instance (m : Entries α) : Decidable (Distinct m) :=
  inferInstanceAs (Decidable (keys m).Nodup)

theorem mem_of_get? {m : Entries α} {key : String} {value : α} (found : get? m key = some value) :
    (key, value) ∈ m := by
  obtain ⟨before, behind, rfl, _⟩ := List.lookup_eq_some_iff.mp found
  exact List.mem_append_right before List.mem_cons_self

theorem insert_of_notMem {m : Entries α} {key : String} (new : key ∉ keys m) (value : α) :
    insert m key value = m ++ [(key, value)] := by
  induction m with
  | nil => rfl
  | cons entry rest ih =>
    obtain ⟨different, new⟩ : key ≠ entry.1 ∧ key ∉ keys rest := by simpa [keys] using new
    rw [insert, if_neg (Ne.symm different), ih new, List.cons_append]

/-- Of two values that a key gets the second one stays. -/
theorem insert_insert (m : Entries α) (key : String) (first second : α) :
    insert (insert m key first) key second = insert m key second := by
  induction m with
  | nil => simp [insert]
  | cons entry rest ih =>
    by_cases same : entry.1 = key
    · simp [insert, same]
    · simp only [insert, if_neg same, ih]

theorem get?_cons (entry : String × α) (m : Entries α) (key : String) :
    get? (entry :: m) key = if entry.1 = key then some entry.2 else get? m key := by
  obtain ⟨name, value⟩ := entry
  by_cases same : name = key
  · simp [get?, same]
  · have other : (key == name) = false := beq_false_of_ne (Ne.symm same)
    simp [get?, List.lookup_cons, same, other]

@[simp]
theorem get?_insert_self (m : Entries α) (key : String) (value : α) :
    get? (insert m key value) key = some value := by
  induction m with
  | nil => simp [insert, get?]
  | cons entry rest ih =>
    rw [insert]
    split
    · rename_i same
      rw [get?_cons, if_pos same]
    · rename_i different
      rw [get?_cons, if_neg different, ih]

theorem get?_insert_of_ne (m : Entries α) {key other : String} (different : other ≠ key)
    (value : α) : get? (insert m key value) other = get? m other := by
  induction m with
  | nil => simp [insert, get?, different]
  | cons entry rest ih =>
    rw [insert, get?_cons]
    split
    · rename_i same
      rw [get?_cons, if_neg (same ▸ Ne.symm different), if_neg (same ▸ Ne.symm different)]
    · rw [get?_cons, ih]

theorem mem_keys_of_get? {m : Entries α} {key : String} {value : α}
    (found : get? m key = some value) : key ∈ keys m :=
  List.mem_map_of_mem (mem_of_get? found)

/-- A new value of a key that is there moves no key. -/
theorem keys_insert_of_mem {m : Entries α} {key : String} (member : key ∈ keys m) (value : α) :
    keys (insert m key value) = keys m := by
  induction m with
  | nil => contradiction
  | cons entry rest ih =>
    rw [insert]
    split
    · rfl
    · rename_i different
      obtain rfl | later := List.mem_cons.mp member
      · contradiction
      · exact congrArg (entry.1 :: ·) (ih later)

theorem get?_insert (m : Entries α) (key other : String) (value : α) :
    get? (insert m key value) other = if key = other then some value else get? m other := by
  split
  · rename_i same
    subst same
    exact get?_insert_self m key value
  · rename_i different
    exact get?_insert_of_ne m (Ne.symm different) value

theorem keys_insert (m : Entries α) (key : String) (value : α) :
    keys (insert m key value) = if key ∈ keys m then keys m else keys m ++ [key] := by
  split
  · rename_i member
    exact keys_insert_of_mem member value
  · rename_i new
    rw [insert_of_notMem new, keys, List.map_append]
    rfl

theorem get?_eq_none_iff {m : Entries α} {key : String} : get? m key = none ↔ key ∉ keys m := by
  induction m with
  | nil => simp [get?, keys]
  | cons entry rest ih =>
    rw [get?_cons]
    split
    · rename_i same
      simp [keys, same]
    · rename_i different
      simpa [keys, Ne.symm different] using ih

theorem get?_eq_some_iff {m : Entries α} (distinct : Distinct m) {key : String} {value : α} :
    get? m key = some value ↔ (key, value) ∈ m := by
  constructor
  · exact mem_of_get?
  · intro member
    induction m with
    | nil => contradiction
    | cons entry rest ih =>
      obtain ⟨new, distinct⟩ := List.nodup_cons.mp distinct
      rw [get?_cons]
      rcases List.mem_cons.mp member with rfl | later
      · exact if_pos rfl
      · have different : entry.1 ≠ key := by
          rintro rfl
          exact new (List.mem_map.mpr ⟨_, later, rfl⟩)
        rw [if_neg different]
        exact ih distinct later

/-- Two mappings with the same look-ups hold the same entries. -/
theorem perm_of_get?_eq {m n : Entries α} (left : Distinct m) (right : Distinct n)
    (same : ∀ key, get? m key = get? n key) : m.Perm n := by
  refine (List.perm_ext_iff_of_nodup (List.Nodup.of_map _ left)
    (List.Nodup.of_map _ right)).mpr ?_
  rintro ⟨key, value⟩
  rw [← get?_eq_some_iff left, ← get?_eq_some_iff right, same]

/-- Pairs without a repeated key are a mapping already. -/
theorem ofPairs_of_distinct {pairs : Entries α} (distinct : Distinct pairs) :
    ofPairs pairs = pairs := by
  have built : ∀ m : Entries α, Distinct (m ++ pairs) →
      pairs.foldl (fun m pair => m.insert pair.1 pair.2) m = m ++ pairs := by
    clear distinct
    induction pairs with
    | nil => exact fun m _ => (List.append_nil m).symm
    | cons pair pairs ih =>
      obtain ⟨key, value⟩ := pair
      intro m distinct
      have new : key ∉ keys m := by
        rw [Distinct, keys, List.map_append, List.nodup_append] at distinct
        intro old
        exact distinct.2.2 key old key (by simp) rfl
      have inserted : insert m key value = m ++ [(key, value)] := insert_of_notMem new value
      have moved : m ++ (key, value) :: pairs = (m ++ [(key, value)]) ++ pairs := by simp
      rw [List.foldl_cons]
      dsimp only
      rw [inserted, moved]
      exact ih _ (moved ▸ distinct)
  exact built [] distinct

section
variable {P : α → Prop} {m : Entries α}

theorem forall_insert {key : String} {value : α} (all : ∀ entry ∈ m, P entry.2)
    (new : P value) : ∀ entry ∈ insert m key value, P entry.2 := by
  induction m with
  | nil => simpa [insert] using new
  | cons first rest ih =>
    obtain ⟨head, tail⟩ := List.forall_mem_cons.mp all
    rw [insert]
    split
    · exact List.forall_mem_cons.mpr ⟨new, tail⟩
    · exact List.forall_mem_cons.mpr ⟨head, ih tail⟩

theorem forall_get? (all : ∀ entry ∈ m, P entry.2) {key : String} :
    ∀ value ∈ get? m key, P value :=
  fun _ found => all _ (mem_of_get? found)

/-- What holds of all values of a list of pairs holds of those of the mapping that it builds. -/
theorem forall_ofPairs {pairs : List (String × α)} (all : ∀ pair ∈ pairs, P pair.2) :
    ∀ entry ∈ ofPairs pairs, P entry.2 := by
  have kept : ∀ m : Entries α, (∀ entry ∈ m, P entry.2) → ∀ pair ∈ pairs,
      ∀ entry ∈ insert m pair.1 pair.2, P entry.2 :=
    fun _ holds pair member => forall_insert holds (all pair member)
  exact List.foldlRecOn pairs _ (List.forall_mem_nil _) kept

end

end EnvTemplate.Entries
