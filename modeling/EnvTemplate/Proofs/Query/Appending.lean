import EnvTemplate.Proofs.Entries
import EnvTemplate.Proofs.Number.Decimal
import EnvTemplate.Query
/-! Appending to the data of a query. The number of a new element is one more than the largest one
that a key spells, so it is new as long as 64 bits hold it; where they do not, the query has no value.
One element comes behind the others, and no other part of the data changes. -/
namespace EnvTemplate.Query

/-- The part of a value under a row of keys. Items of a sequence stand under their positions. -/
def below? : Value → List String → Option Value
  | v, [] => some v
  | v, key :: path => (Entries.get? (asMapping v) key).bind fun inner => below? inner path

/-- A value with a part put under a row of keys. -/
def place (v : Value) : List String → (part : Value) → Value
  | [], part => part
  | key :: path, part =>
    let inner := (Entries.get? (asMapping v) key).getD .null
    .mapping (Entries.insert (asMapping v) key (place inner path part))

/-- What a text that is stored along segments makes of nothing. -/
def fresh : List Segment → (text : String) → Value
  | [], text => .string text
  | .append :: rest, text => .sequence [fresh rest text]
  | .under key :: rest, text => .mapping [(key, fresh rest text)]

def numeral (n : Nat) : String :=
  String.ofList (Decimal.ofNat n)

/-- The number of a new element of a mapping, if 64 bits hold it. -/
structure IsNext (entries : Entries Value) (n : Nat) : Prop where
  index : (nextIndex entries).map Int64.toInt = some (n : Int)
  fits : (n : Int) ≤ Decimal.maxInt64
  new : numeral n ∉ Entries.keys entries
  greater : ∀ key ∈ Entries.keys entries, ∀ k, keyNumber? key = some k → k.toInt < n
  successor : n = 0 ∨ ∃ key ∈ Entries.keys entries, ∃ k, keyNumber? key = some k ∧ (n : Int) = k.toInt + 1

/-- What stays when the part under a row of keys changes: the parts beside it, and the keys above it
in their order. -/
structure KeepsAround (path : List String) (v changed : Value) : Prop where
  beside : ∀ other, ¬ path <+: other → ¬ other <+: path → below? changed other = below? v other
  above : ∀ front key back, path = front ++ key :: back → ∃ outer entries,
    below? v front = some outer ∧ below? changed front = some (.mapping entries) ∧
      Entries.keys entries = (asMapping outer).keys

/-! ### The next number -/

instance lawfulOrderMax : Std.LawfulOrderMax Int64 := by
  have choice (a b : Int64) : max a b = if a ≤ b then b else a := rfl
  refine .of_max_le_iff (fun a b c => ?_) (fun a b => ?_)
  · rw [choice]
    split
    · rename_i order
      exact ⟨fun bound => ⟨Int64.le_trans order bound, bound⟩, And.right⟩
    · rename_i order
      have other : b ≤ a := Std.le_of_not_ge order
      exact ⟨fun bound => ⟨bound, Int64.le_trans other bound⟩, And.left⟩
  · rw [choice]
    split
    · exact Or.inr rfl
    · exact Or.inl rfl

theorem foldl_max_spec (first : Int64) (rest : List Int64) :
    rest.foldl max first ∈ first :: rest ∧ ∀ k ∈ first :: rest, k ≤ rest.foldl max first :=
  List.max?_eq_some_iff.mp List.max?_cons'

theorem nextIndex_cases (entries : Entries Value) :
    (∀ key ∈ Entries.keys entries, ∀ k, keyNumber? key = some k → k < 0) ∧
      nextIndex entries = some 0 ∨
    ∃ largest, 0 ≤ largest ∧ (∃ key ∈ Entries.keys entries, keyNumber? key = some largest) ∧
      (∀ key ∈ Entries.keys entries, ∀ k, keyNumber? key = some k → k ≤ largest) ∧
      nextIndex entries = Decimal.int64? (largest.toInt + 1) := by
  have member : ∀ k, k ∈ ((Entries.keys entries).filterMap keyNumber?).filter (0 ≤ ·) ↔
      (∃ key ∈ Entries.keys entries, keyNumber? key = some k) ∧ 0 ≤ k := by
    simp
  rw [nextIndex]
  cases indices : ((Entries.keys entries).filterMap keyNumber?).filter (0 ≤ ·) with
  | nil =>
    refine Or.inl ⟨fun key inside k spelled => ?_, rfl⟩
    rw [indices] at member
    by_contra least
    exact absurd ((member k).mpr ⟨⟨key, inside, spelled⟩, Int64.not_lt.mp least⟩) List.not_mem_nil
  | cons first rest =>
    rw [indices] at member
    obtain ⟨inside, bound⟩ := foldl_max_spec first rest
    obtain ⟨spelled, least⟩ := (member _).mp inside
    refine Or.inr ⟨_, least, spelled, fun key among k spells => ?_, rfl⟩
    by_cases positive : 0 ≤ k
    · exact bound k ((member k).mpr ⟨⟨key, among, spells⟩, positive⟩)
    · exact Int64.le_trans (Std.le_of_not_ge positive) least

/-- Only the largest integer of 64 bits has no successor in 64 bits. -/
theorem int64?_succ_eq_none_iff (k : Int64) :
    Decimal.int64? (k.toInt + 1) = none ↔ k = Int64.maxValue := by
  have least : -2 ^ 63 ≤ k.toInt := k.le_toInt
  have most : k.toInt < 2 ^ 63 := k.toInt_lt
  have top : Int64.maxValue.toInt = 2 ^ 63 - 1 := rfl
  have range : Decimal.minInt64 = -2 ^ 63 ∧ Decimal.maxInt64 = 2 ^ 63 - 1 := ⟨rfl, rfl⟩
  rw [Decimal.int64?_eq_none_iff, ← Int64.toInt_inj]
  omega

theorem keyNumber?_numeral {n : Nat} (fits : (n : Int) ≤ Decimal.maxInt64) :
    keyNumber? (numeral n) = some (.ofInt n) := by
  have least : Decimal.minInt64 ≤ (n : Int) := Int.le_trans (by decide) (Int.natCast_nonneg n)
  rw [keyNumber?, numeral, String.toList_ofList, Decimal.toInt?_ofNat, Option.bind_some,
    Decimal.int64?, if_pos ⟨least, fits⟩]

/-- A number above all that keys spell is no key. -/
theorem numeral_notMem {entries : Entries Value} {n : Nat} (fits : (n : Int) ≤ Decimal.maxInt64)
    (greater : ∀ key ∈ Entries.keys entries, ∀ k, keyNumber? key = some k → k.toInt < n) :
    numeral n ∉ Entries.keys entries := by
  intro inside
  have smaller := greater _ inside _ (keyNumber?_numeral fits)
  have largest : Decimal.maxInt64 = 2 ^ 63 - 1 := rfl
  rw [Int64.toInt_ofInt_of_le (by omega) (by omega)] at smaller
  omega

/-- Unless a key spells the largest integer of 64 bits, 64 bits hold the next number. -/
theorem exists_isNext {entries : Entries Value}
    (free : ∀ key ∈ Entries.keys entries, keyNumber? key ≠ some Int64.maxValue) :
    ∃ n, IsNext entries n := by
  obtain ⟨negative, zero⟩ | ⟨largest, least, ⟨key, inside, spelled⟩, most, next⟩ :=
    nextIndex_cases entries
  · have greater : ∀ key ∈ Entries.keys entries, ∀ k, keyNumber? key = some k →
        k.toInt < (0 : Nat) := fun key inside k spelled =>
      Int64.lt_iff_toInt_lt.mp (negative key inside k spelled)
    exact ⟨0, by rw [zero]; rfl, by decide, numeral_notMem (by decide) greater, greater, Or.inl rfl⟩
  · have other : largest ≠ Int64.maxValue := by
      rintro rfl
      exact free key inside spelled
    obtain ⟨succ, held⟩ :=
      Option.ne_none_iff_exists'.mp (mt (int64?_succ_eq_none_iff largest).mp other)
    obtain ⟨sum, _, fits⟩ := Decimal.toInt_of_int64? held
    have positive : (0 : Int64).toInt ≤ largest.toInt := Int64.le_iff_toInt_le.mp least
    obtain ⟨n, number⟩ : ∃ n : Nat, largest.toInt + 1 = n :=
      Int.eq_ofNat_of_zero_le (Int.le_trans positive (Int.le_add_one (Int.le_refl _)))
    rw [number] at sum fits
    have greater : ∀ key ∈ Entries.keys entries, ∀ k, keyNumber? key = some k → k.toInt < n := by
      intro key among k spells
      have order := Int64.le_iff_toInt_le.mp (most key among k spells)
      omega
    refine ⟨n, ?_, fits, numeral_notMem fits greater, greater,
      Or.inr ⟨key, inside, largest, spelled, number.symm⟩⟩
    rw [next, held, Option.map_some, sum]

/-- Where a key spells the largest integer of 64 bits, there is no next number. -/
theorem nextIndex_of_full {entries : Entries Value}
    (full : ∃ key ∈ Entries.keys entries, keyNumber? key = some Int64.maxValue) :
    nextIndex entries = none := by
  obtain ⟨key, inside, spelled⟩ := full
  obtain ⟨negative, _⟩ | ⟨largest, _, _, most, next⟩ := nextIndex_cases entries
  · exact absurd (negative key inside _ spelled) (by decide)
  · have top : Int64.maxValue ≤ largest := most key inside _ spelled
    rw [next]
    exact (int64?_succ_eq_none_iff largest).mpr
      (Int64.le_antisymm (Int64.le_maxValue largest) top)

/-! ### Storing along keys -/

/-- An empty slot can always be filled. -/
theorem assign_null (segments : List Segment) (text : String) :
    assign .null segments text = some (fresh segments text) := by
  induction segments with
  | nil => rfl
  | cons segment rest ih =>
    cases segment with
    | append =>
      rw [assign, ih]
      rfl
    | under key =>
      have empty : Entries.get? (asMapping .null) key = none := rfl
      rw [assign]
      simp only [empty, Option.getD_none, ih]
      rfl

theorem below?_null {path : List String} (some : path ≠ []) : below? .null path = none := by
  cases path with
  | nil => contradiction
  | cons key path => rfl

theorem getD_below?_null (path : List String) : (below? .null path).getD .null = .null := by
  cases path <;> rfl

theorem getD_below?_cons (v : Value) (key : String) (path : List String) :
    (below? v (key :: path)).getD .null =
      (below? ((Entries.get? (asMapping v) key).getD .null) path).getD .null := by
  rw [below?]
  cases Entries.get? (asMapping v) key with
  | none => exact (getD_below?_null path).symm
  | some inner => rfl

/-- Storing below a row of keys stores in the part under it. -/
theorem assign_under (v : Value) (path : List String) (rest : List Segment) (text : String) :
    assign v (path.map .under ++ rest) text =
      (assign ((below? v path).getD .null) rest text).map (place v path) := by
  induction path generalizing v with
  | nil => exact (Option.map_id' (x := assign v rest text)).symm
  | cons key path ih =>
    rw [List.map_cons, List.cons_append, assign, getD_below?_cons]
    simp only [ih, Option.bind_eq_bind, Option.bind_map]
    exact (Option.map_eq_bind ..).symm

theorem below?_place (v : Value) (path : List String) (part : Value) :
    below? (place v path part) path = some part := by
  induction path generalizing v with
  | nil => rfl
  | cons key path ih =>
    rw [place, below?, asMapping, Entries.get?_insert_self, Option.bind_some]
    exact ih _

/-- What is put under a row of keys leaves the parts beside it. -/
theorem below?_place_of_apart {v : Value} {path other : List String} (outside : ¬ path <+: other)
    (inside : ¬ other <+: path) (part : Value) :
    below? (place v path part) other = below? v other := by
  induction path generalizing v other with
  | nil => exact absurd List.nil_prefix outside
  | cons key path ih =>
    cases other with
    | nil => exact absurd List.nil_prefix inside
    | cons first other =>
      rw [place, below?, asMapping]
      by_cases same : first = key
      · subst same
        rw [List.cons_prefix_cons, and_iff_right rfl] at outside inside
        rw [Entries.get?_insert_self, Option.bind_some, ih outside inside, below?]
        cases Entries.get? (asMapping v) first with
        | none =>
          refine below?_null ?_
          rintro rfl
          exact inside List.nil_prefix
        | some inner => rfl
      · rw [Entries.get?_insert_of_ne _ same, below?]

theorem below?_append (v : Value) (front path : List String) :
    below? v (front ++ path) = (below? v front).bind fun outer => below? outer path := by
  induction front generalizing v with
  | nil => rfl
  | cons key front ih =>
    rw [List.cons_append, below?, below?, Option.bind_assoc]
    simp only [ih]

/-- Up to a part that is there, what is put below it is put into it. -/
theorem below?_place_append {v outer : Value} {front : List String}
    (reached : below? v front = some outer) (back : List String) (part : Value) :
    below? (place v (front ++ back) part) front = some (place outer back part) := by
  induction front generalizing v with
  | nil =>
    obtain rfl := Option.some.inj reached
    rfl
  | cons key front ih =>
    obtain ⟨inner, found, reached⟩ := Option.bind_eq_some_iff.mp reached
    rw [List.cons_append, place, below?, asMapping, Entries.get?_insert_self, Option.bind_some, found]
    exact ih reached

theorem keepsAround_place {v container : Value} {path : List String}
    (present : below? v path = some container) (part : Value) :
    KeepsAround path v (place v path part) where
  beside other outside inside := below?_place_of_apart outside inside part
  above front key back whole := by
    subst whole
    rw [below?_append] at present
    obtain ⟨outer, reached, present⟩ := Option.bind_eq_some_iff.mp present
    obtain ⟨inner, found, _⟩ := Option.bind_eq_some_iff.mp present
    exact ⟨outer, _, reached, below?_place_append reached (key :: back) part,
      Entries.keys_insert_of_mem (Entries.mem_keys_of_get? found) _⟩

/-! ### The container -/

theorem assign_append_sequence (items : List Value) (rest : List Segment) (text : String) :
    assign (.sequence items) (.append :: rest) text =
      some (.sequence (items ++ [fresh rest text])) := by
  rw [assign, assign_null]
  rfl

theorem assign_append_mapping (entries : Entries Value) (rest : List Segment) (text : String) :
    assign (.mapping entries) (.append :: rest) text =
      (nextIndex entries).map fun index => .mapping
        (Entries.insert entries (String.ofList (Decimal.ofInt index.toInt)) (fresh rest text)) := by
  rw [assign, assign_null]
  exact (Option.map_eq_bind ..).symm

/-- An element appended to a mapping comes last, with the next number. -/
theorem assign_append_of_isNext {entries : Entries Value} {n : Nat} (next : IsNext entries n)
    (rest : List Segment) (text : String) :
    assign (.mapping entries) (.append :: rest) text =
      some (.mapping (entries ++ [(numeral n, fresh rest text)])) := by
  obtain ⟨index, found, number⟩ := Option.map_eq_some_iff.mp next.index
  have key : String.ofList (Decimal.ofInt index.toInt) = numeral n := by
    rw [number]
    rfl
  rw [assign_append_mapping, found, Option.map_some, key, Entries.insert_of_notMem next.new]

/-! ### The query -/

def dataAfter (query : List Char) (count : Nat) : Option Value :=
  (ofPairs ((Form.pairs query).take count)).map .mapping

section
variable {query : List Char} {count : Nat} {pair : List Char × List Char} {data : Value}

theorem dataAfter_succ {key : Key} (next : (Form.pairs query)[count]? = some pair)
    (split : splitKey pair.1 = some key) (built : dataAfter query count = some data) :
    dataAfter query (count + 1) =
      assign data (.under key.base :: key.segments) (String.ofList pair.2) := by
  obtain ⟨entries, before, rfl⟩ := Option.map_eq_some_iff.mp built
  rw [← mapping_store split, dataAfter, List.take_add_one, next, ofPairs, List.foldlM_append]
  rw [ofPairs] at before
  simp [before]

/-- A query has no value if its first pairs have none. -/
theorem parse_eq_none (stopped : dataAfter query count = none) : parse query = none := by
  have first := Option.map_eq_none_iff.mp stopped
  rw [ofPairs] at first
  rw [parse, ofPairs, ← List.take_append_drop count (Form.pairs query), List.foldlM_append, first]
  rfl

/-- An empty bracket at an existing sequence or mapping adds one element behind the others and leaves
all else. In a mapping the number of the element is the next one, unless a key spells the largest
integer of 64 bits; then the query has no value. -/
theorem dataAfter_append_iff {name : String} {path : List String} {rest : List Segment}
    {container : Value} (next : (Form.pairs query)[count]? = some pair)
    (split : splitKey pair.1 = some ⟨name, path.map .under ++ .append :: rest⟩)
    (built : dataAfter query count = some data)
    (present : below? data (name :: path) = some container) :
    (∀ items, container = .sequence items →
      ∃ changed, dataAfter query (count + 1) = some changed ∧
        KeepsAround (name :: path) data changed ∧
        below? changed (name :: path) =
          some (.sequence (items ++ [fresh rest (String.ofList pair.2)]))) ∧
    ∀ entries, container = .mapping entries →
      ((∃ n changed, IsNext entries n ∧ dataAfter query (count + 1) = some changed ∧
          KeepsAround (name :: path) data changed ∧
          below? changed (name :: path) =
            some (.mapping (entries ++ [(numeral n, fresh rest (String.ofList pair.2))]))) ↔
        ∀ key ∈ Entries.keys entries, keyNumber? key ≠ some Int64.maxValue) ∧
      ((∃ key ∈ Entries.keys entries, keyNumber? key = some Int64.maxValue) →
        dataAfter query (count + 1) = none ∧ parse query = none) := by
  have stored : dataAfter query (count + 1) =
      (assign container (.append :: rest) (String.ofList pair.2)).map
        (place data (name :: path)) := by
    have along := assign_under data (name :: path) (.append :: rest) (String.ofList pair.2)
    rw [present, Option.getD_some] at along
    exact (dataAfter_succ next split built).trans along
  refine ⟨?_, ?_⟩
  · rintro items rfl
    rw [assign_append_sequence, Option.map_some] at stored
    exact ⟨_, stored, keepsAround_place present _, below?_place data (name :: path) _⟩
  · rintro entries rfl
    refine ⟨⟨?_, fun free => ?_⟩, fun full => ?_⟩
    · rintro ⟨n, _, next, _⟩ key inside full
      have above := next.greater key inside _ full
      have top : Int64.maxValue.toInt = Decimal.maxInt64 := rfl
      have fits := next.fits
      omega
    · obtain ⟨n, isNext⟩ := exists_isNext free
      rw [assign_append_of_isNext isNext, Option.map_some] at stored
      exact ⟨n, _, isNext, stored, keepsAround_place present _, below?_place data (name :: path) _⟩
    · rw [assign_append_mapping, nextIndex_of_full full] at stored
      exact ⟨stored, parse_eq_none stored⟩

end

/-- A sequence that has become a mapping, with a signed number among its keys. -/
def promoted : List Char :=
  "a[x][]=1&a[x][5]=2&a[x][%2B7]=3&b=4&a[x][][y]=5".toList

theorem dataAfter_promoted :
    ∃ data n changed, dataAfter promoted 4 = some data ∧
      IsNext [("0", .string "1"), ("5", .string "2"), ("+7", .string "3")] n ∧
      dataAfter promoted 5 = some changed ∧ KeepsAround ["a", "x"] data changed ∧
      below? changed ["a", "x"] =
        some (.mapping [("0", .string "1"), ("5", .string "2"), ("+7", .string "3"),
          (numeral n, .mapping [("y", .string "5")])]) := by
  have appended := @dataAfter_append_iff promoted 4 _ _ "a" ["x"] [.under "y"]
    (.mapping [("0", .string "1"), ("5", .string "2"), ("+7", .string "3")]) rfl rfl rfl rfl
  obtain ⟨n, changed, isNext, whole⟩ := (appended.2 _ rfl).1.mpr (by decide)
  exact ⟨_, n, changed, rfl, isNext, whole⟩

/-- Behind the largest integer of 64 bits a new element has no number, though the query had a value
before. -/
theorem dataAfter_overflow :
    (dataAfter "a[9223372036854775807]=1&a[]=2".toList 1).bind (below? · ["a"]) =
      some (.mapping [("9223372036854775807", .string "1")]) ∧
    splitKey "a[]".toList = some ⟨"a", [.append]⟩ ∧
    dataAfter "a[9223372036854775807]=1&a[]=2".toList 2 = none ∧
    parse "a[9223372036854775807]=1&a[]=2".toList = none :=
  ⟨rfl, rfl, rfl, rfl⟩

end EnvTemplate.Query
