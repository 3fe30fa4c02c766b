import EnvTemplate.Proofs.Codec.Form
import EnvTemplate.Proofs.Entries
import EnvTemplate.Resolve
import EnvTemplate.Tables
import Mathlib.Data.List.TakeWhile
/-! Nested data as a query. A tree of mappings and sequences is written leaf by leaf, each under a key
that names its place by brackets. Storing the leaves one after the other builds the tree again: what
has been stored before is always the tree of the leaves before. -/
namespace EnvTemplate.Query

/-- A text and the segments that lead to it. -/
structure Leaf where
  path : List Segment
  text : String

def Leaf.below (s : Segment) (leaf : Leaf) : Leaf :=
  ⟨s :: leaf.path, leaf.text⟩

mutual

/-- The leaves of a tree, depth first. -/
def leaves : Value → List Leaf
  | .string text => [⟨[], text⟩]
  | .mapping entries => entryLeaves entries
  | .sequence items => itemLeaves items
  | _ => []

def entryLeaves : List (String × Value) → List Leaf
  | [] => []
  | (key, v) :: rest => (leaves v).map (Leaf.below (.under key)) ++ entryLeaves rest

def itemLeaves : List Value → List Leaf
  | [] => []
  | item :: rest => (leaves item).map (Leaf.below .append) ++ itemLeaves rest

end

/-- Trees whose leaves brackets can name: an item of a sequence is told from the next one only by its
single leaf. -/
inductive IsTree : Value → Prop
  | leaf (text : String) : IsTree (.string text)
  | mapping {entries : List (String × Value)} : entries ≠ [] → Entries.Distinct entries →
      (∀ entry ∈ entries, entry.1 ≠ "" ∧ ']' ∉ entry.1.toList) →
      (∀ entry ∈ entries, IsTree entry.2) → IsTree (.mapping entries)
  | sequence {items : List Value} : items ≠ [] → (∀ item ∈ items, (leaves item).length = 1) →
      (∀ item ∈ items, IsTree item) → IsTree (.sequence items)

def Segment.written : Segment → List Char
  | .under key => '[' :: key.toList ++ [']']
  | .append => ['[', ']']

def Leaf.pair (name : String) (leaf : Leaf) : List Char × List Char :=
  (name.toList ++ leaf.path.flatMap Segment.written, leaf.text.toList)

def pairsOf (entries : Entries Value) : List (List Char × List Char) :=
  entries.flatMap fun entry => (leaves entry.2).map (Leaf.pair entry.1)

def encode (entries : Entries Value) : List Char :=
  Form.encodePairs (pairsOf entries)

/-! ### Storing leaves -/

def assignAll (slot : Value) (ls : List Leaf) : Option Value :=
  ls.foldlM (fun slot leaf => assign slot leaf.path leaf.text) slot

theorem assignAll_append (slot : Value) (front rest : List Leaf) :
    assignAll slot (front ++ rest) = (assignAll slot front).bind fun v => assignAll v rest :=
  List.foldlM_append

/-- Leaves below a key are stored in the slot of this key. -/
theorem assignAll_below_under (slot : Value) (key : String) {ls : List Leaf} (some : ls ≠ []) :
    assignAll slot (ls.map (Leaf.below (.under key))) =
      (assignAll ((Entries.get? (asMapping slot) key).getD .null) ls).map fun v =>
        .mapping (Entries.insert (asMapping slot) key v) := by
  induction ls generalizing slot with
  | nil => contradiction
  | cons leaf rest ih =>
    rw [List.map_cons, assignAll, assignAll, List.foldlM_cons, List.foldlM_cons, Leaf.below, assign]
    cases assign ((Entries.get? (asMapping slot) key).getD .null) leaf.path leaf.text with
    | none => rfl
    | some child =>
      by_cases last : rest = []
      · subst last
        rfl
      · have later := ih (.mapping (Entries.insert (asMapping slot) key child)) last
        simp only [asMapping, Entries.get?_insert_self, Option.getD_some,
          Entries.insert_insert] at later
        exact later

theorem leaves_ne_nil {v : Value} (tree : IsTree v) : leaves v ≠ [] := by
  induction tree with
  | leaf text => simp [leaves]
  | @mapping entries some _ _ _ ih =>
    obtain ⟨⟨key, v⟩, rest, rfl⟩ := List.exists_cons_of_ne_nil some
    simp [leaves, entryLeaves, ih (key, v) List.mem_cons_self]
  | @sequence items some _ _ ih =>
    obtain ⟨item, rest, rfl⟩ := List.exists_cons_of_ne_nil some
    simp [leaves, itemLeaves, ih item List.mem_cons_self]

/-- Trees under new keys come behind what is there, in their order. -/
theorem assignAll_entryLeaves {entries before : Entries Value}
    (distinct : (Entries.keys before ++ Entries.keys entries).Nodup)
    (trees : ∀ entry ∈ entries, IsTree entry.2)
    (built : ∀ entry ∈ entries, assignAll .null (leaves entry.2) = some entry.2) :
    assignAll (.mapping before) (entryLeaves entries) = some (.mapping (before ++ entries)) := by
  induction entries generalizing before with
  | nil => simp [entryLeaves, assignAll]
  | cons entry rest ih =>
    obtain ⟨key, v⟩ := entry
    have new : key ∉ Entries.keys before := by
      intro member
      exact (List.nodup_append.mp distinct).2.2 key member key (by simp [Entries.keys]) rfl
    have distinctRest : (Entries.keys (before ++ [(key, v)]) ++ Entries.keys rest).Nodup := by
      simpa [Entries.keys] using distinct
    have tail := ih distinctRest (fun entry member => trees entry (List.mem_cons_of_mem _ member))
      (fun entry member => built entry (List.mem_cons_of_mem _ member))
    have value : assignAll .null (leaves v) = some v := built (key, v) List.mem_cons_self
    have first := assignAll_below_under (.mapping before) key
      (leaves_ne_nil (trees (key, v) List.mem_cons_self))
    rw [asMapping, Entries.get?_eq_none_iff.mpr new, Option.getD_none, value, Option.map_some,
      Entries.insert_of_notMem new] at first
    rw [entryLeaves, assignAll_append, first, Option.bind_some, tail, List.append_assoc,
      List.singleton_append]

/-- Items with one leaf each come behind what is there. -/
theorem assignAll_itemLeaves {items before : List Value}
    (single : ∀ item ∈ items, (leaves item).length = 1)
    (built : ∀ item ∈ items, assignAll .null (leaves item) = some item) :
    assignAll (.sequence before) (itemLeaves items) = some (.sequence (before ++ items)) := by
  induction items generalizing before with
  | nil => simp [itemLeaves, assignAll]
  | cons item rest ih =>
    have tail := @ih (before ++ [item]) (fun item member => single item (List.mem_cons_of_mem _ member))
      (fun item member => built item (List.mem_cons_of_mem _ member))
    obtain ⟨leaf, only⟩ := List.length_eq_one_iff.mp (single item List.mem_cons_self)
    have value : assign .null leaf.path leaf.text = some item := by
      have whole := built item List.mem_cons_self
      rw [only] at whole
      simpa [assignAll] using whole
    have first : assignAll (.sequence before) [leaf.below .append] =
        some (.sequence (before ++ [item])) := by
      simp [assignAll, Leaf.below, assign, value]
    rw [itemLeaves, only, List.map_singleton, assignAll_append, first, Option.bind_some, tail,
      List.append_assoc, List.singleton_append]

/-- Storing the leaves of a tree builds this tree. -/
theorem assignAll_leaves {v : Value} (tree : IsTree v) :
    assignAll .null (leaves v) = some v := by
  induction tree with
  | leaf text => rfl
  | @mapping entries some distinct _ trees ih =>
    have whole := @assignAll_entryLeaves entries [] distinct trees ih
    obtain ⟨⟨key, v⟩, rest, rfl⟩ := List.exists_cons_of_ne_nil some
    -- the first leaf makes a mapping of an empty slot
    have start : assignAll .null (entryLeaves ((key, v) :: rest)) =
        assignAll (.mapping []) (entryLeaves ((key, v) :: rest)) := by
      have present := leaves_ne_nil (trees (key, v) List.mem_cons_self)
      rw [entryLeaves, assignAll_append, assignAll_append, assignAll_below_under _ key present,
        assignAll_below_under _ key present]
      rfl
    exact start.trans whole
  | @sequence items some single _ ih =>
    have whole := @assignAll_itemLeaves items [] single ih
    obtain ⟨item, rest, rfl⟩ := List.exists_cons_of_ne_nil some
    -- the first leaf makes a sequence of an empty slot
    have start : assignAll .null (itemLeaves (item :: rest)) =
        assignAll (.sequence []) (itemLeaves (item :: rest)) := by
      obtain ⟨leaf, only⟩ := List.length_eq_one_iff.mp (single item List.mem_cons_self)
      rw [itemLeaves, only, List.map_singleton, assignAll_append, assignAll_append]
      rfl
    exact start.trans whole

/-! ### Keys of leaves -/

def Segment.Bracketable : Segment → Prop
  | .under key => key ≠ "" ∧ ']' ∉ key.toList
  | .append => True

theorem segmentsFrom_inner {key : List Char} (closed : ']' ∉ key) (inner rest : List Char) :
    segmentsFrom (some inner) (key ++ ']' :: rest) =
      .ofText (inner.reverse ++ key) :: segmentsFrom none rest := by
  induction key generalizing inner with
  | nil => simp [segmentsFrom]
  | cons c key ih =>
    obtain ⟨different, closed⟩ : ']' ≠ c ∧ ']' ∉ key := by simpa using closed
    rw [List.cons_append, segmentsFrom, if_neg (Ne.symm different), ih closed]
    simp

theorem segmentsFrom_written {path : List Segment} (bracketable : ∀ s ∈ path, s.Bracketable) :
    segmentsFrom none (path.flatMap Segment.written) = path := by
  induction path with
  | nil => rfl
  | cons s path ih =>
    have tail := ih fun t member => bracketable t (List.mem_cons_of_mem s member)
    rw [List.flatMap_cons]
    cases s with
    | under key =>
      obtain ⟨nonempty, closed⟩ : key ≠ "" ∧ ']' ∉ key.toList := bracketable _ List.mem_cons_self
      have inner := segmentsFrom_inner closed [] (path.flatMap Segment.written)
      have named : Segment.ofText key.toList = .under key := by
        simp [Segment.ofText, nonempty]
      simp only [Segment.written, List.cons_append, List.append_assoc, List.nil_append]
      rw [segmentsFrom, if_pos rfl, inner, tail, List.reverse_nil, List.nil_append, named]
    | append =>
      simp only [Segment.written, List.cons_append, List.nil_append]
      rw [segmentsFrom, if_pos rfl, segmentsFrom, if_pos rfl, tail]
      rfl

theorem splitKey_append {name : String} {brackets : List Char} (nonempty : name ≠ "")
    (plain : '[' ∉ name.toList) (opened : ∀ c ∈ brackets.head?, c = '[') :
    splitKey (name.toList ++ brackets) =
      if brackets.contains ']' then some ⟨name, segmentsFrom none brackets⟩
      else some ⟨String.ofList (name.toList ++ brackets), []⟩ := by
  have inName : ∀ c ∈ name.toList, (c != '[') = true := by
    intro c member
    have different : c ≠ '[' := by
      rintro rfl
      exact plain member
    simpa using different
  have base : (name.toList ++ brackets).takeWhile (· != '[') = name.toList := by
    rw [List.takeWhile_append_of_pos inName]
    cases brackets with
    | nil => simp
    | cons c inner => simp [opened c rfl]
  have behind : (name.toList ++ brackets).dropWhile (· != '[') = brackets := by
    rw [List.dropWhile_append_of_pos inName]
    cases brackets with
    | nil => rfl
    | cons c inner => simp [opened c rfl]
  have some : name.toList.isEmpty = false := by simpa using nonempty
  simp only [splitKey, base, behind, some, String.ofList_toList, Bool.false_eq_true, if_false]

/-- The key of a leaf names its place. -/
theorem splitKey_pair {name : String} {leaf : Leaf} (nonempty : name ≠ "") (plain : '[' ∉ name.toList)
    (bracketable : ∀ s ∈ leaf.path, s.Bracketable) :
    splitKey (leaf.pair name).1 = some ⟨name, leaf.path⟩ := by
  have segments := segmentsFrom_written bracketable
  cases path : leaf.path with
  | nil =>
    rw [Leaf.pair, path, List.flatMap_nil, splitKey_append nonempty plain (by simp)]
    simp
  | cons s rest =>
    have opened : ∀ c ∈ (leaf.path.flatMap Segment.written).head?, c = '[' := by
      cases s <;> simp [path, Segment.written]
    have closed : (leaf.path.flatMap Segment.written).contains ']' = true := by
      cases s <;> simp [path, Segment.written]
    rw [Leaf.pair, splitKey_append nonempty plain opened, if_pos closed, segments, path]

theorem entryLeaves_eq_flatMap (entries : List (String × Value)) :
    entryLeaves entries =
      entries.flatMap fun entry => (leaves entry.2).map (Leaf.below (.under entry.1)) := by
  induction entries with
  | nil => rfl
  | cons entry rest ih => rw [entryLeaves, ih, List.flatMap_cons]

theorem itemLeaves_eq_flatMap (items : List Value) :
    itemLeaves items = items.flatMap fun item => (leaves item).map (Leaf.below .append) := by
  induction items with
  | nil => rfl
  | cons item rest ih => rw [itemLeaves, ih, List.flatMap_cons]

theorem bracketable_of_mem_leaves {v : Value} (tree : IsTree v) {leaf : Leaf}
    (member : leaf ∈ leaves v) : ∀ s ∈ leaf.path, s.Bracketable := by
  induction tree generalizing leaf with
  | leaf text =>
    obtain rfl := List.mem_singleton.mp member
    simp
  | @mapping entries _ _ keys _ ih =>
    rw [leaves, entryLeaves_eq_flatMap] at member
    obtain ⟨entry, among, member⟩ := List.mem_flatMap.mp member
    obtain ⟨inner, below, rfl⟩ := List.mem_map.mp member
    exact List.forall_mem_cons.mpr ⟨keys entry among, ih entry among below⟩
  | @sequence items _ _ _ ih =>
    rw [leaves, itemLeaves_eq_flatMap] at member
    obtain ⟨item, among, member⟩ := List.mem_flatMap.mp member
    obtain ⟨inner, below, rfl⟩ := List.mem_map.mp member
    exact List.forall_mem_cons.mpr ⟨trivial, ih item among below⟩

/-! ### The whole query -/

/-- Storing the pairs of leaves below a name is storing the leaves under this name. -/
theorem foldlM_store_pair {name : String} (nonempty : name ≠ "") (plain : '[' ∉ name.toList)
    {ls : List Leaf} (bracketable : ∀ leaf ∈ ls, ∀ s ∈ leaf.path, s.Bracketable)
    (before : Entries Value) :
    ((ls.map (Leaf.pair name)).foldlM store before).map Value.mapping =
      assignAll (.mapping before) (ls.map (Leaf.below (.under name))) := by
  induction ls generalizing before with
  | nil => rfl
  | cons leaf rest ih =>
    have key := splitKey_pair nonempty plain (bracketable leaf List.mem_cons_self)
    have stored : (store before (leaf.pair name)).map Value.mapping =
        assign (.mapping before) (leaf.below (.under name)).path
          (leaf.below (.under name)).text := by
      rw [mapping_store key, Leaf.pair, String.ofList_toList]
      rfl
    have tail := ih fun other member => bracketable other (List.mem_cons_of_mem leaf member)
    rw [List.map_cons, List.map_cons, List.foldlM_cons, assignAll, List.foldlM_cons, ← stored]
    cases store before (leaf.pair name) with
    | none => rfl
    | some after => exact tail after

theorem foldlM_store_pairsOf {entries : Entries Value}
    (names : ∀ entry ∈ entries, entry.1 ≠ "" ∧ '[' ∉ entry.1.toList)
    (trees : ∀ entry ∈ entries, IsTree entry.2) (before : Entries Value) :
    ((pairsOf entries).foldlM store before).map Value.mapping =
      assignAll (.mapping before) (entryLeaves entries) := by
  induction entries generalizing before with
  | nil => rfl
  | cons entry rest ih =>
    obtain ⟨nonempty, plain⟩ := names entry List.mem_cons_self
    have bracketable := fun leaf member =>
      @bracketable_of_mem_leaves _ (trees entry List.mem_cons_self) leaf member
    have first := foldlM_store_pair nonempty plain bracketable before
    have tail := ih (fun other member => names other (List.mem_cons_of_mem entry member))
      (fun other member => trees other (List.mem_cons_of_mem entry member))
    rw [pairsOf, List.flatMap_cons, List.foldlM_append, entryLeaves, assignAll_append, ← first]
    cases ((leaves entry.2).map (Leaf.pair entry.1)).foldlM store before with
    | none => rfl
    | some after => exact tail after

theorem ofPairs_pairsOf {entries : Entries Value} (distinct : Entries.Distinct entries)
    (names : ∀ entry ∈ entries, entry.1 ≠ "" ∧ '[' ∉ entry.1.toList)
    (trees : ∀ entry ∈ entries, IsTree entry.2) : ofPairs (pairsOf entries) = some entries := by
  have stored := foldlM_store_pairsOf names trees []
  have built := @assignAll_entryLeaves entries [] distinct trees
    fun entry member => assignAll_leaves (trees entry member)
  obtain ⟨whole, found, same⟩ := Option.map_eq_some_iff.mp (stored.trans built)
  obtain rfl := Value.mapping.inj same
  exact found

/-! ### Texts that are no URL -/

/-- A URL has a colon behind its scheme. -/
theorem parse?_eq_none {text : List Char} (plain : ':' ∉ text) : Url.parse? text = none := by
  have cleaned : ':' ∉ Url.clean text := fun member =>
    plain ((Text.infix_strip _ text).subset (List.mem_of_mem_filter member))
  have scheme : Url.scheme? (Url.clean text) = none := by
    rw [Url.scheme?, List.span_eq_takeWhile_dropWhile]
    split
    · rename_i letter more rest split
      have colon : ':' ∈ (Url.clean text).dropWhile Url.isSchemeChar := by
        rw [(Prod.mk.inj split).2]
        exact List.mem_cons_self
      exact absurd ((List.dropWhile_suffix _).mem colon) cleaned
    · rfl
  rw [Url.parse?, scheme]
  rfl

/-- An encoded query is its own query component. -/
theorem component_encodePairs (ps : List (List Char × List Char)) :
    component (Form.encodePairs ps) = Form.encodePairs ps := by
  have absent : ∀ c, ¬ Form.IsEncoded c → c ≠ '=' → c ≠ '&' → c ∉ Form.encodePairs ps := by
    intro c other notEquals notAmpersand member
    obtain encoded | same | same := Form.mem_encodePairs member
    · exact other encoded
    · exact notEquals same
    · exact notAmpersand same
  have colon := absent ':' (by simp [Form.IsEncoded, Form.isPlain]) (by decide) (by decide)
  have question := absent '?' (by simp [Form.IsEncoded, Form.isPlain]) (by decide) (by decide)
  have number := absent '#' (by simp [Form.IsEncoded, Form.isPlain]) (by decide) (by decide)
  have whole : Text.cut '?' (Form.encodePairs ps) = none := Text.cut_eq_none question
  have upTo : (Form.encodePairs ps).takeWhile (· != '#') = Form.encodePairs ps := by
    rw [List.takeWhile_eq_self_iff]
    intro c member
    have different : c ≠ '#' := by
      rintro rfl
      exact number member
    simpa using different
  rw [component, parse?_eq_none colon, whole]
  exact upTo

theorem parse_encode {entries : Entries Value} (distinct : Entries.Distinct entries)
    (names : ∀ entry ∈ entries, entry.1 ≠ "" ∧ '[' ∉ entry.1.toList)
    (trees : ∀ entry ∈ entries, IsTree entry.2) :
    parse (component (encode entries)) = some entries := by
  rw [encode, component_encodePairs, parse, Form.pairs_encodePairs]
  exact ofPairs_pairsOf distinct names trees

/-- A mapping of trees that is written as a query is the value of this query again, with its nesting,
its order and its texts. -/
theorem apply_queryString_encode (w : World) {entries : Entries Value}
    (distinct : Entries.Distinct entries)
    (names : ∀ entry ∈ entries, entry.1 ≠ "" ∧ '[' ∉ entry.1.toList)
    (trees : ∀ entry ∈ entries, IsTree entry.2) (heap : String) :
    w.apply ⟨.queryString, none⟩ (.string (String.ofList (encode entries))) heap =
      .ok (.mapping entries) := by
  have text : (Value.string (String.ofList (encode entries))).toText.toList = encode entries :=
    String.toList_ofList
  have whole := parse_encode distinct names trees
  simp only [World.apply, Value.parseQuery, Value.ofQuery, text, whole]

/-- A name with a closing bracket, a key with an opening one, and a sequence of three shapes of items
under it. -/
def uneven : Entries Value :=
  [("a]", .mapping [("k[", .sequence [.string "1&=", .mapping [("ü", .string "")],
    .sequence [.string "%"]]), ("2", .string "x")]), ("b c", .string "?#")]

theorem apply_queryString_uneven :
    Entries.Distinct uneven ∧ (∀ entry ∈ uneven, entry.1 ≠ "" ∧ '[' ∉ entry.1.toList) ∧
      (∀ entry ∈ uneven, IsTree entry.2) ∧
      String.ofList (encode uneven) =
        "a%5D%5Bk%5B%5D%5B%5D=1%26%3D&a%5D%5Bk%5B%5D%5B%5D%5B%C3%BC%5D=&" ++
          "a%5D%5Bk%5B%5D%5B%5D%5B%5D=%25&a%5D%5B2%5D=x&b+c=%3F%23" ∧
      (Tables.world {}).apply ⟨.queryString, none⟩ (.string (String.ofList (encode uneven))) "" =
        .ok (.mapping uneven) := by
  have distinct : Entries.Distinct uneven := by decide
  have names : ∀ entry ∈ uneven, entry.1 ≠ "" ∧ '[' ∉ entry.1.toList := by decide
  have items : IsTree (.sequence [.string "1&=", .mapping [("ü", .string "")],
      .sequence [.string "%"]]) := by
    refine .sequence (by simp) (by simp [leaves, entryLeaves, itemLeaves]) ?_
    simp only [List.forall_mem_cons, List.not_mem_nil, false_implies, implies_true, and_true]
    refine ⟨.leaf _, .mapping (by simp) (by decide) (by decide) ?_, .sequence (by simp) (by simp [leaves]) ?_⟩
    · simpa using IsTree.leaf ""
    · simpa using IsTree.leaf "%"
  have trees : ∀ entry ∈ uneven, IsTree entry.2 := by
    simp only [uneven, List.forall_mem_cons, List.not_mem_nil, false_implies, implies_true, and_true]
    refine ⟨.mapping (by simp) (by decide) (by decide) ?_, .leaf _⟩
    simpa using ⟨items, IsTree.leaf "x"⟩
  exact ⟨distinct, names, trees, by decide, apply_queryString_encode _ distinct names trees ""⟩

end EnvTemplate.Query
