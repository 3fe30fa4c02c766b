import EnvTemplate.Proofs.Json.Writing
import EnvTemplate.Proofs.Value.WellFormed
import EnvTemplate.Proofs.World.JsonFile
/-! Values and JSON documents in exchange. A value that JSON has a place for is the value of its
document, and of the text of its document. A document is the document of its value, but for the
integers that no value holds: they become floats. -/
namespace EnvTemplate

namespace Value

/-! ### Parts of values -/

/-- Induction over a value and all its parts. -/
@[elab_as_elim]
theorem induction {P : Value → Prop} (null : P .null) (bool : ∀ b, P (.bool b))
    (int : ∀ n, P (.int n)) (float : ∀ x, P (.float x)) (string : ∀ s, P (.string s))
    (bytes : ∀ bs, P (.bytes bs))
    (sequence : ∀ items, (∀ item ∈ items, P item) → P (.sequence items))
    (mapping : ∀ entries, (∀ entry ∈ entries, P entry.2) → P (.mapping entries))
    (enumCase : ∀ case, P (.enumCase case)) (v : Value) : P v := by
  refine Value.rec (motive_1 := P) (motive_2 := fun items => ∀ item ∈ items, P item)
    (motive_3 := fun entries => ∀ entry ∈ entries, P entry.2) (motive_4 := fun entry => P entry.2)
    null bool int float string bytes sequence mapping enumCase ?_ ?_ ?_ ?_ ?_ v
  · exact List.forall_mem_nil _
  · exact fun item rest first later => List.forall_mem_cons.mpr ⟨first, later⟩
  · exact List.forall_mem_nil _
  · exact fun entry rest first later => List.forall_mem_cons.mpr ⟨first, later⟩
  · exact fun key v holds => holds

mutual

def all (p : Value → Bool) : Value → Bool
  | .sequence items => p (.sequence items) && itemsAll p items
  | .mapping entries => p (.mapping entries) && entriesAll p entries
  | v => p v

def itemsAll (p : Value → Bool) : List Value → Bool
  | [] => true
  | item :: rest => all p item && itemsAll p rest

def entriesAll (p : Value → Bool) : List (String × Value) → Bool
  | [] => true
  | (_, v) :: rest => all p v && entriesAll p rest

end

section
variable {p : Value → Bool}

theorem all_sequence {items : List Value} :
    (sequence items).all p = true ↔
      p (.sequence items) = true ∧ ∀ item ∈ items, item.all p = true := by
  have inner : itemsAll p items = true ↔ ∀ item ∈ items, item.all p = true := by
    induction items with
    | nil => simp [itemsAll]
    | cons item rest ih => simp [itemsAll, ih]
  rw [all, Bool.and_eq_true, inner]

theorem all_mapping {entries : List (String × Value)} :
    (mapping entries).all p = true ↔
      p (.mapping entries) = true ∧ ∀ entry ∈ entries, entry.2.all p = true := by
  have inner : entriesAll p entries = true ↔ ∀ entry ∈ entries, entry.2.all p = true := by
    induction entries with
    | nil => simp [entriesAll]
    | cons entry rest ih => simp [entriesAll, ih]
  rw [all, Bool.and_eq_true, inner]

end

mutual

def depth : Value → Nat
  | .sequence items => itemsDepth items + 1
  | .mapping entries => entriesDepth entries + 1
  | _ => 0

def itemsDepth : List Value → Nat
  | [] => 0
  | item :: rest => max (depth item) (itemsDepth rest)

def entriesDepth : List (String × Value) → Nat
  | [] => 0
  | (_, v) :: rest => max (depth v) (entriesDepth rest)

end

theorem depth_le_itemsDepth {items : List Value} : ∀ item ∈ items, item.depth ≤ itemsDepth items := by
  induction items with
  | nil => exact List.forall_mem_nil _
  | cons item rest ih =>
    refine List.forall_mem_cons.mpr ⟨Nat.le_max_left _ _, fun other member => ?_⟩
    exact (ih other member).trans (Nat.le_max_right _ _)

theorem depth_le_entriesDepth {entries : List (String × Value)} :
    ∀ entry ∈ entries, entry.2.depth ≤ entriesDepth entries := by
  induction entries with
  | nil => exact List.forall_mem_nil _
  | cons entry rest ih =>
    refine List.forall_mem_cons.mpr ⟨Nat.le_max_left _ _, fun other member => ?_⟩
    exact (ih other member).trans (Nat.le_max_right _ _)

/-! ### Values as documents -/

/-- Whether JSON has a place for what a value is by itself. -/
def isPortable : Value → Bool
  | .bytes _ | .enumCase _ => false
  | .float x => x.isFinite
  | _ => true

def isFloat : Value → Bool
  | .float _ => true
  | _ => false

def hasDistinctKeys : Value → Bool
  | .mapping entries => decide (Entries.Distinct entries)
  | _ => true

/-- A value is the value of its document. -/
theorem ofJson_toJson {v : Value} (portable : v.all isPortable = true) : ofJson v.toJson = v := by
  induction v using Value.induction with
  | null | bool | string => rfl
  | int n => rw [toJson, ofJson, Decimal.int64?_toInt]
  | float x =>
    have finite : x.isFinite = true := portable
    rw [toJson, if_pos finite, ofJson]
  | bytes | enumCase => contradiction
  | sequence items ih =>
    have inner := (all_sequence.mp portable).2
    have same : items.map (ofJson ∘ toJson) = items.map id :=
      List.map_congr_left fun item member => ih item member (inner item member)
    rw [toJson, ofJson, itemsToJson_eq_map, itemsOfJson_eq_map, List.map_map, same, List.map_id]
  | mapping entries ih =>
    have inner := (all_mapping.mp portable).2
    have same : entries.map ((fun m => (m.1, ofJson m.2)) ∘ fun entry => (entry.1, toJson entry.2)) =
        entries.map id :=
      List.map_congr_left fun entry member => Prod.ext rfl (ih entry member (inner entry member))
    rw [toJson, ofJson, entriesToJson_eq_map, entriesOfJson_eq_map, List.map_map, same, List.map_id]

/-- Without floats the document of a value is read back from its text, if it is not too deep. -/
theorem exact_toJson {v : Value} (portable : v.all isPortable = true)
    (floatless : v.all (!·.isFloat) = true) (distinct : v.all hasDistinctKeys = true) {depth : Nat}
    (shallow : v.depth ≤ depth) : v.toJson.Exact depth := by
  induction v using Value.induction generalizing depth with
  | null => exact .null
  | bool b => exact .bool b
  | string s => exact .string s
  | int n =>
    have least := n.le_toInt
    have most := n.toInt_lt
    have signed : Nat.pow 2 63 = 9223372036854775808 := rfl
    have unsigned : Nat.pow 2 64 = 18446744073709551616 := rfl
    exact .integer (by omega) (by omega)
  | float x => contradiction
  | bytes | enumCase => contradiction
  | sequence items ih =>
    obtain ⟨depth, rfl⟩ := Nat.exists_eq_succ_of_ne_zero (Nat.ne_zero_of_lt shallow)
    have below := Nat.le_of_succ_le_succ shallow
    rw [toJson, itemsToJson_eq_map]
    refine .array (List.forall_mem_map.mpr fun item member => ih item member ?_ ?_ ?_ ?_)
    · exact (all_sequence.mp portable).2 item member
    · exact (all_sequence.mp floatless).2 item member
    · exact (all_sequence.mp distinct).2 item member
    · exact (depth_le_itemsDepth item member).trans below
  | mapping entries ih =>
    obtain ⟨depth, rfl⟩ := Nat.exists_eq_succ_of_ne_zero (Nat.ne_zero_of_lt shallow)
    have below := Nat.le_of_succ_le_succ shallow
    have keys : Entries.keys (entries.map fun entry => (entry.1, toJson entry.2)) =
        Entries.keys entries := List.map_map
    rw [toJson, entriesToJson_eq_map]
    refine .object ?_ (List.forall_mem_map.mpr fun entry member => ih entry member ?_ ?_ ?_ ?_)
    · rw [Entries.Distinct, keys]
      exact of_decide_eq_true (all_mapping.mp distinct).1
    · exact (all_mapping.mp portable).2 entry member
    · exact (all_mapping.mp floatless).2 entry member
    · exact (all_mapping.mp distinct).2 entry member
    · exact (depth_le_entriesDepth entry member).trans below

/-- A value is given back by its document, with every number of its kind and everything in its order.
Without floats, whose text is not always read exactly, it is also given back by the text of its
document. -/
theorem exchange_of_portable {v : Value} (portable : v.all isPortable = true) :
    ofJson v.toJson = v ∧
      (v.all (!·.isFloat) = true → v.all hasDistinctKeys = true → v.depth ≤ 127 →
        ∀ (w : World) (argument : Option String) (heap : String),
          w.apply ⟨.json, argument⟩ (.string v.jsonText) heap = .ok v) := by
  refine ⟨ofJson_toJson portable, fun floatless distinct shallow w argument heap => ?_⟩
  have exact := exact_toJson portable floatless distinct shallow
  change reported (parseJson (.string v.jsonText) heap) = .ok v
  simp only [parseJson, parseJson.spelled, scalarText?, jsonText, Json.ofText_toText exact,
    ofJson_toJson portable, reported_ok]

/-- The ends of the integers, a float that looks like one, and empty and repeated parts. -/
def assorted : Value :=
  .mapping [("b", .sequence [.int Int64.minValue, .int Int64.maxValue, .null, .sequence []]),
    ("", .string "a\"\\\n\x01é"), ("a", .mapping [("b", .mapping []), ("a", .bool false)])]

theorem exchange_assorted :
    ofJson (sequence [.float (.zero true), .float (.ofInt 1), .int 1]).toJson =
      .sequence [.float (.zero true), .float (.ofInt 1), .int 1] ∧
    LocalWorld.jsonFiles.world.apply ⟨.json, none⟩ (.string assorted.jsonText) "json:A" =
      .ok assorted :=
  ⟨(exchange_of_portable (by decide)).1,
    (exchange_of_portable (v := assorted) (by decide)).2 (by decide) (by decide) (by decide) _ none _⟩

end Value

/-! ### Documents as values -/

namespace Json

mutual

/-- A document with floats for the integers beyond 64 signed bits. -/
def narrowed : Json → Json
  | .integer n => if (Decimal.int64? n).isSome then .integer n else .float (.ofInt n)
  | .array items => .array (itemsNarrowed items)
  | .object members => .object (membersNarrowed members)
  | document => document

def itemsNarrowed : List Json → List Json
  | [] => []
  | item :: rest => narrowed item :: itemsNarrowed rest

def membersNarrowed : List (String × Json) → List (String × Json)
  | [] => []
  | (key, document) :: rest => (key, narrowed document) :: membersNarrowed rest

end

theorem narrowed_array (items : List Json) :
    (array items).narrowed = .array (items.map narrowed) := by
  rw [narrowed]
  congr 1
  induction items with
  | nil => rfl
  | cons item rest ih => rw [itemsNarrowed, ih, List.map_cons]

theorem narrowed_object (members : List (String × Json)) :
    (object members).narrowed =
      .object (members.map fun member => (member.1, member.2.narrowed)) := by
  rw [narrowed]
  congr 1
  induction members with
  | nil => rfl
  | cons member rest ih => rw [membersNarrowed, ih, List.map_cons]

theorem part?_narrowed (document : Json) (path : List Nat) :
    document.narrowed.part? path = (document.part? path).map narrowed := by
  induction path generalizing document with
  | nil => cases document <;> rfl
  | cons i path ih =>
    cases document with
    | array items =>
      rw [narrowed_array, part?, part?, List.getElem?_map]
      cases items[i]? with
      | none => rfl
      | some item => exact ih item
    | object members =>
      rw [narrowed_object, part?, part?, List.getElem?_map]
      cases members[i]? with
      | none => rfl
      | some member => exact ih member.2
    | integer n =>
      rw [narrowed]
      split <;> rfl
    | null | bool | float | string => rfl

/-- Whether all integers of a document fit 64 signed bits. -/
def Signed (document : Json) : Prop :=
  ∀ path n, document.part? path = some (.integer n) → Decimal.minInt64 ≤ n ∧ n ≤ Decimal.maxInt64

theorem narrowed_eq_iff {document : Json} (bounded : document.Bounded) :
    document.narrowed = document ↔ document.Signed := by
  constructor
  · intro same path n at_path
    have kept := part?_narrowed document path
    rw [same, at_path, Option.map_some, Option.some.injEq, narrowed] at kept
    split at kept
    · rename_i fits
      obtain ⟨m, fits⟩ := Option.isSome_iff_exists.mp fits
      exact (Decimal.toInt_of_int64? fits).2
    · contradiction
  · intro signed
    induction bounded with
    | null | bool | float | string => rfl
    | @integer n _ =>
      have fits : (Decimal.int64? n).isSome = true := by
        rw [Decimal.int64?, if_pos (signed [] n rfl)]
        rfl
      rw [narrowed, if_pos fits]
    | @array items _ ih =>
      have same : items.map narrowed = items.map id := by
        refine List.map_congr_left fun item member => ih item member fun path n at_path => ?_
        obtain ⟨i, found⟩ := List.getElem?_of_mem member
        refine signed (i :: path) n ?_
        rw [part?, found, Option.bind_some, at_path]
      rw [narrowed_array, same, List.map_id]
    | @object members _ ih =>
      have same : members.map (fun member => (member.1, member.2.narrowed)) = members.map id := by
        refine List.map_congr_left fun member present => Prod.ext rfl ?_
        refine ih member present fun path n at_path => ?_
        obtain ⟨i, found⟩ := List.getElem?_of_mem present
        refine signed (i :: path) n ?_
        rw [part?, found, Option.bind_some, at_path]
      rw [narrowed_object, same, List.map_id]

end Json

namespace Value

/-- The document of a document's value. -/
theorem toJson_ofJson {document : Json} (bounded : document.Bounded) :
    (ofJson document).toJson = document.narrowed := by
  induction bounded with
  | null | bool | string => rfl
  | @integer n small =>
    rw [ofJson, Json.narrowed]
    cases fits : Decimal.int64? n with
    | some m => simp [toJson, (Decimal.toInt_of_int64? fits).1]
    | none => simp [toJson, (Binary64.ofInt_spec small).1]
  | float finite => simp [ofJson, toJson, finite, Json.narrowed]
  | @array items _ ih =>
    rw [ofJson, toJson, itemsOfJson_eq_map, itemsToJson_eq_map, List.map_map, Json.narrowed_array]
    exact congrArg _ (List.map_congr_left ih)
  | @object members _ ih =>
    rw [ofJson, toJson, entriesOfJson_eq_map, entriesToJson_eq_map, List.map_map,
      Json.narrowed_object]
    exact congrArg _ (List.map_congr_left fun member present => Prod.ext rfl (ih member present))

theorem apply_json_of_ofText {text : String} {document : Json}
    (spelled : Json.ofText text = .ok document) (w : World) (argument : Option String)
    (heap : String) : w.apply ⟨.json, argument⟩ (.string text) heap = .ok (ofJson document) := by
  change reported (parseJson (.string text) heap) = _
  simp only [parseJson, parseJson.spelled, scalarText?, spelled, reported_ok]

theorem apply_require_of_read {l : LocalWorld} {path : String} {content : List UInt8}
    {document : Json} (json : DocumentFormat.ofPath? path = some .json)
    (held : l.tree.read path = .ok content) (spelled : Json.read content = .ok document)
    (present : Value) (heap : String) :
    l.world.apply ⟨.require, some path⟩ present heap = .ok (ofJson document) := by
  have file : l.tree.isFile path = true := by
    obtain ⟨file, _⟩ | ⟨_, error, unread⟩ := l.tree.read_spec path
    · exact file
    · rw [held] at unread
      contradiction
  have loaded : l.world.loadDocument path = .ok (ofJson document) := by
    change Document.load l.tree path = _
    simp only [Document.load, json, held, Document.read, spelled, Except.mapError]
  change reported (l.world.document _ _ _) = _
  simp only [World.document, LocalWorld.existingFile_world, file, if_true, bind, Except.bind, loaded,
    reported_ok]

/-- A document is the document of its value exactly if its integers fit 64 signed bits. An integer
beyond them becomes the nearest float, and nothing else is changed; so it is with what the `json` step
or a JSON file gives and what is written for it. -/
theorem toJson_ofJson_iff {document : Json} (bounded : document.Bounded) :
    (ofJson document).toJson = document.narrowed ∧
    ((ofJson document).toJson = document ↔ document.Signed) ∧
    (∀ (w : World) (argument : Option String) (text heap : String),
      Json.ofText text = .ok document →
      ∃ v, w.apply ⟨.json, argument⟩ (.string text) heap = .ok v ∧
        v.jsonText = document.narrowed.toText) ∧
    ∀ (l : LocalWorld) (path : String) (content : List UInt8) (present : Value) (heap : String),
      DocumentFormat.ofPath? path = some .json → l.tree.read path = .ok content →
      Json.read content = .ok document →
      ∃ v, l.world.apply ⟨.require, some path⟩ present heap = .ok v ∧
        v.jsonText = document.narrowed.toText := by
  have written : (ofJson document).jsonText = document.narrowed.toText := by
    rw [jsonText, toJson_ofJson bounded]
  refine ⟨toJson_ofJson bounded, ?_, ?_, ?_⟩
  · rw [toJson_ofJson bounded]
    exact Json.narrowed_eq_iff bounded
  · intro w argument text heap spelled
    exact ⟨_, apply_json_of_ofText spelled w argument heap, written⟩
  · intro l path content present heap json held spelled
    exact ⟨_, apply_require_of_read json held spelled present heap, written⟩

/-- A file with the first integer beyond 64 signed bits. -/
def unsignedFile : LocalWorld where
  tree := { files := [(["n.json"], utf8 "[9223372036854775808]")] }

theorem toJson_ofJson_border :
    (∃ v, unsignedFile.world.apply ⟨.json, none⟩ (.string "[9223372036854775807]") "json:A" =
        .ok v ∧ v.jsonText = "[9223372036854775807]") ∧
    ∃ v, unsignedFile.world.apply ⟨.require, some "n.json"⟩ .null "require:n.json" = .ok v ∧
      v.jsonText = "[9.223372036854776e+18]" := by
  have bounded : ∀ n : Int, n.natAbs < Nat.pow 2 64 → (Json.array [.integer n]).Bounded :=
    fun n small => .array (List.forall_mem_singleton.mpr (.integer small))
  have spelled : ∀ n : Int, -Nat.pow 2 63 ≤ n → n < Nat.pow 2 64 →
      Json.ofText (Json.array [.integer n]).toText = .ok (.array [.integer n]) :=
    fun n least most => Json.ofText_toText (.array (List.forall_mem_singleton.mpr
      (.integer least most)))
  have texts : (Json.array [.integer 9223372036854775807]).toText = "[9223372036854775807]" ∧
      (Json.array [.integer 9223372036854775807]).narrowed.toText = "[9223372036854775807]" ∧
      (Json.array [.integer 9223372036854775808]).toText = "[9223372036854775808]" ∧
      (Json.array [.integer 9223372036854775808]).narrowed.toText = "[9.223372036854776e+18]" := by
    decide
  have last := (toJson_ofJson_iff (bounded 9223372036854775807 (by decide))).2.2.1
    unsignedFile.world none _ "json:A" (spelled _ (by decide) (by decide))
  rw [texts.1, texts.2.1] at last
  have content := spelled 9223372036854775808 (by decide) (by decide)
  rw [texts.2.2.1] at content
  have next := (toJson_ofJson_iff (bounded 9223372036854775808 (by decide))).2.2.2
    unsignedFile "n.json" _ .null "require:n.json" (by decide) rfl content
  rw [texts.2.2.2] at next
  exact ⟨last, next⟩

/-- Integers beyond 64 signed bits do not come back, and two of them have one value. -/
theorem toJson_ofJson_unsigned :
    (Json.integer 18446744073709551615).Bounded ∧
    (ofJson (.integer 18446744073709551615)).toJson ≠ .integer 18446744073709551615 ∧
    ofJson (.integer 18446744073709551615) = ofJson (.integer 18446744073709551614) := by
  have bounded : (Json.integer 18446744073709551615).Bounded := .integer (by decide)
  have beyond : Decimal.int64? 18446744073709551615 = none ∧
      Decimal.int64? 18446744073709551614 = none := by decide
  have same : Binary64.ofInt 18446744073709551615 = .ofInt 18446744073709551614 := by
    decide
  refine ⟨bounded, fun kept => ?_, ?_⟩
  · rw [toJson_ofJson bounded, Json.narrowed_eq_iff bounded] at kept
    exact absurd (kept [] _ rfl).2 (by decide)
  · simp only [ofJson, beyond, same]

end Value
end EnvTemplate
