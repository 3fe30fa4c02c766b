import EnvTemplate.Proofs.Json.Reading
import EnvTemplate.Proofs.Query.Invariant
import EnvTemplate.Url.Parts
import EnvTemplate.Value.Coercion
/-! Well-formed values: bytes that encode a text have become that text, and floats are finite, at
every depth. Then a value is told by its bytes, and JSON has a place for each of its floats. -/
namespace EnvTemplate.Value

/-- Values without bytes that encode a text and without infinite floats or NaN, at every depth. -/
inductive WellFormed : Value → Prop
  | null : WellFormed .null
  | bool (b : Bool) : WellFormed (.bool b)
  | int (n : Int64) : WellFormed (.int n)
  | float {x : Binary64} : x.isFinite = true → WellFormed (.float x)
  | string (s : String) : WellFormed (.string s)
  | bytes {bs : List UInt8} : Utf8.decode? bs = none → WellFormed (.bytes bs)
  | sequence {items : List Value} : (∀ item ∈ items, WellFormed item) → WellFormed (.sequence items)
  | mapping {entries : List (String × Value)} : (∀ entry ∈ entries, WellFormed entry.2) →
      WellFormed (.mapping entries)
  | enumCase (case : EnumCase) : WellFormed (.enumCase case)

/-! ### Bytes -/

theorem wellFormed_ofBytes (bs : List UInt8) : (ofBytes bs).WellFormed := by
  rw [ofBytes]
  split
  · exact .string _
  · rename_i none
    exact .bytes none

/-- The bytes of a string or of bytes. -/
def payload? : Value → Option (List UInt8)
  | .string s => some (utf8 s)
  | .bytes bs => some bs
  | _ => none

theorem WellFormed.eq_ofBytes {v : Value} (wellFormed : v.WellFormed) {bs : List UInt8}
    (payload : v.payload? = some bs) : v = ofBytes bs := by
  cases wellFormed with
  | string s =>
    obtain rfl := Option.some.inj payload
    have decoded : Utf8.decode? (utf8 s) = some s.toList := Utf8.decode?_eq_some_iff.mpr rfl
    simp [ofBytes, decoded]
  | bytes none =>
    obtain rfl := Option.some.inj payload
    rw [ofBytes, none]
  | null | bool | int | float | sequence | mapping | enumCase => contradiction

/-! ### Documents -/

theorem itemsToJson_eq_map (items : List Value) : itemsToJson items = items.map toJson := by
  induction items with
  | nil => rfl
  | cons item rest ih => rw [itemsToJson, ih, List.map_cons]

theorem entriesToJson_eq_map (entries : List (String × Value)) :
    entriesToJson entries = entries.map fun entry => (entry.1, toJson entry.2) := by
  induction entries with
  | nil => rfl
  | cons entry rest ih => rw [entriesToJson, ih, List.map_cons]

theorem itemsOfJson_eq_map (items : List Json) : itemsOfJson items = items.map ofJson := by
  induction items with
  | nil => rfl
  | cons item rest ih => rw [itemsOfJson, ih, List.map_cons]

theorem entriesOfJson_eq_map (members : List (String × Json)) :
    entriesOfJson members = members.map fun member => (member.1, ofJson member.2) := by
  induction members with
  | nil => rfl
  | cons member rest ih => rw [entriesOfJson, ih, List.map_cons]

/-- The value of a document with bounded numbers. Integers beyond 64 signed bits become floats. -/
theorem wellFormed_ofJson {document : Json} (bounded : document.Bounded) :
    (ofJson document).WellFormed := by
  induction bounded with
  | null => exact .null
  | bool b => exact .bool b
  | integer small =>
    rw [ofJson]
    split
    · exact .int _
    · exact .float (Binary64.ofInt_spec small).1
  | float finite => exact .float finite
  | string s => exact .string s
  | array _ ih =>
    rw [ofJson, itemsOfJson_eq_map]
    exact .sequence (List.forall_mem_map.mpr ih)
  | object _ ih =>
    rw [ofJson, entriesOfJson_eq_map]
    exact .mapping (List.forall_mem_map.mpr ih)

end Value

/-- The document at a place, which the positions of items and members lead to. -/
def Json.part? : Json → List Nat → Option Json
  | document, [] => some document
  | .array items, i :: path => items[i]?.bind (part? · path)
  | .object members, i :: path => members[i]?.bind fun member => part? member.2 path
  | _, _ :: _ => none

namespace Value

/-- The value at a place, which the positions of items and entries lead to. -/
def part? : Value → List Nat → Option Value
  | v, [] => some v
  | .sequence items, i :: path => items[i]?.bind (part? · path)
  | .mapping entries, i :: path => entries[i]?.bind fun entry => part? entry.2 path
  | _, _ :: _ => none

theorem part?_toJson (v : Value) (path : List Nat) :
    v.toJson.part? path = (v.part? path).map toJson := by
  induction path generalizing v with
  | nil => cases v <;> rfl
  | cons i path ih =>
    cases v with
    | sequence items =>
      rw [toJson, itemsToJson_eq_map, Json.part?, part?, List.getElem?_map]
      cases items[i]? with
      | none => rfl
      | some item => exact ih item
    | mapping entries =>
      rw [toJson, entriesToJson_eq_map, Json.part?, part?, List.getElem?_map]
      cases entries[i]? with
      | none => rfl
      | some entry => exact ih entry.2
    | float x =>
      rw [toJson]
      split <;> rfl
    | enumCase case =>
      rw [toJson]
      split <;> rfl
    | null | bool | int | string | bytes => rfl

theorem WellFormed.of_part? {v part : Value} (wellFormed : v.WellFormed) {path : List Nat}
    (at_path : v.part? path = some part) : part.WellFormed := by
  induction path generalizing v with
  | nil =>
    have same : v = part := by
      cases v <;> exact Option.some.inj at_path
    exact same ▸ wellFormed
  | cons i path ih =>
    cases wellFormed with
    | sequence inner =>
      obtain ⟨item, found, below⟩ := Option.bind_eq_some_iff.mp at_path
      exact ih (inner item (List.mem_of_getElem? found)) below
    | mapping inner =>
      obtain ⟨entry, found, below⟩ := Option.bind_eq_some_iff.mp at_path
      exact ih (inner entry (List.mem_of_getElem? found)) below
    | null | bool | int | float | string | bytes | enumCase => contradiction

end Value

theorem Shortest.point_mem_positional {s : Shortest} (fraction : s.point < s.digits.length) :
    '.' ∈ s.positional := by
  rw [positional]
  split
  · simp
  · rename_i p _ point
    rw [if_neg (by simp only [point, Int.ofNat_eq_natCast] at fraction; omega)]
    simp
  · simp

/-- A float is told from an integer by a point or an exponent. -/
theorem Binary64.point_or_exponent_mem_toMarkedText (x : Binary64) :
    '.' ∈ x.toMarkedText ∨ 'e' ∈ x.toMarkedText := by
  have signed : ∀ (negative : Bool) (body : List Char), '.' ∈ body ∨ 'e' ∈ body →
      ('.' ∈ if negative then '-' :: body else body) ∨
        'e' ∈ if negative then '-' :: body else body := by
    intro negative body marked
    split
    · exact marked.imp (List.mem_cons_of_mem _) (List.mem_cons_of_mem _)
    · exact marked
  refine signed _ _ ?_
  split
  · exact .inl (by decide)
  · dsimp only
    split
    · split
      · exact .inl (by simp)
      · rename_i fraction
        exact .inl (Shortest.point_mem_positional (by omega))
    · exact .inr (by simp [Shortest.scientific])

namespace Value.WellFormed

variable {v : Value} {path : List Nat}

/-- No float of a well-formed value becomes a null in its document. -/
theorem float_part? (wellFormed : v.WellFormed) {x : Binary64}
    (at_path : v.part? path = some (.float x)) :
    v.toJson.part? path = some (.float x) ∧ (Json.float x).write ≠ Json.null.write := by
  have finite : x.isFinite = true := by
    cases wellFormed.of_part? at_path with
    | float finite => exact finite
  constructor
  · rw [part?_toJson, at_path, Option.map_some, toJson, if_pos finite]
  · intro same
    have text : x.toMarkedText = "null".toList := by
      simpa only [Json.write, Json.writeFloat, if_pos finite] using same
    have marked := x.point_or_exponent_mem_toMarkedText
    rw [text] at marked
    exact absurd marked (by decide)

/-- A document has its nulls where its well-formed value has them. -/
theorem null_part?_iff (wellFormed : v.WellFormed) :
    v.toJson.part? path = some .null ↔ v.part? path = some .null := by
  rw [part?_toJson, Option.map_eq_some_iff]
  constructor
  · rintro ⟨part, at_path, null⟩
    cases wellFormed.of_part? at_path with
    | null => exact at_path
    | float finite => simp [toJson, finite] at null
    | enumCase case =>
      rw [toJson] at null
      split at null <;> contradiction
    | bool | int | string | bytes | sequence | mapping => simp [toJson] at null
  · intro at_path
    exact ⟨.null, at_path, rfl⟩

end Value.WellFormed

/-! ### Coercions -/

theorem Literal.isFinite_of_float? {text : List Char} {x : Binary64}
    (read : Literal.float? text = some x) : x.isFinite = true := by
  obtain ⟨numeral, _, kept⟩ := Option.bind_eq_some_iff.mp read
  split at kept
  · rename_i finite
    rwa [← Option.some.inj kept]
  · contradiction

namespace Value

theorem WellFormed.isFinite_of_toFloat? {v : Value} (wellFormed : v.WellFormed) {x : Binary64}
    (read : v.toFloat? = some x) : x.isFinite = true := by
  have literal : ∀ text? : Option String,
      (text?.bind fun text => Literal.float? text.toList) = some x → x.isFinite = true := by
    intro text? spelled
    obtain ⟨text, _, read⟩ := Option.bind_eq_some_iff.mp spelled
    exact Literal.isFinite_of_float? read
  cases wellFormed with
  | float finite =>
    rwa [← Option.some.inj read]
  | int n =>
    rw [← Option.some.inj read]
    exact Binary64.isFinite_ofInt n
  | null | bool | string | bytes | sequence | mapping | enumCase =>
    simp only [toFloat?] at read
    exact literal _ read

end Value

/-! ### Queries and URLs -/

namespace Query

theorem wellFormed_asMapping {slot : Value} (wellFormed : slot.WellFormed) :
    ∀ entry ∈ asMapping slot, entry.2.WellFormed := by
  cases wellFormed with
  | mapping inner => exact inner
  | sequence inner =>
    intro entry member
    obtain ⟨i, short, rfl⟩ := List.mem_mapIdx.mp member
    exact inner _ (List.getElem_mem short)
  | null | bool | int | float | string | bytes | enumCase => exact List.forall_mem_nil _

theorem invariant_wellFormed : Invariant Value.WellFormed where
  null := .null
  string := .string
  sequence := .sequence
  item wellFormed := by
    cases wellFormed with
    | sequence inner => exact inner
  empty := .mapping (List.forall_mem_nil _)
  insert _ slot child := .mapping (Entries.forall_insert (wellFormed_asMapping slot) child)
  inner slot found := Entries.forall_get? (wellFormed_asMapping slot) _ found

end Query

namespace Url

theorem wellFormed_textOrNull (text? : Option (List Char)) : (textOrNull text?).WellFormed := by
  cases text? with
  | none => exact .null
  | some text => exact .string _

theorem wellFormed_of_decompose {text : List Char} {entries : Entries Value}
    (decomposed : decompose text = .ok entries) : ∀ entry ∈ entries, entry.2.WellFormed := by
  rw [decompose] at decomposed
  split at decomposed
  · contradiction
  split at decomposed
  · contradiction
  split at decomposed
  · contradiction
  split at decomposed
  · contradiction
  obtain rfl := Except.ok.inj decomposed
  simp only [parts, List.forall_mem_cons]
  refine ⟨.string _, .string _, ?_, wellFormed_textOrNull _, wellFormed_textOrNull _, .string _,
    wellFormed_textOrNull _, wellFormed_textOrNull _, List.forall_mem_nil _⟩
  split
  · exact .int _
  · exact .null

end Url

end EnvTemplate
