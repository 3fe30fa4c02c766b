import EnvTemplate.Proofs.Json.Reading
import EnvTemplate.Yaml.Json
/-! What holds of a document read from YAML. Its scalars are those that JSON has, and its collections
are put together as the reader of JSON does it, so whatever the parts of a document keep holds of it. -/
namespace EnvTemplate.Yaml

variable {α β : Type} {P : α → Prop} {Q : β → Prop}

/-- Whatever comes of following aliases has a property. -/
def Yields (P : α → Prop) (following : Document.Following α) : Prop :=
  ∀ left x rest, following left = some (x, rest) → P x

theorem yields_pure {x : α} (holds : P x) : Yields P (pure x) := by
  intro left y rest given
  obtain ⟨rfl, _⟩ := Prod.mk.inj (Option.some.inj given)
  exact holds

theorem yields_failure : Yields P failure := nofun

theorem yields_lift {result : Option α} (holds : ∀ x, result = some x → P x) :
    Yields P (result : Document.Following α) := by
  intro left x rest given
  obtain ⟨y, made, same⟩ := Option.bind_eq_some_iff.mp given
  obtain ⟨rfl, _⟩ := Prod.mk.inj (Option.some.inj same)
  exact holds y made

theorem Yields.bind {first : Document.Following α} {next : α → Document.Following β}
    (yields : Yields P first) (later : ∀ a, P a → Yields Q (next a)) :
    Yields Q (first >>= next) := by
  intro left x rest given
  obtain ⟨⟨a, between⟩, made, given⟩ := Option.bind_eq_some_iff.mp given
  exact later a (yields _ _ _ made) _ _ _ given

theorem yields_mapM {f : α → Document.Following β} {xs : List α}
    (each : ∀ x ∈ xs, Yields Q (f x)) : Yields (fun ys => ∀ y ∈ ys, Q y) (xs.mapM f) := by
  induction xs with
  | nil => exact yields_pure (List.forall_mem_nil _)
  | cons x xs ih =>
    obtain ⟨first, later⟩ := List.forall_mem_cons.mp each
    rw [List.mapM_cons]
    refine first.bind fun y holds => (ih later).bind fun ys all => yields_pure ?_
    exact List.forall_mem_cons.mpr ⟨holds, all⟩

section
variable {P : Json → Prop} (invariant : Json.Invariant P)
include invariant

theorem of_smallInteger? {n : Int} {document : Json} (small : smallInteger? n = some document) :
    P document := by
  obtain ⟨⟨least, most⟩, same⟩ := Option.ite_none_right_eq_some.mp small
  obtain rfl := Option.some.inj same
  have signed : Nat.pow 2 63 = 9223372036854775808 := rfl
  have unsigned : Nat.pow 2 64 = 18446744073709551616 := rfl
  have bounded : n.natAbs < Nat.pow 2 64 := by omega
  exact invariant.number (n := .integer n) bounded

theorem of_jsonOfFloat (x : Binary64) : P (jsonOfFloat x) := by
  rw [jsonOfFloat]
  split
  · rename_i finite
    exact invariant.number (n := .float x) finite
  · exact invariant.null

theorem of_jsonOfPlain? {text : List Char} {document : Json}
    (given : jsonOfPlain? text = some document) : P document := by
  unfold jsonOfPlain? at given
  extract_lets number at given
  have other : P number := by
    unfold number
    split
    · exact of_jsonOfFloat invariant _
    · exact invariant.string _
  split at given
  · exact Option.some.inj given ▸ invariant.null
  split at given
  · exact Option.some.inj given ▸ invariant.bool _
  · split at given
    · exact of_smallInteger? invariant given
    · exact Option.some.inj given ▸ other
  · exact Option.some.inj given ▸ other

theorem of_jsonOfScalar? {tag : Option (List UInt8)} {style : ScalarStyle} {text : List Char}
    {document : Json} (given : jsonOfScalar? tag style text = some document) : P document := by
  unfold jsonOfScalar? at given
  split at given
  · split at given
    · exact of_jsonOfPlain? invariant given
    · exact Option.some.inj given ▸ invariant.string _
  split at given
  · obtain ⟨b, _, rfl⟩ := Option.map_eq_some_iff.mp given
    exact invariant.bool b
  split at given
  · obtain ⟨n, _, small⟩ := Option.bind_eq_some_iff.mp given
    exact of_smallInteger? invariant small
  split at given
  · obtain ⟨x, _, rfl⟩ := Option.map_eq_some_iff.mp given
    exact of_jsonOfFloat invariant x
  split at given
  · obtain ⟨_, same⟩ := Option.ite_none_right_eq_some.mp given
    exact Option.some.inj same ▸ invariant.null
  split at given
  · exact of_jsonOfPlain? invariant given
  · exact Option.some.inj given ▸ invariant.string _

theorem yields_jsonWith (d : Document) {inner? : Option (Node → Document.Following Json)}
    (each : ∀ inner ∈ inner?, ∀ node, Yields P (inner node)) (node : Node) :
    Yields P (d.jsonWith inner? node) := by
  have anything {α : Type} (following : Document.Following α) : Yields (fun _ => True) following :=
    fun _ _ _ _ => trivial
  refine (anything (d.target node)).bind fun found _ => ?_
  cases found with
  | scalar tag style text =>
    dsimp only
    split
    · exact yields_failure
    · exact yields_lift fun x => of_jsonOfScalar? invariant
  | sequence tag items =>
    dsimp only
    split
    · exact yields_failure
    · refine (yields_lift each).bind fun inner holds => ?_
      exact (yields_mapM fun item _ => holds item).bind fun xs all =>
        yields_pure (invariant.array all)
  | mapping tag entries =>
    dsimp only
    split
    · exact yields_failure
    · refine (yields_lift each).bind fun inner holds => ?_
      have member (entry : Node × Node) : Yields (fun m : String × Json => P m.2) _ :=
        (anything (d.scalarText entry.1)).bind fun key _ =>
          (holds entry.2).bind fun x kept => yields_pure (x := (key, x)) kept
      exact (yields_mapM fun entry _ => member entry).bind fun members all =>
        yields_pure (invariant.object all)
  | «alias» number => exact yields_failure

/-- Nodes within one another stand for documents within one another. -/
theorem yields_jsonOfNode (d : Document) (depth : Nat) (node : Node) :
    Yields P (d.jsonOfNode depth node) := by
  induction depth generalizing node with
  | zero =>
    exact yields_jsonWith invariant d (fun inner absent => absurd absent (Option.not_mem_none inner))
      node
  | succ depth ih =>
    refine yields_jsonWith invariant d (fun inner same => ?_) node
    obtain rfl := Option.some.inj same
    exact ih

theorem of_toJson? {bytes : List UInt8} {document : Json} (given : toJson? bytes = some document) :
    P document := by
  obtain ⟨d, _, given⟩ := Option.bind_eq_some_iff.mp given
  obtain ⟨⟨x, rest⟩, made, rfl⟩ := Option.map_eq_some_iff.mp given
  exact yields_jsonOfNode invariant d 128 d.root _ _ _ made

end

end EnvTemplate.Yaml
