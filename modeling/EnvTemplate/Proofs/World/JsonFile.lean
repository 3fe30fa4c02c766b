import EnvTemplate.LocalWorld
import EnvTemplate.Proofs.Json.Reading
import EnvTemplate.Proofs.World.Prefixing
/-! A JSON file has one value, whether it is loaded as a document or its content is parsed. The two
ways differ in what they read the document from, the bytes or the text that they encode, and in how
they fail. -/
namespace EnvTemplate

namespace Heap

theorem parse_source {m : Modifier} {name : String} (source : m.isSource = true)
    (whole : ':' ∉ name.toList) : parse (m.token ++ ":" ++ name) = .ok [⟨m, some name⟩] := by
  have raw := rawParts_append_colon name (colon_notMem_token m)
  rw [rawParts_of_notMem whole] at raw
  have origin : Step.IsOrigin ⟨m, some name⟩ := ⟨source, rfl⟩
  have sourced : Sourced (rawParts (m.token ++ ":" ++ name)) := by
    rw [raw]
    simpa [Sourced, Modifier.ofToken?_token] using source
  rw [parse, parts_of_sourced sourced, raw]
  exact congrArg _ (stepsOf_origin origin _)

end Heap

/-- Bytes that are parsed after they have become a value, which is a text if they encode one. -/
theorem Value.parseJson_ofBytes (content : List UInt8) (heap : String) :
    (Value.ofBytes content).parseJson heap =
      match Json.read content with
      | .ok document => .ok (.ofJson document)
      | .error error =>
        .error (Objection.error
          (if (Utf8.decode? content).isSome then .json error else .jsonNotUtf8) heap) := by
  rw [Value.ofBytes]
  cases decoded : Utf8.decode? content with
  | some text =>
    have encoded : utf8 (String.ofList text) = content := by
      rw [utf8, String.toList_ofList]
      exact (Utf8.decode?_eq_some_iff.mp decoded).symm
    simp only [Value.parseJson, Value.parseJson.spelled, Value.scalarText?, Json.ofText, encoded]
    cases Json.read content <;> rfl
  | none =>
    cases given : Json.read content with
    | error error => simp [Value.parseJson, decoded]
    | ok document =>
      have text := Utf8.isText_iff.mp (Json.read_spec given).1
      simp [decoded] at text

namespace World

/-- A source before a name without colons works on this name alone. -/
theorem resolve_source (w : World) {m : Modifier} {name : String} (source : m.isSource = true)
    (whole : ':' ∉ name.toList) :
    w.resolve (m.token ++ ":" ++ name) =
      w.apply ⟨m, some name⟩ .null (m.token ++ ":" ++ name) := by
  rw [resolve, resolveBy, Heap.parse_source source whole, reported_ok]
  exact bind_pure (w.apply ⟨m, some name⟩ .null (m.token ++ ":" ++ name))

theorem resolve_require (w : World) {path : String} (whole : ':' ∉ path.toList) :
    w.resolve ("require:" ++ path) =
      reported (w.document ⟨.require, some path⟩ .null ("require:" ++ path)) :=
  w.resolve_source (m := .require) rfl whole

theorem resolve_jsonOfFile (w : World) {path : String} (whole : ':' ∉ path.toList) :
    w.resolve ("json:file:" ++ path) =
      reported (w.fileContent ⟨.file, some path⟩ .null ("json:file:" ++ path) >>= fun v =>
        v.parseJson ("json:file:" ++ path)) := by
  have text : "json:file:" ++ path = Step.text ⟨.json, none⟩ ++ ":" ++ ("file:" ++ path) := by
    simp [Step.text, Modifier.token, ← String.append_assoc]
  have inner : w.resolve ("file:" ++ path) =
      reported (w.fileContent ⟨.file, some path⟩ .null ("file:" ++ path)) :=
    w.resolve_source (m := .file) rfl whole
  have prefixed := w.resolve_append_text (s := ⟨.json, none⟩) ("file:" ++ path) rfl (by simp)
    fun _ part last => by obtain rfl := Option.some.inj last; decide
  have leads : w.Leads .null ⟨.file, some path⟩ fun heap =>
      reported (w.fileContent ⟨.file, some path⟩ .null heap) := outcome_fileContent
  have same := leads.threads.elsewhere ("file:" ++ path) ("json:file:" ++ path)
  rw [← text, inner] at prefixed
  rw [prefixed, reported_bind, same]
  cases w.fileContent ⟨.file, some path⟩ .null ("file:" ++ path) <;> rfl

end World

namespace FileTree

/-- A regular file can be read or the process may not read it, and nothing else can be read. -/
theorem read_spec (tree : FileTree) (path : String) :
    tree.isFile path = true ∧
        ((∃ content, tree.read path = .ok content) ∨ tree.read path = .error .permissionDenied) ∨
      tree.isFile path = false ∧ ∃ error, tree.read path = .error error := by
  rw [isFile, read]
  cases located : tree.locate path with
  | error error => exact .inr ⟨rfl, error, rfl⟩
  | ok names =>
    simp only [bind, Except.bind]
    cases found : tree.content? names with
    | none => exact .inr ⟨rfl, .isDirectory, rfl⟩
    | some content =>
      refine .inl ⟨rfl, ?_⟩
      by_cases denied : names ∈ tree.unreadable
      · exact .inr (by simp [denied])
      · exact .inl ⟨content, by simp [denied]⟩

end FileTree

namespace LocalWorld

variable (l : LocalWorld) {path : String}

theorem existingFile_world (m : Modifier) (v : Value) (heap : String) :
    l.world.existingFile ⟨m, some path⟩ v heap =
      if l.tree.isFile path then .ok path else .error (.fileNotFound path heap) := rfl

/-- Without a regular file both ways fail before they read it. -/
theorem resolve_of_not_isFile (whole : ':' ∉ path.toList) (missing : l.tree.isFile path = false) :
    l.world.resolve ("require:" ++ path) =
        .error (.reported (.fileNotFound path ("require:" ++ path))) ∧
    l.world.resolve ("json:file:" ++ path) =
        .error (.reported (.fileNotFound path ("json:file:" ++ path))) := by
  rw [World.resolve_require _ whole, World.resolve_jsonOfFile _ whole, World.document,
    World.fileContent, existingFile_world, existingFile_world, missing]
  exact ⟨rfl, rfl⟩

section
variable (whole : ':' ∉ path.toList) (file : l.tree.isFile path = true)
include whole file

theorem resolve_require_of_isFile (json : DocumentFormat.ofPath? path = some .json) :
    l.world.resolve ("require:" ++ path) =
      match l.tree.read path with
      | .error error =>
        .error (.reported (.load path (LoadError.io error.message).message ("require:" ++ path)))
      | .ok content =>
        match Json.read content with
        | .ok document => .ok (.ofJson document)
        | .error error =>
          .error (.reported (.load path (LoadError.malformed "JSON" error.message).message
            ("require:" ++ path))) := by
  have loaded : l.world.loadDocument path = Document.load l.tree path := rfl
  rw [World.resolve_require _ whole, World.document, existingFile_world, file]
  simp only [if_true, bind, Except.bind, loaded, Document.load, json, Document.read]
  cases l.tree.read path with
  | error error => rfl
  | ok content =>
    dsimp only
    cases Json.read content <;> rfl

theorem resolve_jsonOfFile_of_isFile :
    l.world.resolve ("json:file:" ++ path) =
      match l.tree.fileBytes path with
      | .error (.notFound _) => .error (.reported (.fileNotFound path ("json:file:" ++ path)))
      | .error error => .error (.reported (.fileRead path error.message ("json:file:" ++ path)))
      | .ok content => reported ((Value.ofBytes content).parseJson ("json:file:" ++ path)) := by
  have bytes : l.world.fileBytes path = l.tree.fileBytes path := rfl
  rw [World.resolve_jsonOfFile _ whole, World.fileContent, existingFile_world, file]
  simp only [if_true, bind, Except.bind, bytes]
  cases l.tree.fileBytes path with
  | error error => cases error <;> rfl
  | ok content => rfl

end

/-- A JSON file gives the same value as a document and as a parsed content, whatever its bytes are,
or none in either way. The failures tell what stood in the way: no file, one that may not be read,
or a content that is no document. -/
theorem resolve_json_file (whole : ':' ∉ path.toList)
    (json : DocumentFormat.ofPath? path = some .json) :
    (∀ v, l.world.resolve ("require:" ++ path) = .ok v ↔
      l.world.resolve ("json:file:" ++ path) = .ok v) ∧
    (l.tree.isFile path = false →
      l.world.resolve ("require:" ++ path) =
        .error (.reported (.fileNotFound path ("require:" ++ path))) ∧
      l.world.resolve ("json:file:" ++ path) =
        .error (.reported (.fileNotFound path ("json:file:" ++ path)))) ∧
    (∀ content, l.tree.read path = .ok content →
      (∀ document, Json.read content = .ok document →
        l.world.resolve ("require:" ++ path) = .ok (.ofJson document) ∧
        l.world.resolve ("json:file:" ++ path) = .ok (.ofJson document)) ∧
      ∀ error, Json.read content = .error error →
        l.world.resolve ("require:" ++ path) =
          .error (.reported (.load path (LoadError.malformed "JSON" error.message).message
            ("require:" ++ path))) ∧
        l.world.resolve ("json:file:" ++ path) =
          .error (.reported (Objection.error (if (Utf8.decode? content).isSome then .json error
            else .jsonNotUtf8) ("json:file:" ++ path)))) ∧
    (l.tree.isFile path = true → (∀ content, l.tree.read path ≠ .ok content) →
      l.world.resolve ("require:" ++ path) =
        .error (.reported (.load path (LoadError.io OsError.permissionDenied.message).message
          ("require:" ++ path))) ∧
      l.world.resolve ("json:file:" ++ path) =
        .error (.reported (.fileRead path (FileError.permissionDenied path).message
          ("json:file:" ++ path)))) := by
  obtain ⟨file, ⟨content, read⟩ | denied⟩ | ⟨missing, error, unread⟩ := l.tree.read_spec path
  · have bytes : l.tree.fileBytes path = .ok content := by rw [FileTree.fileBytes, read]
    rw [resolve_require_of_isFile l whole file json, resolve_jsonOfFile_of_isFile l whole file,
      read, bytes]
    cases given : Json.read content with
    | ok document => simp [Value.parseJson_ofBytes, given, file]
    | error error => simp [Value.parseJson_ofBytes, given, file]
  · have bytes : l.tree.fileBytes path = .error (.permissionDenied path) := by
      rw [FileTree.fileBytes, denied]
    rw [resolve_require_of_isFile l whole file json, resolve_jsonOfFile_of_isFile l whole file,
      denied, bytes]
    simp [file]
  · obtain ⟨required, parsed⟩ := l.resolve_of_not_isFile whole missing
    rw [required, parsed, unread]
    simp [missing]

/-- A document beside the current directory, and in it a text with a byte that no text has. -/
def jsonFiles : LocalWorld where
  tree :=
    { files := [(["etc", "a.JSON"], utf8 "[true]"), (["home", "b.json"], [0x22, 0xFF, 0x22])]
      current := ["home"] }

theorem resolve_jsonFiles :
    jsonFiles.world.resolve "json:file:/etc/a.JSON" = .ok (.sequence [.bool true]) ∧
    jsonFiles.world.resolve "require:../etc/a.JSON" = .ok (.sequence [.bool true]) ∧
    jsonFiles.world.resolve "require:b.json" =
      .error (.reported (.load "b.json"
        "JSON error: invalid unicode code point at line 1 column 2" "require:b.json")) ∧
    jsonFiles.world.resolve "json:file:b.json" =
      .error (.reported (.invalidValue "Invalid JSON \"Malformed UTF-8 characters\""
        "json:file:b.json")) := by
  have absolute : jsonFiles.tree.read "/etc/a.JSON" = .ok (utf8 "[true]") := rfl
  have relative : jsonFiles.tree.read "../etc/a.JSON" = .ok (utf8 "[true]") := rfl
  have whole := jsonFiles.resolve_json_file (show ':' ∉ "/etc/a.JSON".toList by decide) (by decide)
  have beside := jsonFiles.resolve_json_file (show ':' ∉ "../etc/a.JSON".toList by decide) (by decide)
  have broken := jsonFiles.resolve_json_file (show ':' ∉ "b.json".toList by decide) (by decide)
  have document : Json.read (utf8 "[true]") = .ok (.array [.bool true]) := rfl
  have problem : Json.read [0x22, 0xFF, 0x22] = .error ⟨.invalidCodePoint, 1, 2⟩ := rfl
  obtain ⟨loaded, parsed⟩ := (broken.2.2.1 _ rfl).2 _ problem
  exact ⟨((whole.2.2.1 _ absolute).1 _ document).2, ((beside.2.2.1 _ relative).1 _ document).1,
    loaded, parsed⟩

end LocalWorld
end EnvTemplate
