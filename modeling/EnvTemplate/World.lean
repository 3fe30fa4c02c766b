import EnvTemplate.Failure
/-! What a heap can refer to outside itself, and the enums that values can be cases of. -/
namespace EnvTemplate

/-- Everything that steps can look up. -/
structure World where
  lookupVariable? : String → Option String
  lookupConstant? : String → Option Value
  isBackedEnum : String → Bool
  /-- The case of an enum that a value backs. -/
  enumCase? : (enumType : String) → Value → Option EnumCase
  /-- Whether a path names an existing regular file. -/
  isFile : String → Bool
  fileBytes : String → Except FileError (List UInt8)
  loadDocument : String → Except LoadError Value

end EnvTemplate
