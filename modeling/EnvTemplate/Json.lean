import EnvTemplate.Number.Binary64
/-! JSON documents. An integer stays one as long as it fits 64 bits, signed or not; every other
number is a float. -/
namespace EnvTemplate

inductive Json
  | null
  | bool (b : Bool)
  | integer (n : Int)
  | float (x : Binary64)
  | string (s : String)
  | array (items : List Json)
  | object (members : List (String × Json))
deriving Inhabited

end EnvTemplate
