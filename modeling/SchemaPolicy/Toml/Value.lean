/-! The values of a TOML document. -/

namespace SchemaPolicy.Toml

/-- A value. Tables keep their keys in order. -/
inductive Value where
  | string (text : String)
  | integer (value : Int)
  | float (value : Float)
  | boolean (value : Bool)
  /-- A date, a time or both. Nothing depends on which. -/
  | dateTime
  | array (items : List Value)
  | table (entries : List (String × Value))
deriving Repr

end SchemaPolicy.Toml
