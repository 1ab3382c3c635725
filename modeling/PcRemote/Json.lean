import PcRemote.Text

/-! JSON values, as far as the Telegram client reads them. Reading a key that is absent, or a
key of something that is no object, gives null. -/
namespace PcRemote

inductive Json
  | null
  | bool (b : Bool)
  | int (n : ℤ)
  | float
  | str (s : String)
  | arr (items : List Json)
  | obj (fields : List (String × Json))

namespace Json

def get (key : String) : Json → Option Json
  | .obj fields => (fields.find? fun f => f.1 == key).map fun f => f.2
  | .null | .bool _ | .int _ | .float | .str _ | .arr _ => none

def index (value : Json) (key : String) : Json := (value.get key).getD .null

def isNull : Json → Bool
  | .null => true
  | .bool _ | .int _ | .float | .str _ | .arr _ | .obj _ => false

def asStr : Json → Option String
  | .str s => some s
  | .null | .bool _ | .int _ | .float | .arr _ | .obj _ => none

/-- An integer above the i64 range is a number all the same, but not an i64. -/
def asI64 : Json → Option ℤ
  | .int n => if Text.i64Min ≤ n ∧ n ≤ Text.i64Max then some n else none
  | .null | .bool _ | .float | .str _ | .arr _ | .obj _ => none

def asArray : Json → Option (List Json)
  | .arr items => some items
  | .null | .bool _ | .int _ | .float | .str _ | .obj _ => none

def asBool : Json → Option Bool
  | .bool b => some b
  | .null | .int _ | .float | .str _ | .arr _ | .obj _ => none

def strOrDefault (value : Json) : String := value.asStr.getD ""

def i64OrDefault (value : Json) : ℤ := value.asI64.getD 0

end Json

end PcRemote
