import DesignProps.Json.Basic
import DesignProps.Text.Quoted

/-!
# Values in running text

`shown` writes any value for a message, texts between quotes; `asText` does the same but leaves a text as it is.
-/

set_option autoImplicit false

namespace DesignProps

namespace Json

mutual

def shown : Json → String
  | .null => "None"
  | .bool true => "True"
  | .bool false => "False"
  | .int n => intText n
  | .float x => x.text
  | .str s => Text.quoted s
  | .arr items => "[" ++ String.intercalate ", " (shownItems items) ++ "]"
  | .obj members => "\x7b" ++ String.intercalate ", " (shownMembers members) ++ "\x7d"

def shownItems : List Json → List String
  | [] => []
  | v :: rest => shown v :: shownItems rest

def shownMembers : List (String × Json) → List String
  | [] => []
  | (k, v) :: rest => (Text.quoted k ++ ": " ++ shown v) :: shownMembers rest

end

def asText : Json → String
  | .str s => s
  | v => v.shown

@[simp] theorem asText_str (s : String) : asText (.str s) = s := rfl

end Json

end DesignProps
