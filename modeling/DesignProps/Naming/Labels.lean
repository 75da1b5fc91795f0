import DesignProps.Key
import DesignProps.Naming.Sanitizer
import DesignProps.Text.Digit

/-!
# Names of components and properties

`displayName` names a component, `propertyName` a property by its key, and `identifier` is the property's name in
generated code, which keeps clear of the words that JavaScript reserves.

Main statement: `identifier_eq` (an identifier is the property's name written once more, then protected).
-/

set_option autoImplicit false

namespace DesignProps

namespace Naming

def reservedWords : List String := [
  "await", "break", "case", "catch", "class", "const", "continue", "debugger", "default", "delete", "do", "else",
  "enum", "export", "extends", "false", "finally", "for", "function", "if", "implements", "import", "in",
  "instanceof", "interface", "let", "new", "null", "package", "private", "protected", "public", "return", "static",
  "super", "switch", "this", "throw", "true", "try", "typeof", "var", "void", "while", "with", "yield"]

def plainSanitizer : Sanitizer := ⟨[], "property"⟩

def codeSanitizer : Sanitizer := ⟨reservedWords, "property"⟩

def displaySanitizer : Sanitizer := ⟨[], "Unnamed"⟩

/-- The display name of a component: `button / primary` becomes `ButtonPrimary`. -/
def displayName (label : String) : String := displaySanitizer.name .pascal "_" label

/-- The text before a final `#12:3`, read from the end; without one, the whole text. -/
def withoutNodeId (key : List Char) : List Char :=
  let back := match key.reverse with
    | '\n' :: rest => rest
    | rest => rest
  match back.takeWhile Text.isDigit, back.dropWhile Text.isDigit with
  | _ :: _, ':' :: before =>
      match before.takeWhile Text.isDigit, before.dropWhile Text.isDigit with
      | _ :: _, '#' :: label => label.reverse
      | _, _ => key
  | _, _ => key

/-- The name of a property: `Has Icon#12:3` becomes `hasIcon`. -/
def propertyName (key : Key) : String :=
  plainSanitizer.name .camel "_" (String.ofList (withoutNodeId key.label.toList))

/-- The identifier of a property in generated code. -/
def identifier (key : Key) : String := codeSanitizer.name .camel "_" (propertyName key)

theorem identifier_eq (key : Key) :
    identifier key = codeSanitizer.protect "_" (plainSanitizer.name .camel "_" (propertyName key)) := by
  simp [identifier, Sanitizer.name, Sanitizer.protect, plainSanitizer, codeSanitizer]

end Naming

end DesignProps
