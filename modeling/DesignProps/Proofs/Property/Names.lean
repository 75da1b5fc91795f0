import DesignProps.Proofs.Naming.Capitals
import DesignProps.Proofs.Property.Kinds
import DesignProps.Target.Declaration

/-!
# Stored names and identifiers

A property is stored under the name that its key is written as, and its identifier in generated code is that name
written once more.  Both have the same letters.  They are the same name, but for the mark of a reserved word, exactly if
no word of the key behind the first loses its capital.

Main statements: `name_of_stored`, `stored_agrees_iff`.
-/

set_option autoImplicit false

namespace DesignProps.Naming

/-- The names with which properties under a key are stored. -/
inductive StoredName (key : Key) : String → Prop
  | ofDefinition {raw : Json} {d : PropertyDefinition} (made : PropertyDefinition.ofRaw key raw = .ok d) :
      StoredName key d.name
  | ofValue {definitions : PropertyDefinitions} {raw : Json} {p : PropertyValue}
      (made : PropertyValue.ofRaw definitions key raw = .ok p) : StoredName key p.name

theorem name_of_definition {key : Key} {raw : Json} {d : PropertyDefinition}
    (made : PropertyDefinition.ofRaw key raw = .ok d) : d.name = propertyName key := by
  obtain ⟨parts, -, found⟩ := PropertyDefinition.ofTexts_of_ofRaw made
  obtain ⟨⟨kind, value, kept⟩, -, rfl⟩ := map_eq_ok_iff.1 found
  dsimp only

theorem name_of_text {definition : Option PropertyDefinition} {key : Key} {text : String} {p : PropertyValue}
    (found : PropertyValue.ofText definition key text = .ok p) : p.name = propertyName key := by
  cases definition with
  | none =>
      simp only [PropertyValue.ofText, Except.ok.injEq] at found
      rw [← found, PropertyValue.withoutDefinition]
  | some d =>
      obtain ⟨value, -, rfl⟩ := map_eq_ok_iff.1 found
      dsimp only

theorem name_of_stored {key : Key} {name : String} (stored : StoredName key name) : name = propertyName key := by
  cases stored with
  | ofDefinition made => exact name_of_definition made
  | ofValue made =>
      obtain ⟨text, found⟩ := PropertyValue.ofText_of_ofRaw made
      exact name_of_text found

/-- A name as it stands in generated code: a reserved word is marked by an underscore. -/
def marked (name : String) : String := if name ∈ reservedWords then name ++ "_" else name

theorem protect_eq_marked (name : String) : codeSanitizer.protect "_" name = marked name := by
  simp only [Sanitizer.protect, codeSanitizer, List.contains_iff_mem, marked]

theorem identifier_eq_marked_iff (key : Key) :
    identifier key = marked (propertyName key) ↔ bareName key = propertyName key := by
  rw [← protect_eq_marked]
  constructor
  · intro same
    rw [← unmarked_identifier, same]
    exact unmarked_protect (propertyName_spelled key)
  · intro same
    rw [identifier_eq_protect, same]

/-- The name of a property, wherever it is stored, has the letters of its identifier.  It is that identifier without
the mark of a reserved word exactly if no word of the key behind the first runs into the one before it, that is: if
the word before is no single letter, or a small letter stands behind the word's own first one. -/
theorem stored_agrees_iff (key : Key) (name : String) (stored : StoredName key name) :
    (identifier key = marked name ↔ KeptApart (keyWords key).tail) ∧
      (unmarked (identifier key)).toList.map Char.toLower = name.toList.map Char.toLower := by
  rw [name_of_stored stored]
  constructor
  · rw [identifier_eq_marked_iff, bareName_eq_iff]
  · rw [unmarked_identifier, toList_bareName, map_toLower_recased]

/-! A property whose words are kept apart, with a reserved word for its name, and one whose last two words are letters;
its type is not recognized, so its declaration shows both names. -/

def slotDefinition : Json := .obj [("type", .str "SLOT"), ("defaultValue", .str "a")]

def slot (name : String) : PropertyDefinition where
  name := name
  kind := .unknown
  default := .text "a"
  options := none
  hidden := false
  optional := false
  rawType := some "SLOT"

theorem stored_agrees_default :
    PropertyDefinition.ofRaw (.text "Default#1:6") slotDefinition = .ok (slot "default") ∧
      identifier (.text "Default#1:6") = "default_" ∧
      (identifier (.text "Default#1:6") = marked "default" ↔ KeptApart (keyWords (.text "Default#1:6")).tail) := by
  have made : PropertyDefinition.ofRaw (.text "Default#1:6") slotDefinition = .ok (slot "default") := rfl
  exact ⟨made, by decide, (stored_agrees_iff _ _ (.ofDefinition made)).1⟩

/-- The declaration names the property `offsetXy` and says that its name is `offsetXY`. -/
theorem offset_unlike_stored :
    StoredName (.text "Offset X Y") "offsetXY" ∧ identifier (.text "Offset X Y") = "offsetXy" ∧
      ¬ KeptApart (keyWords (.text "Offset X Y")).tail ∧
      ¬ (∀ (key : Key) (name : String), StoredName key name → identifier key = marked name) ∧
      Generator.fieldLine .react "CardProps" (.text "Offset X Y") (slot "offsetXY") =
        "offsetXy?: \x7b\"name\": \"offsetXY\", \"type\": \"SLOT\", \"defaultValue\": \"a\"\x7d;" := by
  have made : PropertyDefinition.ofRaw (.text "Offset X Y") slotDefinition = .ok (slot "offsetXY") := rfl
  have stored : StoredName (.text "Offset X Y") "offsetXY" := .ofDefinition made
  have other : identifier (.text "Offset X Y") = "offsetXy" := by decide
  refine ⟨stored, other, by decide, fun agree => ?_, by decide +kernel⟩
  have same := agree _ _ stored
  rw [other] at same
  exact absurd same (by decide)

end DesignProps.Naming
