import DesignProps.Config.Basic
import DesignProps.Text.Identifier

/-!
# Checking a configuration

Fields that hold values of an unexpected kind are pointed out; they are used nevertheless.

Main statement: `check_base` (nothing is wrong with the base configuration).
-/

set_option autoImplicit false

namespace DesignProps

inductive ConfigWarning
  | notBoolean (field : Config.Field) (v : Json)
  | slotTag (v : Json)
  | indentSize (v : Json)
  | optionsApiUnused
  deriving DecidableEq, Repr

def ConfigWarning.message : ConfigWarning → String
  | .notBoolean field v => field.key ++ " should be a boolean, got " ++ v.shown
  | .slotTag v => "Invalid slot_tag: " ++ v.asText
  | .indentSize v => "Invalid indent_size: " ++ v.asText
  | .optionsApiUnused => "options_api has no effect for react"

namespace Config

def isBool : Json → Bool
  | .bool _ => true
  | _ => false

/-- Widths are integers that are not negative; a boolean counts as one. -/
def isWidth : Json → Bool
  | .bool _ => true
  | .int n => 0 ≤ n
  | _ => false

def booleanFields : List Field := [.showDefaults, .explicitBoolean, .optionsApi, .addComments]

/-- What is unexpected in a configuration for a target. -/
def check (c : Config) (target : String) : List ConfigWarning :=
  (booleanFields.filter fun f => !isBool (c.get f)).map (fun f => .notBoolean f (c.get f))
    ++ (if Text.isIdentifier c.slotTag.asText.toList then [] else [.slotTag c.slotTag])
    ++ (if isWidth c.indentSize then [] else [.indentSize c.indentSize])
    ++ (if Text.lower target = "react" ∧ c.optionsApi.truthy then [.optionsApiUnused] else [])

theorem check_base (target : String) : check base target = [] := by
  have named : Text.isIdentifier base.slotTag.asText.toList = true := by decide
  have booleans : (booleanFields.filter fun f => !isBool (base.get f)) = [] := rfl
  have unused : ¬ (Text.lower target = "react" ∧ base.optionsApi.truthy = true) := fun h => Bool.noConfusion h.2
  rw [check, if_pos named, if_neg unused, booleans]
  rfl

end Config

end DesignProps
