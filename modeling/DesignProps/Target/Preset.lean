import DesignProps.Config.File
import DesignProps.Target.Basic

/-!
# Generators from overrides

A generator takes overrides over its target's defaults.  A preset lays its own members under them first.

Main statement: `ofOverrides_config` (the configuration is the one that `Config.load` gives without a file).
-/

set_option autoImplicit false

namespace DesignProps

namespace Generator

def ofOverrides (target : Target) (overrides : List (String × Json)) (lookup : String → Option String) :
    Except ConfigFailure Generator :=
  match Config.load .empty target.name overrides none with
  | .ok config => .ok ⟨target, config, lookup⟩
  | .error e => .error e

/-- The members a preset starts from. -/
def presetMembers : Target → List (String × Json)
  | .react => [("show_defaults", .bool false), ("explicit_boolean", .bool false), ("add_comments", .bool true)]
  | .vue =>
      [("show_defaults", .bool false), ("explicit_boolean", .bool false), ("options_api", .bool false),
        ("add_comments", .bool true)]

def preset (target : Target) (overrides : List (String × Json)) (lookup : String → Option String) :
    Except ConfigFailure Generator :=
  ofOverrides target (Assoc.putAll (presetMembers target) overrides) lookup

/-- Spells out every value, defaults included. -/
def explicitReact (lookup : String → Option String) : Except ConfigFailure Generator :=
  preset .react [("show_defaults", .bool true), ("explicit_boolean", .bool true)] lookup

/-- Declares components by a single options call. -/
def optionsVue (lookup : String → Option String) : Except ConfigFailure Generator :=
  preset .vue [("options_api", .bool true)] lookup

theorem ofOverrides_config (target : Target) (overrides : List (String × Json)) (lookup : String → Option String) :
    (ofOverrides target overrides lookup).map Generator.config = Config.load .empty target.name overrides none := by
  unfold ofOverrides
  split
  · next h => rw [h]; rfl
  · next h => rw [h]; rfl

end Generator

end DesignProps
