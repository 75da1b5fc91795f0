import DesignProps.Config.Basic

/-!
# Positional settings

Toggles are given as a list of pairs of which only the position counts: the value at a position is the second part of
the pair there, or the default where the list ends.

Main statement: `readFrom_nil` (without settings every toggle stands at its default).
-/

set_option autoImplicit false

namespace DesignProps

namespace Settings

/-- The second part of a setting. -/
def second : Json → Except Fault Json
  | .arr (_ :: v :: _) => .ok v
  | .arr items => .error (.tooShort (.arr items))
  | .str s =>
      match s.toList with
      | _ :: c :: _ => .ok (.str (String.singleton c))
      | _ => .error (.tooShort (.str s))
  | .obj _ => .error (.noSuchMember "1")
  | v => .error (.notIndexable v)

/-- The default of a setting that is given as a pair. -/
def defaultOf (pair : Json) : Except Fault Json :=
  match pair.parts with
  | .error _ => .error (.defaultWithoutParts pair)
  | .ok [_, v] => .ok v
  | .ok parts => .error (.defaultParts parts.length)

/-- The toggle at a position: the setting there, or the default. -/
def toggle (items : List Json) (position : Nat) (fallback : Json) : Except Fault Bool :=
  match items[position]? with
  | some setting => (second setting).map Json.truthy
  | none => .ok fallback.truthy

/-- Toggles in order, the first of them at a position. -/
def readFrom (items : List Json) : Nat → List (Except Fault Json) → Except Fault (List Bool)
  | _, [] => .ok []
  | position, default :: defaults => do
      let fallback ← default
      let value ← toggle items position fallback
      let later ← readFrom items (position + 1) defaults
      .ok (value :: later)

/-- Toggles of a settings value, an absent one having no settings. -/
def read (settings : Json) (defaults : List (Except Fault Json)) : Except Fault (List Bool) := do
  let items ← settings.partsIfAny
  readFrom items 0 defaults

theorem readFrom_nil (defaults : List Json) : ∀ position : Nat,
    readFrom [] position (defaults.map .ok) = .ok (defaults.map Json.truthy) := by
  induction defaults with
  | nil => intro _; rfl
  | cons d rest ih =>
      intro position
      simp only [List.map_cons, readFrom, ih]
      rfl

end Settings

namespace Config

/-- The two toggles of the instance pass: whether defaults are shown, whether booleans are spelled out. -/
structure InstanceToggles where
  showDefaults : Bool
  explicitBoolean : Bool
  deriving DecidableEq, Repr

def InstanceToggles.named (t : InstanceToggles) : List (String × Bool) :=
  [("showDefaults", t.showDefaults), ("explicitBoolean", t.explicitBoolean)]

def instanceToggles (c : Config) (settings : Json) : Except Fault InstanceToggles := do
  let items ← settings.partsIfAny
  let showDefaults ← Settings.toggle items 0 c.showDefaults
  let explicitBoolean ← Settings.toggle items 1 c.explicitBoolean
  .ok ⟨showDefaults, explicitBoolean⟩

/-- The toggle of the definitions pass: whether definitions use the options API. -/
def optionsApiToggle (c : Config) (settings : Json) : Except Fault Bool := do
  let items ← settings.partsIfAny
  Settings.toggle items 0 c.optionsApi

end Config

end DesignProps
