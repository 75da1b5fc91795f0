import DesignProps.Registry
import DesignProps.Proofs.OrderedMap

/-!
# Calls on a registry

`AliasEffect` and `Registering` list all that adding an alias and registering a target can do, refusals included.
`performAll` makes calls one after the other and goes on after one that is refused.  Whatever the calls, an alias
points to a primary name that is registered: a target is stored before its aliases, and goes together with them.

Main statements: `aliasEffect`, `registering`, `performAll_induction` (what every call keeps holds after any run),
`Sound.performAll`, `performAll_sound` (so what is supported is what stands for a registered target).
-/

set_option autoImplicit false

namespace DesignProps.Registry

/-! ## Aliases -/

/-- What adding an alias answers. -/
inductive AliasEffect (r : Registry) (primary : String) (replace : Bool) (name : String) :
    Except RegistryError Registry → Prop
  /-- A name is no alias of itself. -/
  | itself (same : Text.lower name = primary) : AliasEffect r primary replace name (.ok r)
  | pointed (apart : Text.lower name ≠ primary)
      (free : replace = true ∨ r.targets.contains (Text.lower name) = false ∧
        ∀ other, r.aliases.get? (Text.lower name) = some other → other = primary) :
      AliasEffect r primary replace name (.ok { r with aliases := r.aliases.insert (Text.lower name) primary })
  | isTarget (keep : replace = false) (known : r.targets.contains (Text.lower name) = true) :
      AliasEffect r primary replace name (.error (.aliasIsTarget name))
  | taken {other : String} (keep : replace = false) (points : r.aliases.get? (Text.lower name) = some other)
      (elsewhere : other ≠ primary) : AliasEffect r primary replace name (.error (.aliasTaken name other))

theorem aliasEffect (r : Registry) (primary : String) (replace : Bool) (name : String) :
    AliasEffect r primary replace name (r.addAlias primary replace name) := by
  unfold addAlias
  dsimp only
  split
  · next same => exact .itself same
  · next apart =>
      cases replace with
      | true => exact .pointed apart (.inl rfl)
      | false =>
          rw [if_neg Bool.false_ne_true]
          split
          · next known => exact .isTarget rfl known
          · next unknown =>
              have fresh : r.targets.contains (Text.lower name) = false := Bool.eq_false_iff.2 unknown
              cases points : r.aliases.get? (Text.lower name) with
              | none => exact .pointed apart (.inr ⟨fresh, by simp [points]⟩)
              | some other =>
                  dsimp only
                  split
                  · next here => exact .pointed apart (.inr ⟨fresh, by simp [points, here]⟩)
                  · next elsewhere => exact .taken rfl points elsewhere

section Aliases
variable {r after : Registry} {primary name : String} {replace : Bool}

theorem targets_addAlias (added : r.addAlias primary replace name = .ok after) : after.targets = r.targets := by
  have effect := aliasEffect r primary replace name
  rw [added] at effect
  cases effect <;> rfl

/-- An alias that is there afterwards was there before or points to the primary name it was added for. -/
theorem alias_of_addAlias (added : r.addAlias primary replace name = .ok after) {key target : String}
    (points : after.aliases.get? key = some target) : target = primary ∨ r.aliases.get? key = some target := by
  have effect := aliasEffect r primary replace name
  rw [added] at effect
  cases effect with
  | itself => exact .inr points
  | pointed =>
      rw [OrderedMap.get?_insert] at points
      split at points
      · exact .inl (Option.some.inj points).symm
      · exact .inr points

/-- Without `replace` no alias is made to point elsewhere. -/
theorem alias_addAlias (added : r.addAlias primary false name = .ok after) {key target : String}
    (points : r.aliases.get? key = some target) : after.aliases.get? key = some target := by
  have effect := aliasEffect r primary false name
  rw [added] at effect
  cases effect with
  | itself => exact points
  | pointed apart free =>
      obtain ⟨-, here⟩ := free.resolve_left Bool.false_ne_true
      rw [OrderedMap.get?_insert]
      split
      · next same =>
          rw [eq_of_beq same] at here
          rw [here target points]
      · exact points

/-- What adding an alias keeps, adding several keeps, up to the first one that is refused. -/
theorem addAliases_induction {P : Registry → Prop}
    (step : ∀ {r after : Registry} {name : String}, P r → r.addAlias primary replace name = .ok after → P after) :
    ∀ (names : List String) {r : Registry}, P r → P (r.addAliases primary replace names).1 := by
  intro names
  induction names with
  | nil => exact fun holds => holds
  | cons name rest ih =>
      intro r holds
      rw [addAliases]
      cases added : r.addAlias primary replace name with
      | error e => exact holds
      | ok next => exact ih (step holds added)

theorem targets_addAliases (names : List String) : (r.addAliases primary replace names).1.targets = r.targets :=
  addAliases_induction (P := fun s => s.targets = r.targets)
    (fun same added => (targets_addAlias added).trans same) names rfl

theorem alias_of_addAliases (names : List String) {key target : String}
    (points : (r.addAliases primary replace names).1.aliases.get? key = some target) :
    target = primary ∨ r.aliases.get? key = some target := by
  refine addAliases_induction (P := fun s => s.aliases.get? key = some target →
    target = primary ∨ r.aliases.get? key = some target) ?_ names .inr points
  intro s after name holds added points
  exact (alias_of_addAlias added points).elim .inl holds

theorem alias_addAliases (names : List String) {key target : String} (points : r.aliases.get? key = some target) :
    (r.addAliases primary false names).1.aliases.get? key = some target :=
  addAliases_induction (P := fun s => s.aliases.get? key = some target)
    (fun points added => alias_addAlias added points) names points

end Aliases

/-! ## Registering -/

/-- The registry with a target stored under the primary name of a registration, before its aliases. -/
def enter (r : Registry) (n : Registration) (target : Target) : Registry :=
  { r with targets := r.targets.insert (Text.lower n.name) target }

theorem get?_enter (r : Registry) (n : Registration) (target : Target) (key : String) :
    (r.enter n target).targets.get? key = if Text.lower n.name == key then some target else r.targets.get? key :=
  OrderedMap.get?_insert r.targets (Text.lower n.name) target key

/-- What a registration leaves behind and answers. -/
inductive Registering (r : Registry) (n : Registration) : Registry × Option RegistryError → Prop
  | notATarget (none : n.target = none) : Registering r n (r, some .notATarget)
  /-- A name that is taken is left alone, its aliases with it. -/
  | left (keep : n.replace = false) (taken : r.targets.contains (Text.lower n.name) = true) : Registering r n (r, none)
  | entered {target : Target} (given : n.target = some target)
      (free : n.replace = true ∨ r.targets.contains (Text.lower n.name) = false) :
      Registering r n ((r.enter n target).addAliases (Text.lower n.name) n.replace n.aliases)

theorem registering (r : Registry) (n : Registration) : Registering r n (r.register n) := by
  unfold register
  cases given : n.target with
  | none => exact .notATarget given
  | some target =>
      dsimp only
      split
      · next taken =>
          simp only [Bool.and_eq_true, Bool.not_eq_true'] at taken
          exact .left taken.2 taken.1
      · next free =>
          refine .entered given ?_
          cases replace : n.replace with
          | true => exact .inl rfl
          | false => simpa [replace] using free

/-! ## Runs -/

/-- What is asked of a registry to change it. -/
inductive Call
  | register (n : Registration)
  | unregister (name : String)
  deriving DecidableEq

/-- The registry after a call, also after one that was refused. -/
def perform (r : Registry) : Call → Registry
  | .register n => (r.register n).1
  | .unregister name => r.unregister name

/-- Makes calls in order and goes on after one that is refused. -/
def performAll (r : Registry) (calls : List Call) : Registry := calls.foldl perform r

theorem performAll_induction {P : Registry → Prop} (step : ∀ (r : Registry) (c : Call), P r → P (r.perform c)) :
    ∀ (calls : List Call) {r : Registry}, P r → P (r.performAll calls) := by
  intro calls
  induction calls with
  | nil => exact fun holds => holds
  | cons c rest ih => exact fun holds => ih (step _ c holds)

/-! ## Aliases of registered targets -/

/-- Every alias points to a primary name that is registered. -/
def Sound (r : Registry) : Prop :=
  ∀ key primary, r.aliases.get? key = some primary → r.targets.contains primary = true

theorem sound_empty : Sound empty := by
  intro key primary points
  simp [empty] at points

theorem Sound.register {r : Registry} (sound : r.Sound) (n : Registration) : (r.register n).1.Sound := by
  have effect := registering r n
  generalize r.register n = answer at effect ⊢
  cases effect with
  | notATarget => exact sound
  | left => exact sound
  | entered =>
      intro key primary points
      rw [targets_addAliases, OrderedMap.contains, get?_enter]
      split
      · rfl
      · next other =>
          -- an alias that is not for the new name was there before
          rcases alias_of_addAliases n.aliases points with rfl | before
          · simp at other
          · exact sound key primary before

theorem Sound.unregister {r : Registry} (sound : r.Sound) (name : String) : (r.unregister name).Sound := by
  intro key primary points
  obtain ⟨inside, other⟩ := List.mem_filter.1 ((OrderedMap.mem_entries_iff ..).2 points)
  have apart : (Text.lower name == primary) = false := by
    simpa [BEq.comm] using other
  have known := sound key primary ((r.aliases.mem_entries_iff key primary).1 inside)
  rw [OrderedMap.contains] at known ⊢
  exact (congrArg Option.isSome (OrderedMap.get?_erase_of_ne r.targets apart)).trans known

theorem Sound.perform {r : Registry} (sound : r.Sound) : ∀ c : Call, (r.perform c).Sound
  | .register n => sound.register n
  | .unregister name => sound.unregister name

theorem Sound.performAll {r : Registry} (sound : r.Sound) (calls : List Call) : (r.performAll calls).Sound :=
  performAll_induction (P := Sound) (fun _ c holds => holds.perform c) calls sound

/-! ## Looking up in what calls leave behind -/

theorem supports_iff (r : Registry) (name : String) : r.supports name = true ↔ ∃ primary, r.resolve name = .ok primary := by
  unfold supports resolve OrderedMap.contains
  dsimp only
  cases r.targets.get? (Text.lower name) with
  | some target => simp
  | none => cases r.aliases.get? (Text.lower name) <;> simp

theorem Sound.contains_of_resolve {r : Registry} (sound : r.Sound) {name primary : String}
    (resolved : r.resolve name = .ok primary) : r.targets.contains primary = true := by
  unfold resolve at resolved
  dsimp only at resolved
  split at resolved
  · next known => exact Except.ok.inj resolved ▸ known
  · split at resolved
    · next points => exact sound _ _ (Except.ok.inj resolved ▸ points)
    · simp at resolved

/-- What a name stands for is registered, so a look-up fails only where the name stands for nothing. -/
theorem Sound.target_of_resolve {r : Registry} (sound : r.Sound) {name primary : String}
    (resolved : r.resolve name = .ok primary) :
    ∃ target, r.targets.get? primary = some target ∧ r.target name = .ok target := by
  obtain ⟨target, found⟩ := Option.isSome_iff_exists.1 (sound.contains_of_resolve resolved)
  exact ⟨target, found, by simp only [Registry.target, resolved, bind, Except.bind, registered, found]⟩

theorem unknown_of_unresolved {r : Registry} {name : String} {e : RegistryError} (unresolved : r.resolve name = .error e) :
    e = .unknown name r.names := by
  unfold resolve at unresolved
  dsimp only at unresolved
  split at unresolved
  · simp at unresolved
  · split at unresolved
    · simp at unresolved
    · exact (Except.error.inj unresolved).symm

theorem target_of_unresolved {r : Registry} {name : String} {e : RegistryError} (unresolved : r.resolve name = .error e) :
    r.target name = .error e := by
  simp only [Registry.target, unresolved, bind, Except.bind]

/-- Whatever calls are made of an empty registry, refused ones included, its aliases point to registered targets.  So a
name is supported exactly if it can be resolved, what it is resolved to is registered, and asking for its target gives
one and never finds an alias that points nowhere. -/
theorem performAll_sound (calls : List Call) :
    (∀ key primary, (empty.performAll calls).aliases.get? key = some primary →
      (empty.performAll calls).targets.contains primary = true) ∧
    ∀ name, ((empty.performAll calls).supports name = true ↔
        ∃ primary, (empty.performAll calls).resolve name = .ok primary) ∧
      (∀ primary, (empty.performAll calls).resolve name = .ok primary →
        (empty.performAll calls).targets.contains primary = true) ∧
      ((empty.performAll calls).supports name = true →
        ∃ target, (empty.performAll calls).target name = .ok target) ∧
      ∀ primary, (empty.performAll calls).target name ≠ .error (.dangling primary) := by
  have sound : (empty.performAll calls).Sound := sound_empty.performAll calls
  refine ⟨sound, fun name => ⟨supports_iff _ name, fun primary => sound.contains_of_resolve, ?found, ?dangling⟩⟩
  case found =>
    intro supported
    obtain ⟨primary, resolved⟩ := (supports_iff _ name).1 supported
    obtain ⟨target, -, found⟩ := sound.target_of_resolve resolved
    exact ⟨target, found⟩
  case dangling =>
    intro primary failed
    cases resolved : (empty.performAll calls).resolve name with
    | ok p =>
        obtain ⟨target, -, found⟩ := sound.target_of_resolve resolved
        exact absurd (found.symm.trans failed) (by simp)
    | error e =>
        obtain rfl := Except.error.inj ((target_of_unresolved resolved).symm.trans failed)
        exact absurd (unknown_of_unresolved resolved) (by simp)

end DesignProps.Registry
