import DesignProps.Proofs.Registry.Calls

/-!
# What a registration changes

A registration that is refused for one of its aliases has stored its target and the aliases before that one; only one
that is no target at all is refused without a trace.  Without `replace` a name that is supported keeps what it stands
for, unless it is an alias and the registration takes it as its primary name, because primary names are asked first.

Main statements: `split_of_addAliases` (a list of aliases is refused at one of them), `register_refused`,
`Extends.kept` and `Extends.redirected` (what names stand for after a new one), `resolve_register_iff`.
-/

set_option autoImplicit false

namespace DesignProps.Registry

/-! ## Refused registrations -/

/-- Aliases are refused at one of them, and those before it are added. -/
theorem split_of_addAliases {after : Registry} {primary : String} {replace : Bool} {e : RegistryError} :
    ∀ {names : List String} {r : Registry}, r.addAliases primary replace names = (after, some e) →
      ∃ before name later, names = before ++ name :: later ∧ r.addAliases primary replace before = (after, none) ∧
        after.addAlias primary replace name = .error e := by
  intro names
  induction names with
  | nil => simp [addAliases]
  | cons first rest ih =>
      intro r run
      cases added : r.addAlias primary replace first with
      | error cause =>
          rw [addAliases, added] at run
          obtain ⟨rfl, same⟩ := Prod.mk.inj run
          exact ⟨[], first, rest, rfl, rfl, added.trans (congrArg _ (Option.some.inj same))⟩
      | ok next =>
          rw [addAliases, added] at run
          obtain ⟨before, name, later, rfl, done, refused⟩ := ih run
          refine ⟨first :: before, name, later, rfl, ?_, refused⟩
          rw [addAliases, added]
          exact done

theorem ne_notATarget_of_addAlias {r : Registry} {primary name : String} {replace : Bool} {e : RegistryError}
    (refused : r.addAlias primary replace name = .error e) : replace = false ∧ e ≠ .notATarget := by
  have effect := aliasEffect r primary replace name
  rw [refused] at effect
  cases effect with
  | isTarget keep => exact ⟨keep, RegistryError.noConfusion⟩
  | taken keep => exact ⟨keep, RegistryError.noConfusion⟩

/-- The target and the aliases before the refused one stay. -/
theorem register_refused {r after : Registry} {n : Registration} {e : RegistryError}
    (refused : r.register n = (after, some e)) :
    (after = r ↔ e = .notATarget) ∧
      (e ≠ .notATarget → r.targets.contains (Text.lower n.name) = false ∧
        after.targets.get? (Text.lower n.name) = n.target ∧
        ∃ before name later, n.aliases = before ++ name :: later ∧
          r.register { n with aliases := before } = (after, none) ∧
          after.addAlias (Text.lower n.name) false name = .error e) := by
  have effect := registering r n
  rw [refused] at effect
  generalize answered : (after, some e) = answer at effect
  cases effect with
  | notATarget =>
      obtain ⟨rfl, same⟩ := Prod.mk.inj answered
      obtain rfl := Option.some.inj same
      exact ⟨by simp, fun other => absurd rfl other⟩
  | left => simp at answered
  | @entered target given free =>
      obtain ⟨before, name, later, parts, run, atName⟩ := split_of_addAliases answered.symm
      obtain ⟨keep, isTarget⟩ := ne_notATarget_of_addAlias atName
      have fresh := free.resolve_left (by simp [keep])
      have stored : after.targets.get? (Text.lower n.name) = some target := by
        have targets : ((r.enter n target).addAliases (Text.lower n.name) n.replace before).1.targets =
            (r.enter n target).targets := targets_addAliases before
        rw [run] at targets
        rw [targets, get?_enter]
        simp
      have moved : after ≠ r := by
        rintro rfl
        simp [OrderedMap.contains, stored] at fresh
      have prefixed : r.register { n with aliases := before } = (after, none) := by
        rw [← run]
        simp only [register, given, fresh, Bool.false_and, Bool.false_eq_true, if_false, enter]
      exact ⟨iff_of_false moved isTarget, fun _ => ⟨fresh, stored.trans given.symm, before, name, later, parts, prefixed,
        keep ▸ atName⟩⟩

/-- A registry with one target and one alias. -/
def reactOnly : Registry := empty.performAll [.register ⟨"react", some .react, ["jsx"], false⟩]

/-- A registration whose second alias is taken there. -/
def vueAsJsx : Registration := ⟨"vue", some .vue, ["v", "jsx"], false⟩

theorem register_refused_vueAsJsx :
    reactOnly.register vueAsJsx = ((reactOnly.register vueAsJsx).1, some (.aliasTaken "jsx" "react")) ∧
      ((reactOnly.register vueAsJsx).1 = reactOnly ↔ RegistryError.aliasTaken "jsx" "react" = .notATarget) ∧
      (RegistryError.aliasTaken "jsx" "react" ≠ .notATarget →
        reactOnly.targets.contains (Text.lower vueAsJsx.name) = false ∧
        (reactOnly.register vueAsJsx).1.targets.get? (Text.lower vueAsJsx.name) = vueAsJsx.target ∧
        ∃ before name later, vueAsJsx.aliases = before ++ name :: later ∧
          reactOnly.register { vueAsJsx with aliases := before } = ((reactOnly.register vueAsJsx).1, none) ∧
          (reactOnly.register vueAsJsx).1.addAlias (Text.lower vueAsJsx.name) false name =
            .error (.aliasTaken "jsx" "react")) :=
  have refused : (reactOnly.register vueAsJsx).2 = some (.aliasTaken "jsx" "react") := by decide +kernel
  ⟨Prod.ext rfl refused, register_refused (Prod.ext rfl refused)⟩

/-- It is refused, and the target and its first alias are there. -/
theorem refused_left_behind :
    (reactOnly.register vueAsJsx).2 = some (.aliasTaken "jsx" "react") ∧
      (reactOnly.targets.keys = ["react"] ∧ reactOnly.aliases.keys = ["jsx"]) ∧
      (reactOnly.register vueAsJsx).1.targets.keys = ["react", "vue"] ∧
      (reactOnly.register vueAsJsx).1.aliases.keys = ["jsx", "v"] := by
  decide +kernel

/-! ## Names that are supported -/

/-- A primary name is new, and all that was there is as it was. -/
structure Extends (r after : Registry) (key : String) (target : Target) : Prop where
  fresh : r.targets.contains key = false
  targets : ∀ name, after.targets.get? name = if key == name then some target else r.targets.get? name
  aliases : ∀ name primary, r.aliases.get? name = some primary → after.aliases.get? name = some primary

theorem extends_enter {r : Registry} {n : Registration} (target : Target)
    (fresh : r.targets.contains (Text.lower n.name) = false) :
    Extends r ((r.enter n target).addAliases (Text.lower n.name) false n.aliases).1 (Text.lower n.name) target where
  fresh := fresh
  targets name := by rw [targets_addAliases, get?_enter]
  aliases _ _ points := alias_addAliases (r := r.enter n target) n.aliases points

theorem target_eq_registered {r : Registry} {name primary : String} (resolved : r.resolve name = .ok primary) :
    r.target name = r.registered primary := by
  simp only [Registry.target, resolved, bind, Except.bind]

namespace Extends
variable {r after : Registry} {key name primary : String} {target : Target}

theorem contains_of_ne (extension : Extends r after key target) (other : name ≠ key) :
    after.targets.get? name = r.targets.get? name := by
  rw [extension.targets, if_neg fun same => other (eq_of_beq same).symm]

theorem ne_of_contains (extension : Extends r after key target) (known : r.targets.contains primary = true) :
    primary ≠ key := by
  rintro rfl
  exact Bool.false_ne_true (extension.fresh.symm.trans known)

/-- Another name keeps what it stands for: its alias is there, and the target that it points to. -/
theorem kept (extension : Extends r after key target) (sound : r.Sound) (resolved : r.resolve name = .ok primary)
    (other : Text.lower name ≠ key) : after.resolve name = .ok primary ∧ after.target name = r.target name := by
  have still : after.resolve name = .ok primary := by
    unfold resolve OrderedMap.contains at resolved ⊢
    dsimp only at resolved ⊢
    rw [extension.contains_of_ne other]
    split at resolved
    · next known => rw [if_pos known, resolved]
    · next unknown =>
        rw [if_neg unknown]
        cases points : r.aliases.get? (Text.lower name) with
        | none => simp [points] at resolved
        | some p => simpa [extension.aliases _ _ points, points] using resolved
  refine ⟨still, ?_⟩
  rw [target_eq_registered still, target_eq_registered resolved, registered, registered,
    extension.contains_of_ne (extension.ne_of_contains (sound.contains_of_resolve resolved))]

/-- The new name stands for itself, which no name did before. -/
theorem redirected (extension : Extends r after key target) (sound : r.Sound) (resolved : r.resolve name = .ok primary)
    (same : Text.lower name = key) : after.resolve name ≠ .ok primary := by
  have contained : after.targets.contains (Text.lower name) = true := by
    rw [OrderedMap.contains, extension.targets, same]
    simp
  rw [resolve_of_contains after name contained, same]
  exact fun here => extension.ne_of_contains (sound.contains_of_resolve resolved) (Except.ok.inj here).symm

end Extends

/-- A registration without `replace` leaves a supported name what it stands for exactly if it brings no target, is made
under another name, or the name is a target's own: as a primary name it takes an alias over. -/
theorem resolve_register_iff (calls : List Call) {n : Registration} (keep : n.replace = false) {name : String}
    (supported : (empty.performAll calls).supports name = true) :
    (((empty.performAll calls).register n).1.resolve name = (empty.performAll calls).resolve name ∧
        ((empty.performAll calls).register n).1.target name = (empty.performAll calls).target name) ↔
      (n.target = none ∨ Text.lower name ≠ Text.lower n.name ∨
        (empty.performAll calls).targets.contains (Text.lower name) = true) := by
  have sound : (empty.performAll calls).Sound := sound_empty.performAll calls
  generalize empty.performAll calls = r at sound supported ⊢
  obtain ⟨primary, resolved⟩ := (supports_iff r name).1 supported
  have effect := registering r n
  generalize r.register n = answer at effect ⊢
  cases effect with
  | notATarget none => exact iff_of_true ⟨rfl, rfl⟩ (.inl none)
  | left _ taken =>
      refine iff_of_true ⟨rfl, rfl⟩ (.inr ?_)
      by_cases same : Text.lower name = Text.lower n.name
      · exact .inr (same ▸ taken)
      · exact .inl same
  | @entered target given free =>
      rw [keep] at free ⊢
      have fresh := free.resolve_left Bool.false_ne_true
      have extension := extends_enter target fresh
      by_cases same : Text.lower name = Text.lower n.name
      · refine iff_of_false (fun still => ?_) (by simp [given, same, fresh])
        exact extension.redirected sound resolved same (still.1.trans resolved)
      · obtain ⟨still, leads⟩ := extension.kept sound resolved same
        exact iff_of_true ⟨still.trans resolved.symm, leads⟩ (.inr (.inl same))

theorem resolve_register_jsx :
    vueAsJsx.replace = false ∧ reactOnly.supports "jsx" = true ∧
      (((reactOnly.register vueAsJsx).1.resolve "jsx" = reactOnly.resolve "jsx" ∧
          (reactOnly.register vueAsJsx).1.target "jsx" = reactOnly.target "jsx") ↔
        (vueAsJsx.target = none ∨ Text.lower "jsx" ≠ Text.lower vueAsJsx.name ∨
          reactOnly.targets.contains (Text.lower "jsx") = true)) :=
  have supported : reactOnly.supports "jsx" = true := by decide +kernel
  ⟨rfl, supported, resolve_register_iff _ rfl supported⟩

/-- An alias that is registered as a primary name stands for itself from then on. -/
theorem alias_redirected :
    (reactOnly.resolve "jsx" = .ok "react" ∧ reactOnly.target "jsx" = .ok .react) ∧
      (reactOnly.register ⟨"jsx", some .vue, [], false⟩).1.resolve "jsx" = .ok "jsx" ∧
      (reactOnly.register ⟨"jsx", some .vue, [], false⟩).1.target "jsx" = .ok .vue := by
  decide +kernel

end DesignProps.Registry
