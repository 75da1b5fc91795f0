import DesignProps.Proofs.Property.Kinds
import DesignProps.Proofs.Key.Order
import DesignProps.Target.Declaration
import Mathlib.Data.List.Perm.Basic

/-!
# Raw maps in another order

Every entry of a map is normalized by itself, so the order of raw definitions decides the order of normalized ones
and nothing else: neither whether they can be normalized, nor how values are read by them, nor what is declared.

Main statements: `Progress.result_of_reordered`, `normalizeValues_congr`, `Generator.declared_ok_iff_of_reordered`.
-/

set_option autoImplicit false

namespace DesignProps

namespace Progress

variable {α : Type} {step : Key → Json → Except Fault α}

theorem run_of_forall₂ {raws : List (Key × Json)} {entries : List (Key × α)}
    (related : List.Forall₂ (fun raw e => raw.1 = e.1 ∧ step raw.1 raw.2 = .ok e.2) raws entries) :
    run step raws = ⟨entries, none⟩ := by
  induction related with
  | nil => rfl
  | @cons raw e raws entries first _ ih =>
      obtain ⟨same, done⟩ := first
      simp only [run, done, ih]
      rw [same]

theorem result_of_reordered {raws others : OrderedMap Key Json} (reordered : raws.Reordered others)
    {m : OrderedMap Key α} (result : (run step raws.entries).result = .ok m) :
    ∃ n, (run step others.entries).result = .ok n ∧ m.Reordered n := by
  obtain ⟨entries, related, perm⟩ :=
    List.perm_comp_forall₂ (List.Perm.symm reordered) (forall₂_of_result step raws result)
  have distinct : Assoc.Distinct (entries.map Prod.fst) :=
    Assoc.keys_of_forall₂ (related.imp fun _ _ same => same.1) ▸ others.distinct
  refine ⟨.ofList entries, ?_, ?_⟩
  · rw [run_of_forall₂ related]
    rfl
  · unfold OrderedMap.Reordered
    rw [OrderedMap.entries_ofList entries distinct]
    exact perm.symm

end Progress

/-! ## Values -/

/-- Values are read by what a look-up gives, so by definitions in any order. -/
theorem normalizeValues_congr {definitions others : PropertyDefinitions} (reordered : definitions.Reordered others)
    (raw : List (Key × Json)) : normalizeValues definitions raw = normalizeValues others raw := by
  have step : PropertyValue.ofRaw definitions = PropertyValue.ofRaw others := by
    funext key raw
    simp only [PropertyValue.ofRaw, reordered.get?]
  simp only [normalizeValues, step]

/-! ## Declarations -/

namespace Generator

theorem sortedKeys_ok_iff_of_perm {keys others sorted : List Key} (perm : keys.Perm others)
    (distinct : Assoc.Distinct keys) : sortedKeys keys = .ok sorted ↔ sortedKeys others = .ok sorted := by
  have once : (keys.map fun key => (Naming.identifier key, key)).Pairwise fun a b => (a.2 == b.2) = false :=
    List.pairwise_map.2 distinct
  simp only [sortedKeys, map_eq_ok_iff, Key.sortNamed_ok_iff_of_perm (perm.map _) once]

theorem declared_ok_iff_of_reordered {definitions others : PropertyDefinitions}
    (reordered : definitions.Reordered others) (ps : Declared) :
    declared definitions = .ok ps ↔ declared others = .ok ps := by
  have shown : shown? definitions = shown? others := by
    funext key
    simp only [shown?, reordered.get?]
  simp only [declared, map_eq_ok_iff, sortedKeys_ok_iff_of_perm reordered.keys definitions.distinct, shown]

end Generator

end DesignProps
