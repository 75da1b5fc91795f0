import DesignProps.OrderedMap

/-!
# Maps with other values

Changing every value of a map by a function changes no key and no position, so it makes no difference whether values are
changed before they are put into a map or after.

Main statements: `get?_mapValues`, `mapValues_insertNew`, `mapValues_ofList`.
-/

set_option autoImplicit false

namespace DesignProps

variable {κ ν ω : Type} [BEq κ] (f : ν → ω)

namespace Assoc

theorem get?_map (k : κ) : ∀ xs : List (κ × ν),
    get? k (xs.map fun e => (e.1, f e.2)) = (get? k xs).map f := by
  intro xs
  induction xs with
  | nil => rfl
  | cons e rest ih =>
      simp only [List.map_cons, get?, ih]
      split <;> rfl

theorem map_put (k : κ) (v : ν) : ∀ xs : List (κ × ν),
    (put k v xs).map (fun e => (e.1, f e.2)) = put k (f v) (xs.map fun e => (e.1, f e.2)) := by
  intro xs
  induction xs with
  | nil => rfl
  | cons e rest ih =>
      simp only [put, List.map_cons]
      split
      · rfl
      · rw [List.map_cons, ih]

theorem map_putAll : ∀ pairs base : List (κ × ν), (putAll base pairs).map (fun e => (e.1, f e.2)) =
    putAll (base.map fun e => (e.1, f e.2)) (pairs.map fun e => (e.1, f e.2)) := by
  intro pairs
  induction pairs with
  | nil => exact fun _ => rfl
  | cons p rest ih =>
      intro base
      have later := ih (put p.1 p.2 base)
      rwa [map_put] at later

end Assoc

namespace OrderedMap

variable (m : OrderedMap κ ν) (k : κ)

theorem get?_mapValues : (m.mapValues fun _ => f).get? k = (m.get? k).map f := Assoc.get?_map f k m.entries

theorem contains_mapValues : (m.mapValues fun _ => f).contains k = m.contains k := by
  rw [contains, contains, get?_mapValues, Option.isSome_map]

theorem values_mapValues : (m.mapValues fun _ => f).values = m.values.map f := by
  simp [values, mapValues, Function.comp_def]

theorem mapValues_insert (v : ν) :
    (m.insert k v).mapValues (fun _ => f) = (m.mapValues fun _ => f).insert k (f v) :=
  OrderedMap.ext (Assoc.map_put f k v m.entries)

theorem mapValues_insertNew (v : ν) :
    (m.insertNew k v).mapValues (fun _ => f) = (m.mapValues fun _ => f).insertNew k (f v) := by
  unfold insertNew
  rw [contains_mapValues, ← mapValues_insert]
  split <;> rfl

theorem mapValues_ofList (pairs : List (κ × ν)) :
    (ofList pairs).mapValues (fun _ => f) = ofList (pairs.map fun e => (e.1, f e.2)) :=
  OrderedMap.ext (Assoc.map_putAll f pairs [])

end OrderedMap

end DesignProps
