import DesignProps.Config.File
import DesignProps.Proofs.Config.Layers

/-!
# Fields laid over a configuration

Overrides that are fields change these fields and nothing else of the configuration that there is without them, whether
a file has set them or not, and whatever custom entries it brings along.

Main statements: `setAll_put` and `ofMembers_put` (one more member), `load_fields` (a target's configuration with fields
laid over a file).
-/

set_option autoImplicit false

namespace DesignProps.Config

/-! ## Setting fields -/

theorem set_set (c : Config) (f : Field) (v w : Json) : (c.set f w).set f v = c.set f v := by
  cases f <;> rfl

theorem set_comm (c : Config) {f g : Field} (apart : f ≠ g) (v w : Json) :
    (c.set f v).set g w = (c.set g w).set f v := by
  cases f <;> cases g <;> first | rfl | exact absurd rfl apart

theorem custom_set (c : Config) (f : Field) (v : Json) : (c.set f v).custom = c.custom := by
  cases f <;> rfl

theorem set_withCustom (c : Config) (custom : Custom) (f : Field) (v : Json) :
    { c.set f v with custom := custom } = { c with custom := custom }.set f v := by
  cases f <;> rfl

/-- A member of another name does not see the field. -/
theorem setMember_set (c : Config) (f : Field) (v : Json) {entry : String × Json} (apart : entry.1 ≠ f.key) :
    (c.set f v).setMember entry = (c.setMember entry).set f v := by
  unfold setMember
  cases found : Field.ofKey? entry.1 with
  | some g =>
      have other : f ≠ g := fun same => apart (same ▸ ofKey?_eq_some_iff.1 found)
      exact set_comm c other v entry.2
  | none =>
      dsimp only
      split
      · exact set_withCustom c _ f v
      · rfl

theorem setAll_set (f : Field) (v : Json) (members : List (String × Json)) : ∀ c : Config,
    f.key ∉ members.map Prod.fst → (c.set f v).setAll members = (c.setAll members).set f v := by
  induction members with
  | nil => exact fun _ _ => rfl
  | cons entry rest ih =>
      intro c absent
      obtain ⟨apart, absent⟩ := not_or.1 fun inside => absent (List.mem_cons.2 inside)
      have first := setMember_set c f v (Ne.symm apart)
      have later := ih (c.setMember entry) absent
      simp only [setAll, List.foldl_cons] at later ⊢
      rw [first, later]

theorem setMember_key (c : Config) (f : Field) (v : Json) : c.setMember (f.key, v) = c.set f v := by
  simp only [setMember, ofKey?_key]

/-- A field that is put over members has its value last, wherever its member stands. -/
theorem setAll_put (f : Field) (v : Json) (members : List (String × Json)) : ∀ c : Config,
    (members.map Prod.fst).Nodup → c.setAll (Assoc.put f.key v members) = (c.setAll members).set f v := by
  induction members with
  | nil => exact fun c _ => setMember_key c f v
  | cons entry rest ih =>
      intro c distinct
      obtain ⟨key, w⟩ := entry
      obtain ⟨apart, distinct⟩ := List.nodup_cons.1 distinct
      by_cases same : key = f.key
      · subst same
        have here : Assoc.put f.key v ((f.key, w) :: rest) = (f.key, v) :: rest := by simp [Assoc.put]
        calc
          c.setAll (Assoc.put f.key v ((f.key, w) :: rest)) = (c.set f v).setAll rest := by
            rw [here, setAll, List.foldl_cons, setMember_key]
            rfl
          _ = ((c.set f w).set f v).setAll rest := by rw [set_set]
          _ = ((c.set f w).setAll rest).set f v := setAll_set f v rest _ apart
          _ = (c.setAll ((f.key, w) :: rest)).set f v := by rw [← setMember_key c f w]; rfl
      · have further : Assoc.put f.key v ((key, w) :: rest) = (key, w) :: Assoc.put f.key v rest := by
          simp [Assoc.put, same]
        rw [further]
        exact ih (c.setMember (key, w)) distinct

/-- A field that is put over members changes the field of their configuration. -/
theorem ofMembers_put (f : Field) (v : Json) {members : List (String × Json)} (distinct : (members.map Prod.fst).Nodup) :
    ofMembers (Assoc.put f.key v members) = (ofMembers members).map fun c => c.set f v := by
  have kept : (Assoc.put f.key v members).filter (fun e => !isKnown e) = members.filter fun e => !isKnown e := by
    have known : (!((Field.ofKey? f.key).isSome || f.key == customKey)) = false := by simp [ofKey?_key]
    have picked := Assoc.filter_put_of_key (fun key => !((Field.ofKey? key).isSome || key == customKey)) f.key v members
    rw [known] at picked
    exact picked
  unfold ofMembers
  dsimp only
  rw [kept, setAll_put f v members base distinct]
  cases members.filter fun e => !isKnown e with
  | nil => rfl
  | cons first rest =>
      simp only [custom_set]
      cases (base.setAll members).custom.toMap with
      | error e => rfl
      | ok own => exact congrArg Except.ok (set_withCustom _ _ f v)

/-! ## Several fields -/

/-- Sets fields one after the other. -/
def setFields (c : Config) (settings : List (Field × Json)) : Config := settings.foldl (fun c s => c.set s.1 s.2) c

/-- Fields as members. -/
def fieldEntries (settings : List (Field × Json)) : List (String × Json) := settings.map fun s => (s.1.key, s.2)

theorem ofMembers_putAll (settings : List (Field × Json)) : ∀ {members : List (String × Json)},
    (members.map Prod.fst).Nodup →
      ofMembers (Assoc.putAll members (fieldEntries settings)) = (ofMembers members).map fun c => c.setFields settings := by
  induction settings with
  | nil =>
      intro members _
      have same : Assoc.putAll members (fieldEntries []) = members := rfl
      rw [same]
      cases ofMembers members <;> rfl
  | cons s rest ih =>
      intro members distinct
      have step : Assoc.putAll members (fieldEntries (s :: rest)) =
          Assoc.putAll (Assoc.put s.1.key s.2 members) (fieldEntries rest) := rfl
      have apart := Assoc.distinct_iff_nodup.1 (Assoc.distinct_put s.1.key s.2 (Assoc.distinct_iff_nodup.2 distinct))
      rw [step, ih apart, ofMembers_put s.1 s.2 distinct]
      cases ofMembers members <;> rfl

/-- With fields as overrides, a target's configuration is the one without overrides but for these fields. -/
theorem load_fields (fs : Files) (target : String) (settings : List (Field × Json)) (path : Option String) :
    load fs target (fieldEntries settings) path = (load fs target [] path).map fun c => c.setFields settings := by
  unfold load
  cases fileLayer fs path with
  | error e => rfl
  | ok file =>
      have once := Assoc.distinct_putAll file _ (distinct_targetDefaults (Text.lower target))
      have made := ofMembers_putAll settings (Assoc.distinct_iff_nodup.1 once)
      simp only [layered, made]
      have nothing : Assoc.putAll (Assoc.putAll (targetDefaults (Text.lower target)) file) [] =
        Assoc.putAll (targetDefaults (Text.lower target)) file := rfl
      rw [nothing]
      cases ofMembers (Assoc.putAll (targetDefaults (Text.lower target)) file) <;> rfl

end DesignProps.Config
