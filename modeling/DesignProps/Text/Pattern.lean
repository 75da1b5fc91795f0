import DesignProps.Text.WordChar

/-!
# Patterns

A pattern describes how a text goes on from a place in it.  Of the ways to match, the first one counts: a choice tries
its first pattern first, and a repetition takes as much as possible or as little as possible, as it says, before
it tries the others.  What a group matches is noted down.

Main statements: `keeps_run` (matching keeps every invariant of readings), `text_of_match?` (a match only moves to
another place in the same text), `lt_of_mem_groups` (no group is empty).
-/

set_option autoImplicit false

namespace DesignProps.Text

/-! ## Readings -/

/-- A place in a text, with the places where the groups before it began and ended, the last one first. -/
structure Reading where
  /-- The characters before the place, the last one first. -/
  before : List Char
  place : Nat
  rest : List Char
  groups : List (Nat × Nat)
  deriving DecidableEq, Repr

namespace Reading

def start (cs : List Char) : Reading := ⟨[], 0, cs, []⟩

def text (s : Reading) : List Char := s.before.reverse ++ s.rest

def next (s : Reading) : Reading :=
  match s.rest with
  | c :: rest => { s with before := c :: s.before, place := s.place + 1, rest := rest }
  | [] => s

def back (s : Reading) : Reading :=
  match s.before with
  | c :: before => { s with before := before, place := s.place - 1, rest := c :: s.rest }
  | [] => s

def advance : Nat → Reading → Reading
  | 0, s => s
  | n + 1, s => advance n s.next

/-- Notes down a group that begins at another place and ends here; an empty one is not noted. -/
def noteFrom (s : Reading) (start : Nat) : Reading :=
  if start < s.place then { s with groups := (start, s.place) :: s.groups } else s

end Reading

/-! ## Patterns -/

inductive Pattern
  | empty
  | one (accepts : Char → Bool)
  | both (first second : Pattern)
  | either (first second : Pattern)
  /-- As many characters as possible. -/
  | many (accepts : Char → Bool)
  /-- As few characters as possible. -/
  | few (accepts : Char → Bool)
  /-- As often as possible. -/
  | often (item : Pattern)
  /-- As often as possible, and never less often. -/
  | always (item : Pattern)
  | group (inner : Pattern)
  /-- Whether the text could go on so. -/
  | ahead (wanted : Bool) (inner : Pattern)
  /-- A condition on the characters before and behind the place. -/
  | between (accepts : Option Char → Option Char → Bool)

namespace Pattern

instance : Append Pattern := ⟨both⟩

instance : OrOp Pattern := ⟨either⟩

/-! ## Matching -/

abbrev Goal := Reading → Option Reading

/-- Tries a goal here, and else up to so many places before. -/
def givingBack (goal : Goal) : Nat → Goal
  | 0, s => goal s
  | n + 1, s =>
      match goal s with
      | some r => some r
      | none => givingBack goal n s.back

/-- Tries a goal here, and else up to so many places behind. -/
def takingMore (goal : Goal) : Nat → Goal
  | 0, s => goal s
  | n + 1, s =>
      match goal s with
      | some r => some r
      | none => takingMore goal n s.next

/-- Tries an item again and again before a goal; an item that is empty is not repeated. -/
def repeating (item : Goal → Goal) (goal : Goal) : Nat → Goal
  | 0, s => goal s
  | n + 1, s =>
      match item (fun after => if s.place < after.place then repeating item goal n after else none) s with
      | some r => some r
      | none => goal s

/-- The place behind as many items as possible. -/
def behindAll (item : Goal → Goal) : Nat → Reading → Reading
  | 0, s => s
  | n + 1, s =>
      match item (fun after => if s.place < after.place then some after else none) s with
      | some after => behindAll item n after
      | none => s

/-- Where a goal leads behind the first way to match from which it can be reached. -/
def run : Pattern → Goal → Goal
  | empty, goal, s => goal s
  | one accepts, goal, s => if s.rest.head?.any accepts then goal s.next else none
  | both first second, goal, s => first.run (second.run goal) s
  | either first second, goal, s =>
      match first.run goal s with
      | some r => some r
      | none => second.run goal s
  | many accepts, goal, s =>
      let count := (s.rest.takeWhile accepts).length
      givingBack goal count (s.advance count)
  | few accepts, goal, s => takingMore goal (s.rest.takeWhile accepts).length s
  | often item, goal, s => repeating item.run goal s.rest.length s
  | always item, goal, s => goal (behindAll item.run s.rest.length s)
  | group inner, goal, s => inner.run (fun after => goal (after.noteFrom s.place)) s
  | ahead wanted inner, goal, s => if (inner.run some s).isSome = wanted then goal s else none
  | between accepts, goal, s => if accepts s.before.head? s.rest.head? then goal s else none

/-- The place behind the first way to match. -/
def match? (p : Pattern) (s : Reading) : Option Reading := p.run some { s with groups := [] }

/-! ## Common patterns -/

/-- A text as it is. -/
def word (s : String) : Pattern := s.toList.foldr (fun c later => one (· == c) ++ later) empty

def mark (c : Char) : Pattern := one (· == c)

def any : Char → Bool := fun _ => true

def among (s : String) : Char → Bool :=
  let cs := s.toList
  fun c => cs.contains c

def outside (s : String) : Char → Bool :=
  let cs := s.toList
  fun c => !cs.contains c

/-- The first of some texts. -/
def oneOf : List String → Pattern
  | [] => between fun _ _ => false
  | [s] => word s
  | s :: later => word s ||| oneOf later

def plus (accepts : Char → Bool) : Pattern := one accepts ++ many accepts

def optional (p : Pattern) : Pattern := p ||| empty

/-- So often, and up to so many times more. -/
def times (p : Pattern) : Nat → Nat → Pattern
  | 0, 0 => empty
  | 0, more + 1 => optional (p ++ times p 0 more)
  | n + 1, more => p ++ times p n more

def textStart : Pattern := between fun before _ => before.isNone

def lineStart : Pattern := between fun before _ => before.all (· == '\n')

def lineEnd : Pattern := between fun _ behind => behind.all (· == '\n')

/-- Between a character of a word and another one. -/
def wordEdge : Pattern := between fun before behind => before.any isWordChar != behind.any isWordChar

def noWordEdge : Pattern := between fun before behind => before.any isWordChar == behind.any isWordChar

/-! ## Laws -/

end Pattern

namespace Reading

@[simp] theorem text_next (s : Reading) : s.next.text = s.text := by
  unfold next text
  split <;> simp_all

@[simp] theorem rest_next (s : Reading) : s.next.rest = s.rest.tail := by
  unfold next
  split <;> simp_all

theorem rest_advance (n : Nat) (s : Reading) : (advance n s).rest = s.rest.drop n := by
  induction n generalizing s with
  | zero => rfl
  | succ n ih => rw [advance, ih, rest_next, List.drop_tail]

@[simp] theorem text_back (s : Reading) : s.back.text = s.text := by
  unfold back text
  split <;> simp_all

@[simp] theorem text_advance (n : Nat) (s : Reading) : (advance n s).text = s.text := by
  induction n generalizing s with
  | zero => rfl
  | succ n ih => rw [advance, ih, text_next]

@[simp] theorem text_noteFrom (s : Reading) (start : Nat) : (s.noteFrom start).text = s.text := by
  unfold noteFrom
  split <;> rfl

end Reading

namespace Pattern

/-- What stays true of a reading that moves and notes down groups. -/
structure Invariant (P : Reading → Prop) : Prop where
  next : ∀ s, P s → P s.next
  back : ∀ s, P s → P s.back
  note : ∀ s start, P s → P (s.noteFrom start)

theorem Invariant.advance {P : Reading → Prop} (inv : Invariant P) (n : Nat) (s : Reading) (h : P s) :
    P (Reading.advance n s) := by
  induction n generalizing s with
  | zero => exact h
  | succ n ih => exact ih _ (inv.next s h)

/-- A step to a goal that is reached in a reading of the same kind. -/
def Keeps (P : Reading → Prop) (item : Goal → Goal) : Prop :=
  ∀ (goal : Goal) (s r : Reading), P s → item goal s = some r → ∃ after, P after ∧ goal after = some r

variable {P : Reading → Prop}

theorem keeps_givingBack (inv : Invariant P) (n : Nat) : Keeps P fun goal => givingBack goal n := by
  intro goal s r kept
  dsimp only
  induction n generalizing s with
  | zero => exact fun h => ⟨s, kept, h⟩
  | succ n ih =>
      rw [givingBack]
      split
      · next found => exact fun h => ⟨s, kept, found.trans h⟩
      · exact ih _ (inv.back s kept)

theorem keeps_takingMore (inv : Invariant P) (n : Nat) : Keeps P fun goal => takingMore goal n := by
  intro goal s r kept
  dsimp only
  induction n generalizing s with
  | zero => exact fun h => ⟨s, kept, h⟩
  | succ n ih =>
      rw [takingMore]
      split
      · next found => exact fun h => ⟨s, kept, found.trans h⟩
      · exact ih _ (inv.next s kept)

theorem keeps_repeating {item : Goal → Goal} (keeps : Keeps P item) (n : Nat) :
    Keeps P fun goal => repeating item goal n := by
  intro goal s r kept
  dsimp only
  induction n generalizing s with
  | zero => exact fun h => ⟨s, kept, h⟩
  | succ n ih =>
      rw [repeating]
      split
      · next found =>
          intro h
          obtain ⟨after, kept, reached⟩ := keeps _ _ _ kept (found.trans h)
          split at reached
          · exact ih _ kept reached
          · simp at reached
      · exact fun h => ⟨s, kept, h⟩

theorem keeps_behindAll {item : Goal → Goal} (keeps : Keeps P item) (n : Nat) (s : Reading) (kept : P s) :
    P (behindAll item n s) := by
  induction n generalizing s with
  | zero => exact kept
  | succ n ih =>
      rw [behindAll]
      split
      · next found =>
          obtain ⟨after, kept, reached⟩ := keeps _ _ _ kept found
          split at reached
          · exact ih _ (Option.some.inj reached ▸ kept)
          · simp at reached
      · exact kept

theorem keeps_run (inv : Invariant P) (p : Pattern) : Keeps P p.run := by
  induction p with
  | empty => exact fun goal s r kept h => ⟨s, kept, h⟩
  | one accepts =>
      intro goal s r kept h
      simp only [run] at h
      split at h
      · exact ⟨s.next, inv.next s kept, h⟩
      · simp at h
  | both first second ih₁ ih₂ =>
      intro goal s r kept h
      obtain ⟨between, kept, reached⟩ := ih₁ _ _ _ kept h
      exact ih₂ _ _ _ kept reached
  | either first second ih₁ ih₂ =>
      intro goal s r kept h
      simp only [run] at h
      split at h
      · next found => exact ih₁ _ _ _ kept (found.trans h)
      · exact ih₂ _ _ _ kept h
  | many accepts => exact fun goal s r kept h => keeps_givingBack inv _ _ _ _ (inv.advance _ s kept) h
  | few accepts => exact fun goal s r kept h => keeps_takingMore inv _ _ _ _ kept h
  | often item ih => exact fun goal s r kept h => keeps_repeating ih _ _ _ _ kept h
  | always item ih => exact fun goal s r kept h => ⟨_, keeps_behindAll ih _ s kept, h⟩
  | group inner ih =>
      intro goal s r kept h
      obtain ⟨after, kept, reached⟩ := ih _ _ _ kept h
      exact ⟨after.noteFrom s.place, inv.note after _ kept, reached⟩
  | ahead wanted inner =>
      intro goal s r kept h
      simp only [run] at h
      split at h
      · exact ⟨s, kept, h⟩
      · simp at h
  | between accepts =>
      intro goal s r kept h
      simp only [run] at h
      split at h
      · exact ⟨s, kept, h⟩
      · simp at h

theorem keeps_match? (inv : Invariant P) {p : Pattern} {s r : Reading} (kept : P { s with groups := [] })
    (h : p.match? s = some r) : P r := by
  obtain ⟨after, kept, reached⟩ := keeps_run inv p _ _ _ kept h
  exact Option.some.inj reached ▸ kept

theorem text_of_match? {p : Pattern} {s r : Reading} (h : p.match? s = some r) : r.text = s.text :=
  keeps_match? (P := fun r => r.text = s.text)
    ⟨fun r eq => r.text_next.trans eq, fun r eq => r.text_back.trans eq, fun r _ eq => (r.text_noteFrom _).trans eq⟩
    rfl h

/-- No group is empty. -/
theorem lt_of_mem_groups {p : Pattern} {s r : Reading} (h : p.match? s = some r) :
    ∀ g ∈ r.groups, g.1 < g.2 := by
  have next : ∀ s : Reading, s.next.groups = s.groups := fun s => by unfold Reading.next; split <;> rfl
  have back : ∀ s : Reading, s.back.groups = s.groups := fun s => by unfold Reading.back; split <;> rfl
  refine keeps_match? (P := fun r => ∀ g ∈ r.groups, g.1 < g.2)
    ⟨fun r kept => next r ▸ kept, fun r kept => back r ▸ kept, fun r start kept => ?_⟩ (by simp) h
  unfold Reading.noteFrom
  split
  · next filled => exact List.forall_mem_cons.2 ⟨filled, kept⟩
  · exact kept

end Pattern

end DesignProps.Text
