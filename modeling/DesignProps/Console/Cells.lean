import DesignProps.Console.Width

/-!
# Cells of a text

The characters of a text are shown in clusters: a mark without cells stands on the character before it, a joiner also
takes the character behind it, and a selector makes a picture of the last character with cells.  At the start of a
text a joiner joins nothing.

Main statements: `flatten_clusters` (clusters lose nothing), `cells_append`.
-/

set_option autoImplicit false

namespace DesignProps.Console

/-- Takes the character behind it into its cluster. -/
def joiner : Char := '\u200D'

/-- Makes a picture of the character before it. -/
def selector : Char := '\uFE0F'

/-- What came before: a joiner, and the last character with cells, which may still become a picture. -/
structure Context where
  joined : Bool
  last : Option Char
  deriving DecidableEq, Repr

namespace Context

def start : Context := ⟨false, none⟩

/-- The cells that a character adds. -/
def cellsOf (s : Context) (c : Char) : Nat :=
  if s.joined then 0
  else if c = selector then if s.last.any isPictured then 1 else 0
  else if c = joiner then 0
  else cellWidth c

def after (s : Context) (c : Char) : Context :=
  if s.joined then { s with joined := false }
  else if c = joiner then { s with joined := true }
  else if c = selector then { s with last := none }
  else if cellWidth c = 0 then s
  else { s with last := some c }

def cells (s : Context) : List Char → Nat
  | [] => 0
  | c :: rest => s.cellsOf c + (s.after c).cells rest

/-- The context behind a text. -/
def behind (s : Context) (cs : List Char) : Context := cs.foldl after s

end Context

/-- The cells that a text takes. -/
def cells (cs : List Char) : Nat := Context.start.cells cs

/-! ## Clusters -/

structure Cluster where
  chars : List Char
  width : Nat
  deriving DecidableEq, Repr

def Cluster.add (k : Cluster) (c : Char) (width : Nat) : Cluster := ⟨k.chars ++ [c], k.width + width⟩

/-- Whether a character begins a cluster of its own. -/
def Context.separates (s : Context) (c : Char) : Bool :=
  !s.joined && c != joiner && c != selector && cellWidth c != 0

/-- The clusters of a text behind the beginning of the first one. -/
def clustersFrom (s : Context) (current : Cluster) : List Char → List Cluster
  | [] => [current]
  | c :: rest =>
      if s.separates c then current :: clustersFrom (s.after c) ⟨[c], cellWidth c⟩ rest
      else clustersFrom (s.after c) (current.add c (s.cellsOf c)) rest

/-- The context behind the first character of a text, where a joiner joins nothing. -/
def contextAfterFirst (c : Char) : Context := if c = joiner then .start else Context.start.after c

def clusters : List Char → List Cluster
  | [] => []
  | c :: rest => clustersFrom (contextAfterFirst c) ⟨[c], Context.start.cellsOf c⟩ rest

/-! ## Laws -/

@[simp] theorem cells_nil : cells [] = 0 := rfl

theorem Context.cells_append (s : Context) (xs ys : List Char) :
    s.cells (xs ++ ys) = s.cells xs + (s.behind xs).cells ys := by
  induction xs generalizing s with
  | nil => simp [Context.cells, Context.behind]
  | cons c rest ih => simp [Context.cells, Context.behind, ih, Nat.add_assoc]

theorem cells_append (xs ys : List Char) : cells (xs ++ ys) = cells xs + (Context.start.behind xs).cells ys :=
  Context.cells_append _ _ _

theorem Context.cells_replicate_blank (s : Context) (free : s.joined = false) (n : Nat) :
    s.cells (List.replicate n ' ') = n := by
  induction n generalizing s with
  | zero => rfl
  | succ n ih =>
      have blank : (' ' ≠ joiner) ∧ (' ' ≠ selector) ∧ cellWidth ' ' = 1 := by decide
      rw [List.replicate_succ, Context.cells, ih]
      · simp [Context.cellsOf, free, blank, Nat.add_comm]
      · simp [Context.after, free, blank]

/-- Without joiners nothing is joined. -/
theorem Context.joined_behind (s : Context) (free : s.joined = false) (cs : List Char) (plain : joiner ∉ cs) :
    (s.behind cs).joined = false := by
  induction cs generalizing s with
  | nil => exact free
  | cons c rest ih =>
      obtain ⟨ne, later⟩ := not_or.1 fun e => plain (List.mem_cons.2 e)
      apply ih _ _ later
      unfold Context.after
      split
      · rfl
      · split
        · next eq => exact absurd eq (Ne.symm ne)
        · split
          · exact free
          · split <;> exact free

theorem flatten_clustersFrom (s : Context) (k : Cluster) (cs : List Char) :
    ((clustersFrom s k cs).map Cluster.chars).flatten = k.chars ++ cs := by
  induction cs generalizing s k with
  | nil => simp [clustersFrom]
  | cons c rest ih =>
      simp only [clustersFrom]
      split
      · simp [ih]
      · simp [ih, Cluster.add]

theorem flatten_clusters (cs : List Char) : ((clusters cs).map Cluster.chars).flatten = cs := by
  cases cs with
  | nil => rfl
  | cons c rest => simp [clusters, flatten_clustersFrom]

end DesignProps.Console
