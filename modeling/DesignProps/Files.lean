import DesignProps.Fault
import DesignProps.OrderedMap
import DesignProps.Text.Case
import DesignProps.Text.Lines
import DesignProps.Text.Quoted

/-!
# Files

A directory of files, as far as a run reads and writes it: places with their contents, a place being the names that
lead to it.  A path is followed name by name, so the first name that leads nowhere decides why it is refused.  Paths are
shown without superfluous slashes and dots.

Main statement: `read_write` (what was written is read back).
-/

set_option autoImplicit false

namespace DesignProps

/-! ## Paths -/

namespace Path

def significant (s : List Char) : Bool := !s.isEmpty && s != ['.']

/-- The names between the slashes of a path, as far as they count. -/
def names (path : String) : List String :=
  ((Text.splitOn '/' path.toList).filter significant).map String.ofList

def isAbsolute (path : String) : Bool := path.toList.head? == some '/'

/-- The slashes that a path is shown with in front: two stay two, any other number counts as one. -/
def root (path : String) : String :=
  match path.toList with
  | '/' :: '/' :: '/' :: _ => "/"
  | '/' :: '/' :: _ => "//"
  | '/' :: _ => "/"
  | _ => ""

/-- The path as it is shown. -/
def shown (path : String) : String :=
  let joined := String.intercalate "/" (names path)
  if isAbsolute path then root path ++ joined
  else if (names path).isEmpty then "." else joined

/-- The extension of a file name: from its last dot, which neither begins nor ends the name. -/
def extension (name : List Char) : List Char :=
  let back := name.reverse.takeWhile (· ≠ '.')
  let before := (name.reverse.drop (back.length + 1)).reverse
  if back.isEmpty || before.isEmpty || back.length = name.length then [] else '.' :: back.reverse

def hasJsonExtension (path : String) : Bool :=
  match (names path).getLast? with
  | some name => Text.lower (String.ofList (extension name.toList)) == ".json"
  | none => false

/-- Two dots go up; above the directory they stay, and the root has nothing above it.  The last name comes first. -/
def step (place : List String) (name : String) : List String :=
  if name = ".." then
    match place with
    | [] => [".."]
    | ".." :: up => ".." :: ".." :: up
    | ["/"] => ["/"]
    | _ :: up => up
  else name :: place

/-- Where a path begins. -/
def origin (path : String) : List String := if isAbsolute path then ["/"] else []

/-- The names that are left when going up is carried out. -/
def resolve (path : String) : List String := ((names path).foldl step (origin path)).reverse

/-- The most bytes that a name may have. -/
def nameLimit : Nat := 255

/-- The number of bytes that a path must stay below. -/
def pathLimit : Nat := 4096

def isLongName (name : String) : Bool := nameLimit < name.utf8ByteSize

def isLong (path : String) : Bool := pathLimit ≤ (shown path).utf8ByteSize

/-- No file has a name with this character. -/
def holdsNul (path : String) : Bool := path.toList.contains '\x00'

end Path

/-! ## Directories -/

/-- A text file, or bytes that may be no text. -/
inductive FileContent
  | text (content : String)
  | bytes (content : List UInt8)
  | directory
  deriving DecidableEq

/-- Why the operating system refuses a path. -/
inductive FileRefusal
  | notFound
  | notADirectory
  | isADirectory
  | nameTooLong
  deriving DecidableEq, Repr

def FileRefusal.message (path : String) (e : FileRefusal) : String :=
  (match e with
    | .notFound => "[Errno 2] No such file or directory: "
    | .notADirectory => "[Errno 20] Not a directory: "
    | .isADirectory => "[Errno 21] Is a directory: "
    | .nameTooLong => "[Errno 36] File name too long: ")
  ++ Text.quoted (Path.shown path)

structure Files where
  entries : OrderedMap (List String) FileContent

namespace Files

def empty : Files := ⟨.empty⟩

def ofList (entries : List (String × FileContent)) : Files :=
  ⟨.ofList (entries.map fun e => (Path.resolve e.1, e.2))⟩

/-- What is at a place; the beginnings of names are directories, and so is what lies outside. -/
def at? (fs : Files) (place : List String) : Option FileContent :=
  if place = [] ∨ place.getLast? = some ".." ∨ place = ["/"] then some .directory
  else
    match fs.entries.get? place with
    | some content => some content
    | none => if fs.entries.keys.any fun key => place.isPrefixOf key then some .directory else none

/-- The place that names lead to, the last name first: whatever stands before a name has to be a directory. -/
def follow (fs : Files) : List String → List String → Except FileRefusal (List String)
  | place, [] => .ok place
  | place, name :: rest =>
      match fs.at? place.reverse with
      | none => .error .notFound
      | some .directory =>
          if Path.isLongName name then .error .nameTooLong else fs.follow (Path.step place name) rest
      | some _ => .error .notADirectory

/-- The place that a path leads to; there may be nothing. -/
def place (fs : Files) (path : String) : Except FileRefusal (List String) :=
  if Path.isLong path then .error .nameTooLong
  else (fs.follow (Path.origin path) (Path.names path)).map List.reverse

/-- What a path leads to. -/
def find? (fs : Files) (path : String) : Except FileRefusal FileContent :=
  match fs.place path with
  | .error e => .error e
  | .ok place =>
      match fs.at? place with
      | some content => .ok content
      | none => .error .notFound

/-- Whether a path leads to something; one that is too long cannot be asked for. -/
def exists? (fs : Files) (path : String) : Except Fault Bool :=
  if Path.holdsNul path then .ok false
  else
    match fs.find? path with
    | .ok _ => .ok true
    | .error .nameTooLong => .error (.pathTooLong (Path.shown path))
    | .error _ => .ok false

/-- What keeps a file from being read as text. -/
inductive Unreadable
  | refused (e : FileRefusal)
  | notText (e : Text.Utf8.Malformed)
  deriving DecidableEq, Repr

/-- The text of a file, its line ends unified. -/
def read (fs : Files) (path : String) : Except Unreadable (List Char) :=
  match fs.find? path with
  | .error e => .error (.refused e)
  | .ok .directory => .error (.refused .isADirectory)
  | .ok (.text content) => .ok (Text.unifyNewlines content.toList)
  | .ok (.bytes content) =>
      match Text.Utf8.decode content with
      | .ok text => .ok (Text.unifyNewlines text)
      | .error e => .error (.notText e)

def put (fs : Files) (place : List String) (text : String) : Files := ⟨fs.entries.insert place (.text text)⟩

/-- Writes a text file into a directory that is there. -/
def write (fs : Files) (path text : String) : Except FileRefusal Files :=
  match fs.place path with
  | .error e => .error e
  | .ok place => if fs.at? place = some .directory then .error .isADirectory else .ok (fs.put place text)

/-! ## Reading what was written -/

theorem write_ok {fs after : Files} {path text : String} (h : fs.write path text = .ok after) :
    ∃ place, fs.place path = .ok place ∧ fs.at? place ≠ some .directory ∧ after = fs.put place text := by
  unfold write at h
  split at h
  · simp at h
  · next place led =>
      split at h
      · simp at h
      · next free => exact ⟨place, led, free, (Except.ok.inj h).symm⟩

theorem at?_put_self (fs : Files) (place : List String) (text : String)
    (free : fs.at? place ≠ some .directory) : (fs.put place text).at? place = some (.text text) := by
  unfold at? at free ⊢
  split at free
  · exact absurd rfl free
  · next inside => rw [if_neg inside]; simp [put, OrderedMap.get?_insert]

/-- A directory stays one when a file is written elsewhere. -/
theorem at?_put_directory (fs : Files) (place other : List String) (text : String)
    (free : fs.at? place ≠ some .directory) (directory : fs.at? other = some .directory) :
    (fs.put place text).at? other = some .directory := by
  have apart : ¬ (place == other) = true := fun e => free (eq_of_beq e ▸ directory)
  unfold at? at directory ⊢
  split
  · rfl
  · next inside =>
      rw [if_neg inside] at directory
      simp only [put, OrderedMap.get?_insert, if_neg apart]
      split at directory
      · exact directory
      · split at directory
        · next beginning =>
            obtain ⟨key, inKeys, begins⟩ := List.any_eq_true.1 beginning
            have kept : key ∈ (fs.entries.insert place (.text text)).keys := by
              cases present : fs.entries.contains place with
              | true => rwa [OrderedMap.keys_insert_of_contains _ _ _ present]
              | false =>
                  rw [OrderedMap.keys_insert_of_not_contains _ _ _ present]
                  exact List.mem_append_left _ inKeys
            exact if_pos (List.any_eq_true.2 ⟨key, kept, begins⟩)
        · simp at directory

theorem follow_put (fs : Files) (place : List String) (text : String) (free : fs.at? place ≠ some .directory) :
    ∀ (names start found : List String), fs.follow start names = .ok found →
      (fs.put place text).follow start names = .ok found := by
  intro names
  induction names with
  | nil => exact fun _ _ h => h
  | cons name rest ih =>
      intro start found h
      simp only [follow] at h ⊢
      split at h
      · simp at h
      · next directory =>
          rw [at?_put_directory fs place _ text free directory]
          dsimp only
          split at h
          · simp at h
          · next short =>
              rw [if_neg short]
              exact ih _ _ h
      · simp at h

theorem place_put {fs : Files} {path : String} {found place : List String} (h : fs.place path = .ok found)
    (text : String) (free : fs.at? place ≠ some .directory) : (fs.put place text).place path = .ok found := by
  unfold Files.place at h ⊢
  split
  · next long => simp [long] at h
  · next short =>
      rw [if_neg short] at h
      cases led : fs.follow (Path.origin path) (Path.names path) with
      | error e => simp [led, Except.map] at h
      | ok back =>
          rw [led] at h
          rw [follow_put fs place text free _ _ _ led]
          exact h

theorem read_write {fs after : Files} {path text : String} (h : fs.write path text = .ok after) :
    after.read path = .ok (Text.unifyNewlines text.toList) := by
  obtain ⟨place, led, free, rfl⟩ := write_ok h
  simp only [read, find?, place_put led text free, at?_put_self fs place text free]

end Files

end DesignProps
