import LocalServer.Text.Cut

/-!
# Paths

A **path** is a way to a file, read without looking at any file: a start
and the names on the way. Empty names and the name `.` say nothing and are
dropped when a path is read, so `a//b/./c` and `a/b/c` are one path. The
name `..` is kept, because where it leads depends on the links on the way.

A path starts at the root or, if it is relative, at the working directory.
Two slashes at the start, exactly two, are a root of their own.
-/

namespace LocalServer

/-- **Where a path starts.** -/
inductive Path.Start where
  /-- The working directory. -/
  | here
  /-- The root. -/
  | root
  /-- The root that is written with two slashes. -/
  | doubleRoot
deriving DecidableEq, Repr

/-- **A path**: its start, and the names on the way. -/
structure Path where
  /-- Where the path starts. -/
  start : Path.Start
  /-- The names on the way, none of them empty or `.`. -/
  names : List String
deriving DecidableEq, Repr

namespace Path

/-- The start that is written by the slashes at the front of a text. -/
def Start.ofChars : List Char → Start
  | '/' :: '/' :: '/' :: _ => .root
  | '/' :: '/' :: _ => .doubleRoot
  | '/' :: _ => .root
  | _ => .here

/-- How a start is written. -/
def Start.toText : Start → String
  | .here => ""
  | .root => "/"
  | .doubleRoot => "//"

/-- Whether a piece between two slashes is a name that leads somewhere. -/
def isName (piece : List Char) : Bool :=
  piece ≠ [] && piece ≠ ['.']

/-- **Reading a path.** -/
def ofString (s : String) : Path :=
  ⟨.ofChars s.toList, ((Text.pieces '/' s.toList).filter isName).map String.ofList⟩

/-- **The written form** of a path; the empty path is written `.`. -/
def toText (p : Path) : String :=
  if p.start = .here ∧ p.names = [] then "."
  else p.start.toText ++ "/".intercalate p.names

/-- Whether a path starts at a root. -/
def isAbsolute (p : Path) : Bool :=
  p.start ≠ .here

/-- The path one name further on. -/
def child (p : Path) (name : String) : Path :=
  { p with names := p.names ++ [name] }

@[simp] theorem names_child (p : Path) (name : String) :
    (p.child name).names = p.names ++ [name] := rfl

@[simp] theorem start_child (p : Path) (name : String) : (p.child name).start = p.start := rfl

/-- The path without its last name. -/
def parent (p : Path) : Path :=
  { p with names := p.names.dropLast }

@[simp] theorem parent_child (p : Path) (name : String) : (p.child name).parent = p := by
  simp [parent, child]

/-- The last name of a path, if it has one. -/
def lastName? (p : Path) : Option String :=
  p.names.getLast?

@[simp] theorem lastName?_child (p : Path) (name : String) :
    (p.child name).lastName? = some name := by
  simp [lastName?, child]

/-- `base.join p` is `p` seen from `base`: a path that starts at a root is
itself, any other goes on from `base`. -/
def join (base p : Path) : Path :=
  if p.isAbsolute then p else { base with names := base.names ++ p.names }

/-- A path that starts at a root is seen the same from everywhere. -/
theorem join_of_isAbsolute {p : Path} (h : p.isAbsolute = true) (base : Path) :
    base.join p = p := by
  simp [join, h]

end Path

end LocalServer
