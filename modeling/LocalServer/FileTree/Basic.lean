import LocalServer.Path

/-!
# Files

A **file tree** says what stands at which place. A place is the list of
names that leads to it from the root without links and without `..`; the
root itself is always a directory.

A path leads to a place by the rules of the operating system. Each name is
looked up in a directory; a link is replaced by its target, at most
`linkLimit` times on one way, so that a loop of links leads nowhere; and
`..` goes back up from wherever the links have led. A name that is too long
is an error where it is looked up, and not before. A slash at the end asks
for a directory, so that no file can be made there.

A file tree has no owners and no permissions, so that nobody is kept from a
file that is there, and its working directory does not go away.
-/

namespace LocalServer

/-- **What stands at a place.** -/
inductive FileTree.Node where
  /-- A file and what it holds. -/
  | file (bytes : ByteArray)
  /-- A directory. -/
  | directory
  /-- A link and the text of its target. -/
  | link (target : String)

/-- **A file tree**, with a working directory. Of two entries for one place
the first counts. -/
structure FileTree where
  /-- The place at which relative paths start. -/
  workingPlace : List String
  /-- The places other than the root at which something stands. -/
  entries : List (List String × FileTree.Node)

namespace FileTree

/-- The links that are followed on one way. -/
def linkLimit : Nat := 40

/-- The length in bytes of the longest name. -/
def longestName : Nat := 255

/-- The length in bytes of the longest path. -/
def longestPath : Nat := 4095

/-- What stands at a place. -/
def node? (t : FileTree) (place : List String) : Option Node :=
  if place = [] then some .directory else t.entries.lookup place

/-- Whether a directory stands at a place. -/
def isDirectory (t : FileTree) (place : List String) : Bool :=
  match t.node? place with
  | some .directory => true
  | _ => false

/-- The working directory, as a path. -/
def workingPath (t : FileTree) : Path :=
  ⟨.root, t.workingPlace⟩

/-- **What stands in the way** of using a path. -/
inductive Obstacle where
  /-- Nothing stands at a name. -/
  | missing
  /-- The way goes through something other than a directory. -/
  | notADirectory
  /-- There are too many links. -/
  | tooManyLinks
  /-- A name, or the whole path, is too long. -/
  | tooLong
  /-- The path cannot be handed to the operating system. -/
  | mute
  /-- Something stands at the place already. -/
  | alreadyThere
  /-- A directory stands at the place. -/
  | isADirectory
deriving DecidableEq, Repr

/-- **Where a way leads.** -/
inductive Arrival where
  /-- To something that stands at a place. -/
  | at (place : List String)
  /-- To a name in a directory at which nothing stands. -/
  | vacant (place : List String)
  /-- Nowhere. -/
  | blocked (obstacle : Obstacle)
deriving DecidableEq, Repr

/-- The names that a written path goes through. An empty name at the end
stands for a slash there; other empty names are left out. -/
def stepsOf (s : String) : List String :=
  let names := ((Text.pieces '/' s.toList).filter (· ≠ [])).map String.ofList
  if s.toList.getLast? = some '/' then names ++ [""] else names

/-- Whether a name stays where it is. -/
def isStay (name : String) : Bool :=
  name = "." || name = ""

/-- The place at which a written path starts, seen from `place`. -/
def startOf (s : String) (place : List String) : List String :=
  if s.toList.head? = some '/' then [] else place

/-- **Going along a way** from a place up to the first link, to find something or
to make a file. From there on `atLink` says where the way leads; it is given the
directory in which the link stands, its target and the names that are left. -/
def walk (t : FileTree) (making : Bool)
    (atLink : List String → String → List String → Arrival) (place : List String) :
    List String → Arrival
  | [] => if (t.node? place).isSome then .at place else .blocked .missing
  | name :: rest =>
    match t.node? place with
    | none => .blocked .missing
    | some .directory =>
      if isStay name then t.walk making atLink place rest
      else if name = ".." then t.walk making atLink place.dropLast rest
      else if making && rest = [""] then .blocked .isADirectory
      else if longestName < name.utf8ByteSize then .blocked .tooLong
      else match t.node? (place ++ [name]) with
        | none => if rest = [] then .vacant (place ++ [name]) else .blocked .missing
        | some (.link target) => atLink place target rest
        | some _ => t.walk making atLink (place ++ [name]) rest
    | some _ => .blocked .notADirectory

/-- **Following a way** from a place, with a number of links that may still
be followed, to find something or to make a file. -/
def follow (t : FileTree) (making : Bool) : Nat → List String → List String → Arrival
  | 0 => t.walk making fun _ _ _ => .blocked .tooManyLinks
  | links + 1 => t.walk making fun place target rest =>
    t.follow making links (startOf target place) (stepsOf target ++ rest)

/-- The place at which a path starts. -/
def base (t : FileTree) (p : Path) : List String :=
  if p.isAbsolute then [] else t.workingPlace

/-- No file has the character of number zero in its path. -/
def isMute (s : String) : Bool :=
  s.toList.contains '\x00'

/-- **Where a path leads.** -/
def arrival (t : FileTree) (p : Path) : Arrival :=
  if isMute p.toText then .blocked .mute
  else if longestPath < p.toText.utf8ByteSize then .blocked .tooLong
  else t.follow false linkLimit (t.base p) p.names

/-- **Whether something stands where a path leads.** `none` if the path
holds a name that cannot be looked up. -/
def exists? (t : FileTree) (p : Path) : Option Bool :=
  match t.arrival p with
  | .at _ => some true
  | .blocked .tooLong => none
  | _ => some false

/-- **What a file holds.** -/
def read (t : FileTree) (p : Path) : Except Obstacle ByteArray :=
  match t.arrival p with
  | .at place =>
    match t.node? place with
    | some (.file bytes) => .ok bytes
    | _ => .error .isADirectory
  | .vacant _ => .error .missing
  | .blocked o => .error o

/-- Whether a text, taken as a path just as it is written, leads to a
file. -/
def isFile (t : FileTree) (s : String) : Bool :=
  s.utf8ByteSize ≤ longestPath &&
  match t.follow false linkLimit (startOf s t.workingPlace) (stepsOf s) with
  | .at place =>
    match t.node? place with
    | some (.file _) => true
    | _ => false
  | _ => false

end FileTree

end LocalServer
