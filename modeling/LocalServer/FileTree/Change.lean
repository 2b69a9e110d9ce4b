import LocalServer.Fault
import LocalServer.FileTree.Basic

/-!
# Changing the files

Files, directories and links are put into a file tree and taken out of it
again. Directories on the way are made as needed, and stay even if what was
wanted cannot be done in the end; of a path that is too long they are made
as far as the operating system takes its text. A file is written through links; a link
is made and taken away where its name stands.
-/

namespace LocalServer

/-- The fault of a way that is blocked. -/
def FileTree.Obstacle.fault {τ : Type} : FileTree.Obstacle → Fault τ
  | .missing => .failure .fileNotFound "No such file or directory"
  | .notADirectory => .failure .notADirectory "Not a directory"
  | .tooManyLinks => .failure .system "Too many levels of symbolic links"
  | .tooLong => .nameTooLong
  | .mute => .mutePath
  | .alreadyThere => .failure .alreadyThere "File exists"
  | .isADirectory => .failure .isADirectory "Is a directory"

namespace FileTree

/-- The tree with something put at a place. -/
def put (t : FileTree) (place : List String) (node : Node) : FileTree :=
  { t with entries := (place, node) :: t.entries }

/-- A place other than the root holds what was put there last. -/
@[simp] theorem node?_put_self (t : FileTree) {place : List String} (h : place ≠ [])
    (node : Node) : (t.put place node).node? place = some node := by
  simp [node?, put, h]

/-- The other places hold what they held. -/
theorem node?_put_of_ne (t : FileTree) {place other : List String} (h : other ≠ place)
    (node : Node) : (t.put place node).node? other = t.node? other := by
  have hne : (other == place) = false := by simpa using h
  simp [node?, put, List.lookup_cons, hne]

/-- The tree without what stands at a place. -/
def clear (t : FileTree) (place : List String) : FileTree :=
  { t with entries := t.entries.filter (·.1 ≠ place) }

/-- Nothing stands at a place that was cleared, unless it is the root. -/
@[simp] theorem node?_clear_self (t : FileTree) {place : List String} (h : place ≠ []) :
    (t.clear place).node? place = none := by
  rw [node?, if_neg h, List.lookup_eq_none_iff]
  intro entry hentry
  have hne := (List.mem_filter.mp hentry).2
  simp only [ne_eq, decide_not, Bool.not_eq_true', decide_eq_false_iff_not] at hne
  simpa using Ne.symm hne

/-- Why no directory can be made where something else stands, or below it,
given the names below. -/
def obstacleAbove (o : Obstacle) : List String → Obstacle
  | [] => .alreadyThere
  | name :: _ => if isMute name then .mute else o

/-- **Making directories**: the tree with all directories on a way, and the
place of the last one. A link has to lead to a directory. -/
def makeDirectories (t : FileTree) (place : List String) :
    List String → FileTree × Except Obstacle (List String)
  | [] => (t, .ok place)
  | name :: rest =>
    if isMute name then (t, .error .mute)
    else if longestName < name.utf8ByteSize then (t, .error .tooLong)
    else if name = ".." then t.makeDirectories place.dropLast rest
    else match t.node? (place ++ [name]) with
      | none => (t.put (place ++ [name]) .directory).makeDirectories (place ++ [name]) rest
      | some .directory => t.makeDirectories (place ++ [name]) rest
      | some (.file _) => (t, .error (obstacleAbove .notADirectory rest))
      | some (.link _) =>
        match t.follow false linkLimit place [name] with
        | .at place =>
          if t.isDirectory place then t.makeDirectories place rest
          else (t, .error (obstacleAbove .notADirectory rest))
        | .vacant _ => (t, .error (obstacleAbove .missing rest))
        | .blocked o => (t, .error (obstacleAbove o rest))

/-- The names of a path up to which its text is not too long. -/
def namesInReach (p : Path) : List String :=
  let counts := (List.range (p.names.length + 1)).reverse
  let inReach := counts.find? fun n =>
    ({ p with names := p.names.take n } : Path).toText.utf8ByteSize ≤ longestPath
  p.names.take (inReach.getD 0)

/-- **Making the directories of a path.** What cannot be reached is in the
way even where something else stands before it. -/
def makePath (t : FileTree) (p : Path) : FileTree × Except Obstacle (List String) :=
  let near := namesInReach p
  let made := t.makeDirectories (t.base p) near
  match p.names.drop near.length, made with
  | [], made => made
  | name :: _, (t, .ok _) | name :: _, (t, .error .alreadyThere) =>
    (t, .error (if isMute name then .mute else .tooLong))
  | _, made => made

/-- The tree with a file at a name in a directory, or where a link at that
name leads, unless the whole path is too long. -/
def writeFile (t : FileTree) (outOfReach : Bool) (place : List String) (name : String)
    (bytes : ByteArray) : FileTree × Except Obstacle Unit :=
  if outOfReach then (t, .error .tooLong)
  else match t.follow true linkLimit place [name] with
    | .vacant target => (t.put target (.file bytes), .ok ())
    | .at target =>
      if t.isDirectory target then (t, .error .isADirectory)
      else (t.put target (.file bytes), .ok ())
    | .blocked o => (t, .error o)

/-- The tree with a link at a name in a directory, unless the whole path is
too long. The target is looked at first. -/
def makeLink (t : FileTree) (outOfReach : Bool) (place : List String) (name target : String) :
    FileTree × Except Obstacle Unit :=
  if isMute target then (t, .error .mute)
  else if target = "" then (t, .error .missing)
  else if outOfReach || longestPath < target.utf8ByteSize
      || longestName < name.utf8ByteSize then
    (t, .error .tooLong)
  else if name = ".." || (t.node? (place ++ [name])).isSome then (t, .error .alreadyThere)
  else (t.put (place ++ [name]) (.link target), .ok ())

/-- What `change` does at the last name of a path, in a directory that is
made as needed; it is told whether the whole path is too long. A path
without names leads to a directory that stands in the way. -/
def changeLast (t : FileTree) (p : Path) (obstacle : Obstacle)
    (change : FileTree → Bool → List String → String → FileTree × Except Obstacle Unit) :
    FileTree × Except Obstacle Unit :=
  match p.names.getLast?, t.makePath { p with names := p.names.dropLast } with
  | some name, (t, .ok place) =>
    if isMute name then (t, .error .mute)
    else change t (longestPath < p.toText.utf8ByteSize) place name
  | some _, (t, .error o) => (t, .error o)
  | none, _ => (t, .error obstacle)

/-- **The tree with a file, a directory or a link at a path.** -/
def insert (t : FileTree) (p : Path) (node : Node) : FileTree × Except Obstacle Unit :=
  match node with
  | .file bytes =>
    t.changeLast p .isADirectory fun t far place name => t.writeFile far place name bytes
  | .link target =>
    t.changeLast p .alreadyThere fun t far place name => t.makeLink far place name target
  | .directory =>
    let (t, made) := t.makePath p
    (t, made.map fun _ => ())

/-- **The tree without the file or the link at a path.** -/
def erase (t : FileTree) (p : Path) : Except Obstacle FileTree :=
  if isMute p.toText then .error .mute
  else if longestPath < p.toText.utf8ByteSize then .error .tooLong
  else match p.names.getLast?, t.arrival { p with names := p.names.dropLast } with
    | none, _ => .error .isADirectory
    | some name, .at place =>
      if !t.isDirectory place then .error .notADirectory
      else if longestName < name.utf8ByteSize then .error .tooLong
      else if name = ".." then .error .isADirectory
      else match t.node? (place ++ [name]) with
        | none => .error .missing
        | some .directory => .error .isADirectory
        | some _ => .ok (t.clear (place ++ [name]))
    | some _, .vacant _ => .error .missing
    | some _, .blocked o => .error o

/-- The tree with nothing but a working directory. -/
def empty (workingPlace : List String) : FileTree :=
  (List.range workingPlace.length).foldl
    (fun t n => t.put (workingPlace.take (n + 1)) .directory) ⟨workingPlace, []⟩

end FileTree

end LocalServer
