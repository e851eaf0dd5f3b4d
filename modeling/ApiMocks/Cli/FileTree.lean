/-!
# File trees

The files, directories and links that a program finds, and what its user may do with them.  A path
is followed one name at a time, from the root or from the working directory: every name on the way
must be a directory that the user may pass, `.` stays where it is, `..` goes back to the directory
above, and a link is followed to where it points.  One path follows a limited number of links.

Main definitions: `FileTree`, `FileTree.locate`, `FileTree.has`, `FileTree.read`,
`FileTree.write`, `FileTree.makeDirectory`, `FileTree.changes`.
-/

namespace ApiMocks

/-- Why a path cannot be used. -/
inductive FileFault
  | missing
  | exists
  | notDirectory
  | isDirectory
  | nameTooLong
  | tooManyLinks
  /-- the user has no right to it -/
  | denied
  /-- a path cannot hold the character NUL -/
  | invalidName
  /-- the file holds no text -/
  | notText
  /-- for a reason that only the system can tell -/
  | system (reason : String)
  deriving DecidableEq, Repr

/-- The wording for a fault. -/
def FileFault.message : FileFault → String
  | missing => "No such file or directory (os error 2)"
  | .exists => "File exists (os error 17)"
  | notDirectory => "Not a directory (os error 20)"
  | isDirectory => "Is a directory (os error 21)"
  | nameTooLong => "File name too long (os error 36)"
  | tooManyLinks => "Too many levels of symbolic links (os error 40)"
  | denied => "Permission denied (os error 13)"
  | invalidName => "file name contained an unexpected NUL byte"
  | notText => "stream did not contain valid UTF-8"
  | system reason => reason

/-- The names that lead to a place from the root. -/
abbrev Place := List String

/-- What the user may do with a file or a directory. -/
structure Rights where
  /-- to read the file, or to go on from the directory -/
  use : Bool := true
  /-- to write into the file, or to add names to the directory -/
  write : Bool := true

/-- What a file holds: a text, or bytes that are none. -/
inductive Content
  | text (s : String)
  | bytes (data : ByteArray) (noText : ¬ data.IsValidUTF8)

instance : Coe String Content := ⟨.text⟩

/-- What is at a place. -/
inductive Node
  | directory (rights : Rights := {})
  | file (content : Content) (rights : Rights := {})
  /-- one more name of the file at a place -/
  | sameAs (place : Place)
  /-- a link to where a path leads -/
  | link (target : String)

/-- The files, directories and links below the root, and what the user makes and may do. -/
structure FileTree where
  nodes : List (Place × Node) := []
  workingDirectory : Place := []
  rootRights : Rights := {}
  /-- the rights on files that are made -/
  fileRights : Rights := {}
  /-- the rights on directories that are made -/
  directoryRights : Rights := {}

/-! ## Paths -/

/-- A path as it is followed. -/
structure Route where
  isAbsolute : Bool
  names : List String
  /-- what follows the names: a point, a slash, or nothing -/
  ending : List String

/-- All that is followed. -/
def Route.steps (route : Route) : List String := route.names ++ route.ending

/-- The parts of a path between slashes. -/
def pathParts (path : String) : List String :=
  (path.toList.splitOn '/').map String.ofList

/-- The shortest path that is too long, in bytes. -/
def pathLimit : Nat := 4096

/-- The longest name, in bytes. -/
def nameLimit : Nat := 255

/-- The most links that one path can follow. -/
def linkLimit : Nat := 40

/-- The route of a path.  A point between names changes nothing. -/
def Route.ofPath (path : String) : Except FileFault Route :=
  let parts := pathParts path
  if path.toList.contains '\x00' then .error .invalidName
  else if pathLimit ≤ path.utf8ByteSize then .error .nameTooLong
  else if path.isEmpty then .error .missing
  else
    .ok {
      isAbsolute := parts.head? = some ""
      names := parts.filter fun p => p ≠ "" && p ≠ "."
      ending :=
        if (parts.filter (· ≠ "")).getLast? = some "." then ["."]
        else if parts.getLast? = some "" then [""]
        else [] }

namespace FileTree

/-- What is at a place. -/
def get? (t : FileTree) (p : Place) : Option Node :=
  if p = [] then some (.directory t.rootRights) else t.nodes.lookup p

/-- The nodes with `p` set to `n`. -/
def setIn (p : Place) (n : Node) : List (Place × Node) → List (Place × Node)
  | [] => [(p, n)]
  | e :: rest => if e.1 = p then (p, n) :: rest else e :: setIn p n rest

/-- The tree with `p` set to `n`. -/
def set (t : FileTree) (p : Place) (n : Node) : FileTree := { t with nodes := setIn p n t.nodes }

theorem lookup_setIn_self (p : Place) (n : Node) (nodes : List (Place × Node)) :
    (setIn p n nodes).lookup p = some n := by
  induction nodes with
  | nil => simp [setIn]
  | cons e rest ih =>
    by_cases h : e.1 = p
    · simp [setIn, h]
    · have h' : (p == e.1) = false := by simpa using fun hp => h hp.symm
      rw [setIn, if_neg h, List.lookup_cons, h']
      exact ih

theorem lookup_setIn_of_ne {p q : Place} (hq : q ≠ p) (n : Node) (nodes : List (Place × Node)) :
    (setIn p n nodes).lookup q = nodes.lookup q := by
  have hqp : (q == p) = false := by simpa using hq
  induction nodes with
  | nil => simp [setIn, List.lookup_cons, hqp]
  | cons e rest ih =>
    by_cases h : e.1 = p
    · obtain ⟨p', m⟩ := e
      subst h
      simp [setIn, List.lookup_cons, hqp]
    · rw [setIn, if_neg h, List.lookup_cons, List.lookup_cons, ih]

/-- What is set is there afterwards. -/
theorem get?_set_self {p : Place} (hp : p ≠ []) (t : FileTree) (n : Node) :
    (t.set p n).get? p = some n := by
  simp [get?, set, hp, lookup_setIn_self]

/-- Setting one place changes no other. -/
theorem get?_set_of_ne {p q : Place} (hq : q ≠ p) (t : FileTree) (n : Node) :
    (t.set p n).get? q = t.get? q := by
  simp [get?, set, lookup_setIn_of_ne hq]

/-! ## Following a path -/

/-- The place that a name leads to from a place, which must be a directory.  Without a name nothing
else is asked; a name can be followed only with the right to go on. -/
def enter (t : FileTree) (dir : Place) (name : String) : Except FileFault Place :=
  match t.get? dir with
  | none => .error .missing
  | some (.directory rights) =>
    if name = "" then .ok dir
    else if !rights.use then .error .denied
    else if name = "." then .ok dir
    else if name = ".." then .ok dir.dropLast
    else if nameLimit < name.utf8ByteSize then .error .nameTooLong
    else .ok (dir ++ [name])
  | some _ => .error .notDirectory

/-- How far names lead without following a link. -/
inductive Reach
  | place (p : Place)
  /-- a link in a directory, and the names behind it -/
  | link (dir : Place) (target : String) (rest : List String)

/-- Follows names up to the first link. -/
def advance (t : FileTree) (start : Place) : List String → Except FileFault Reach
  | [] => .ok (.place start)
  | name :: rest => do
    let next ← t.enter start name
    match t.get? next with
    | some (.link target) => .ok (.link start target rest)
    | _ => t.advance next rest

/-- Where a route starts, followed from a directory. -/
def startOf (dir : Place) (route : Route) : Place := if route.isAbsolute then [] else dir

/-- Follows names from a place, with at most so many links. -/
def walk (t : FileTree) : Nat → Place → List String → Except FileFault Place
  | 0, start, names => do
    match ← t.advance start names with
    | .place p => .ok p
    | .link _ _ _ => .error .tooManyLinks
  | links + 1, start, names => do
    match ← t.advance start names with
    | .place p => .ok p
    | .link dir target rest =>
      let route ← Route.ofPath target
      t.walk links (startOf dir route) (route.steps ++ rest)

/-- The place that a path leads to: that of the file itself, whatever name of it the path has. -/
def locate (t : FileTree) (path : String) : Except FileFault Place := do
  let route ← Route.ofPath path
  let place ← t.walk linkLimit (startOf t.workingDirectory route) route.steps
  match t.get? place with
  | some (.sameAs other) =>
    match t.get? other with
    | some (.file _ _) => .ok other
    | _ => .error (.system "Stale file handle (os error 116)")
  | _ => .ok place

/-! ## Files -/

/-- Whether a path leads to something. -/
def has (t : FileTree) (path : String) : Bool :=
  match t.locate path with
  | .ok place => (t.get? place).isSome
  | .error _ => false

/-- The text of the file at a path. -/
def read (t : FileTree) (path : String) : Except FileFault String := do
  match t.get? (← t.locate path) with
  | some (.file content rights) =>
    if !rights.use then .error .denied
    else match content with
      | .text s => .ok s
      | .bytes _ _ => .error .notText
  | some _ => .error .isDirectory
  | none => .error .missing

/-- Whether the user may add names to a directory. -/
def mayAdd (t : FileTree) (dir : Place) : Bool :=
  match t.get? dir with
  | some (.directory rights) => rights.use && rights.write
  | _ => false

/-- Sets the text of the file at a path.  Its directory must be there. -/
def write (t : FileTree) (path content : String) : Except FileFault FileTree := do
  let place ← t.locate path
  match t.get? place with
  | some (.file _ rights) =>
    if rights.write then .ok (t.set place (.file content rights)) else .error .denied
  | some _ => .error .isDirectory
  | none =>
    if t.mayAdd place.dropLast then .ok (t.set place (.file content t.fileRights))
    else .error .denied

/-! ## Directories -/

/-- A change that was broken off, and the tree that it left behind. -/
structure Interruption where
  fault : FileFault
  tree : FileTree

/-- The place of the directory that names lead to. -/
def directoryAt (t : FileTree) (start : Place) (names : List String) : Except FileFault Place := do
  let place ← t.walk linkLimit start names
  match t.get? place with
  | some (.directory _) => .ok place
  | some _ => .error .notDirectory
  | none => .error .missing

/-- Makes a directory with a name in the one that other names lead to. -/
def addDirectory (mayMake : Bool) (t : FileTree) (start : Place) (front : List String)
    (name : String) : Except FileFault FileTree := do
  let dir ← t.walk linkLimit start front
  let place ← t.enter dir name
  match t.get? place with
  | some _ => .error .exists
  | none =>
    if !mayMake then .error .missing
    else if t.mayAdd dir then .ok (t.set place (.directory t.directoryRights))
    else .error .denied

/-- Makes the directories behind those of `front` that are not there yet, one after the other. -/
def makeBehind (mayMakeLast : Bool) (t : FileTree) (start : Place) (front : List String) :
    List String → Except Interruption FileTree
  | [] => .ok t
  | name :: rest =>
    match t.addDirectory (mayMakeLast || !rest.isEmpty) start front name with
    | .ok next => makeBehind mayMakeLast next start (front ++ [name]) rest
    | .error fault =>
      match t.directoryAt start (front ++ [name]) with
      | .ok _ => makeBehind mayMakeLast t start (front ++ [name]) rest
      | .error _ => .error ⟨fault, t⟩

/-- Makes the directories along some names that are not there yet.  `mayMakeLast` says whether the
last one may be missing. -/
def makeDirectories (mayMakeLast : Bool) (t : FileTree) (start : Place) (names : List String) :
    Except Interruption FileTree :=
  t.makeBehind mayMakeLast start [] names

/-- Makes the directory at a path, with the directories that lead to it.  What stands in front of a
point must be there already; an empty path asks for nothing. -/
def makeDirectory (t : FileTree) (path : String) : Except Interruption FileTree :=
  if path.isEmpty then .ok t
  else match Route.ofPath path with
    | .error fault => .error ⟨fault, t⟩
    | .ok route => do
      let start := startOf t.workingDirectory route
      let made ← t.makeDirectories (!route.ending.contains ".") start route.names
      match made.directoryAt start route.steps with
      | .ok _ => .ok made
      | .error fault => .error ⟨fault, made⟩

/-! ## Comparing trees -/

/-- The text in the file at a place. -/
def textAt? (t : FileTree) (p : Place) : Option String :=
  match t.get? p with
  | some (.file (.text s) _) => some s
  | _ => none

/-- The files below the working directory that an older tree lacks or has with another text. -/
def changes (old new : FileTree) : List (Place × String) :=
  new.nodes.filterMap fun e =>
    match e.2 with
    | .file (.text s) _ =>
      if old.textAt? e.1 ≠ some s && new.workingDirectory.isPrefixOf e.1 then
        some (e.1.drop new.workingDirectory.length, s)
      else none
    | _ => none

end FileTree

end ApiMocks
