/-!
POSIX paths by their spelling: a root mark and the names between slashes. Empty names and single
dots are dropped when a path is read, a double dot is kept.
-/

namespace Attribution

/-- A path. The root mark is empty for a relative path; two leading slashes are a mark of their
own. -/
structure Path where
  root : String
  names : List String
  deriving DecidableEq, Repr

namespace Path

/-- The names of a text, as they stand between slashes. -/
def namesOf (cs : List Char) : List String :=
  (go cs).filterMap fun name =>
    if name = [] || name = ['.'] then none else some (String.ofList name)
where
  go : List Char → List (List Char)
    | [] => [[]]
    | '/' :: rest => [] :: go rest
    | c :: rest =>
      match go rest with
      | [] => [[c]]
      | name :: names => (c :: name) :: names

def ofString (s : String) : Path :=
  let cs := s.toList
  let root :=
    match cs with
    | '/' :: '/' :: '/' :: _ => "/"
    | '/' :: '/' :: _ => "//"
    | '/' :: _ => "/"
    | _ => ""
  ⟨root, namesOf cs⟩

/-- The spelling of a path; the empty relative path is a dot. -/
def toString (p : Path) : String :=
  let s := p.root ++ "/".intercalate p.names
  if s = "" then "." else s

instance : ToString Path := ⟨toString⟩

/-- The path read from another one; a rooted path stands for itself. -/
def append (p q : Path) : Path :=
  if q.root = "" then { p with names := p.names ++ q.names } else q

instance : Append Path := ⟨append⟩

/-- The character that no name of a file may have. -/
def nul : Char := '\x00'

/-- Whether a name may be that of a file. -/
def isSoundName (name : String) : Bool := !name.toList.contains nul

/-- The last name. -/
def name (p : Path) : String := p.names.getLast?.getD ""

/-- The path without its last name. -/
def parent (p : Path) : Path := { p with names := p.names.dropLast }

/-- The rooted path with the given names. -/
def absolute (names : List String) : Path := ⟨"/", names⟩

end Path

end Attribution
