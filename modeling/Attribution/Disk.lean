import Attribution.Bytes
import Attribution.Path
import Attribution.Text.Quoted
import Attribution.Text.Split

/-!
A file tree with symbolic links. Names are looked up in two ways: strictly, where every directory
passed through has to exist, and leniently, where what does not exist is kept as it is spelled.
Strictly, only so many links are followed for one path; leniently, each link is followed once.
-/

namespace Attribution

/-- What lies at a place of a file tree. -/
inductive Disk.Item where
  | file (data : Bytes)
  | link (target : String)
  | directory
  deriving DecidableEq, Repr

/-- A file tree and the directory where relative paths start. Every place above an item is a
directory. -/
structure Disk where
  home : List String
  items : List (List String × Disk.Item)
  deriving DecidableEq, Repr

namespace Disk

/-- Why a file cannot be reached. -/
inductive Refusal where
  | missing
  | notDirectory
  | isDirectory
  | nameTooLong
  | linkLoop
  deriving DecidableEq, Repr

/-- The refusal as it is reported for a path. -/
def Refusal.message (r : Refusal) (p : Path) : String :=
  let cause :=
    match r with
    | .missing => "[Errno 2] No such file or directory"
    | .notDirectory => "[Errno 20] Not a directory"
    | .isDirectory => "[Errno 21] Is a directory"
    | .nameTooLong => "[Errno 36] File name too long"
    | .linkLoop => "[Errno 40] Too many levels of symbolic links"
  cause ++ ": " ++ Text.quoteString p.toString

/-- Why a path leads nowhere. -/
inductive DeadEnd where
  | unsoundName
  | linkLoop (p : Path)
  deriving DecidableEq, Repr

def DeadEnd.message : DeadEnd → String
  | unsoundName => "embedded null byte"
  | linkLoop p => "Symlink loop from " ++ Text.quoteString p.toString

/-- The names from the top of the tree to a path. -/
def place (d : Disk) (p : Path) : List String :=
  if p.root = "" then d.home ++ p.names else p.names

def item? (d : Disk) (spot : List String) : Option Item :=
  match d.items.find? (·.1 == spot) with
  | some (_, item) => some item
  | none =>
    if spot.isEmpty || d.items.any (spot.isPrefixOf ·.1) then some .directory else none

/-- Where a link leads from the directory it lies in: a directory to start at, and names to go. -/
def leap (base : List String) (target : String) : List String × List String :=
  let p := Path.ofString target
  (if p.root = "" then base else [], p.names)

/-- A step along a path: what stands between two slashes, or the end of the link that lies at a
place. -/
inductive Step where
  | part (s : String)
  | endOf (link : List String)
  deriving DecidableEq, Repr

namespace Step

/-- The steps of a text. -/
def ofString (s : String) : List Step :=
  (Text.splitBy (· == '/') s.toList).map fun part => .part (String.ofList part)

/-- What is left of each text that steps were taken from, the innermost link first. -/
def texts : List Step → List String
  | [] => []
  | .endOf _ :: rest => "" :: texts rest
  | .part s :: .part t :: rest =>
    match texts (.part t :: rest) with
    | [] => [s]
    | text :: outer => (s ++ "/" ++ text) :: outer
  | .part s :: rest =>
    match texts rest with
    | [] => [s]
    | _ :: outer => s :: outer

end Step

/-- Takes back the name before each double dot. -/
def tidy (names : List String) : List String :=
  names.foldl (fun spot name => if name = ".." then spot.dropLast else spot ++ [name]) []

/-- The path of a place and of what is left to go. A text that is left may start with a slash: then
it stands for itself. -/
def stay (spot : List String) (rest : List Step) : Path :=
  let p := (Step.texts rest).foldl (fun p text => p ++ Path.ofString text) (Path.absolute spot)
  { p with names := tidy p.names }

/-- Follows links as far as there is something; a double dot takes back the name before it. Of links
that were met it is known where they lead, or that they are being followed: met again then, a link
stays in the path. So many links may still be met for the first time. -/
def follow (d : Disk) (links : Nat) (met : List (List String × Option (List String)))
    (base : List String) : List Step → Except DeadEnd Path
  | [] => .ok (Path.absolute base)
  | .endOf link :: rest => d.follow links ((link, some base) :: met) base rest
  | .part name :: rest =>
    if name = "" || name = "." then d.follow links met base rest
    else if name = ".." then d.follow links met base.dropLast rest
    else if !Path.isSoundName name then .error .unsoundName
    else
      let spot := base ++ [name]
      match d.item? spot with
      | some (.link target) =>
        match met.lookup spot with
        | some (some there) => d.follow links met there rest
        | some none => .ok (stay spot rest)
        | none =>
          if links = 0 then .ok (stay spot rest)
          else
            d.follow (links - 1) ((spot, none) :: met) (leap base target).1
              (Step.ofString target ++ .endOf spot :: rest)
      | _ => d.follow links met spot rest
termination_by steps => (links, steps.length)

/-- At most this many links are followed for one path that has to exist. -/
def linkLimit : Nat := 40

/-- A name has at most this many bytes. -/
def nameLimit : Nat := 255

/-- A path has at most this many bytes. -/
def pathLimit : Nat := 4095

/-- What asks for a directory at the end of a link: a single dot, or a slash. -/
def ending (target : String) : List String :=
  let names := (Text.splitBy (· == '/') target.toList).filter (!·.isEmpty)
  if names.getLast? = some ['.'] then ["."]
  else if target.toList.getLast? = some '/' then ["/"]
  else []

/-- Walks from a directory; every name but, if so wanted, the last one has to exist. A slash or a
single dot asks for a directory, and nothing can be made where a slash is the end. -/
def walkFrom (d : Disk) (lastMayMiss : Bool) (links : Nat) (base : List String) :
    List String → Except Refusal (List String)
  | [] => .ok base
  | name :: rest =>
    match d.item? base with
    | some .directory =>
      if name = ".." then d.walkFrom lastMayMiss links base.dropLast rest
      else if name = "." || name = "/" then d.walkFrom lastMayMiss links base rest
      else if lastMayMiss && rest = ["/"] then .error .isDirectory
      else if nameLimit < name.utf8ByteSize then .error .nameTooLong
      else
        match d.item? (base ++ [name]) with
        | none => if rest.isEmpty && lastMayMiss then .ok (base ++ [name]) else .error .missing
        | some (.link target) =>
          if links = 0 then .error .linkLoop
          else
            let (start, names) := leap base target
            d.walkFrom lastMayMiss (links - 1) start (names ++ ending target ++ rest)
        | some _ => d.walkFrom lastMayMiss links (base ++ [name]) rest
    | _ => .error .notDirectory
termination_by names => (links, names.length)

/-- Walks along a path. -/
def walkPath (d : Disk) (lastMayMiss : Bool) (p : Path) : Except Refusal (List String) :=
  if pathLimit < p.toString.utf8ByteSize then .error .nameTooLong
  else d.walkFrom lastMayMiss linkLimit [] (d.place p)

/-- The place of what exists at a path. -/
def walk (d : Disk) (p : Path) : Except Refusal (List String) := d.walkPath false p

/-- The path without links and double dots; what is missing is kept as it is spelled. -/
def resolve (d : Disk) (p : Path) : Except DeadEnd Path :=
  (d.follow d.items.length [] [] ((d.place p).map .part)).bind fun real =>
    if !real.names.all Path.isSoundName then .error .unsoundName
    else
      match d.walk real with
      | .error .linkLoop => .error (.linkLoop real)
      | _ => .ok real

def exists? (d : Disk) (p : Path) : Bool :=
  match d.walk p with
  | .ok _ => true
  | .error _ => false

/-- Whether a path leads to a file. A name that is too long is no answer. -/
def isFile (d : Disk) (p : Path) : Except Refusal Bool :=
  if !p.names.all Path.isSoundName then .ok false
  else
    match d.walk p with
    | .ok spot => match d.item? spot with
      | some (.file _) => .ok true
      | _ => .ok false
    | .error .nameTooLong => .error .nameTooLong
    | .error _ => .ok false

def read (d : Disk) (p : Path) : Except Refusal Bytes :=
  (d.walk p).bind fun spot =>
    match d.item? spot with
    | some (.file data) => .ok data
    | _ => .error .isDirectory

/-- The names directly below a place. -/
def namesBelow (d : Disk) (spot : List String) : List String :=
  (d.items.filterMap fun (place, _) =>
    if spot.isPrefixOf place then place[spot.length]? else none).eraseDups

/-- The names in a directory in ascending order. -/
def list (d : Disk) (p : Path) : Except Refusal (List String) :=
  (d.walk p).bind fun spot =>
    match d.item? spot with
    | some .directory => .ok ((d.namesBelow spot).mergeSort fun a b => decide (¬ b < a))
    | _ => .error .notDirectory

/-- Puts an item at a place; what lay there before gives way. -/
def put (d : Disk) (spot : List String) (item : Item) : Disk :=
  if d.items.any (·.1 == spot) then
    { d with items := d.items.map fun e => if e.1 = spot then (spot, item) else e }
  else { d with items := d.items ++ [(spot, item)] }

/-- Writes a file; the directory it lies in has to exist. -/
def write (d : Disk) (p : Path) (data : Bytes) : Except Refusal Disk :=
  (d.walkPath true p).bind fun spot =>
    match d.item? spot with
    | some .directory => .error .isDirectory
    | _ => .ok (d.put spot (.file data))

end Disk

end Attribution
