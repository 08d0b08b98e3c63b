import Attribution.License.Classifier

/-!
The options of the command line. An option is long or short; short ones may be joined behind one
dash, and the value of an option follows it or is attached to it.
-/

namespace Attribution.CommandLine

open Number

inductive Command where
  | gen
  | tree
  deriving DecidableEq, Repr

inductive Key where
  | modfile
  | output
  | depth
  | lenient
  | proxy
  | threshold
  | header
  | template
  | verbose
  | help
  deriving DecidableEq, Repr

/-- The options whose values name files. -/
def Key.paths : List Key := [.modfile, .output, .header, .template]

/-- Whether an option is followed by a value. -/
def Key.takesValue : Key → Bool
  | .lenient | .verbose | .help => false
  | _ => true

/-- Whether a command has an option. -/
def Command.has : Command → Key → Bool
  | .gen, _ => true
  | .tree, key => key != .output && key != .header && key != .template

def longNames : List (String × Key) :=
  [("--modfile", .modfile), ("--output", .output), ("--depth", .depth), ("--lenient", .lenient),
    ("--proxy", .proxy), ("--threshold", .threshold), ("--header", .header),
    ("--template", .template), ("--verbose", .verbose), ("--help", .help)]

def shortNames : List (Char × Key) :=
  [('m', .modfile), ('o', .output), ('d', .depth), ('t', .template), ('v', .verbose)]

def Command.long? (c : Command) (name : List Char) : Option Key :=
  (longNames.lookup (String.ofList name)).filter c.has

def Command.short? (c : Command) (name : Char) : Option Key :=
  (shortNames.lookup name).filter c.has

/-- The options that were given, in order, and how many arguments are no options. -/
structure Given where
  options : List (Key × String)
  loose : Nat

/-- Reads short options joined behind a dash. A value that is not attached is the next argument:
whether one was taken is given back. -/
def readShort (c : Command) (next : Option String) :
    List Char → Option (List (Key × String) × Bool)
  | [] => some ([], false)
  | name :: rest =>
    match c.short? name with
    | none => none
    | some key =>
      if key.takesValue then
        if rest.isEmpty then next.map fun value => ([(key, value)], true)
        else some ([(key, String.ofList rest)], false)
      else (readShort c next rest).map fun (more, taken) => ((key, "") :: more, taken)

/-- Reads one argument that starts with a dash. -/
def readOption (c : Command) (arg : List Char) (next : Option String) :
    Option (List (Key × String) × Bool) :=
  let name := arg.takeWhile (· != '=')
  let attached := if arg.contains '=' then some (arg.drop (name.length + 1)) else none
  match c.long? name with
  | some key =>
    if key.takesValue then
      match attached, next with
      | some value, _ => some ([(key, String.ofList value)], false)
      | none, some value => some ([(key, value)], true)
      | none, none => none
    else if attached.isSome then none
    else some ([(key, "")], false)
  | none =>
    match arg with
    | '-' :: '-' :: _ => none
    | _ => readShort c next (arg.drop 1)

/-- Reads the arguments of a command; two dashes end its options. -/
def readArguments (c : Command) : List String → Option Given
  | [] => some ⟨[], 0⟩
  | arg :: rest =>
    match arg.toList with
    | ['-', '-'] => some ⟨[], rest.length⟩
    | '-' :: first :: more =>
      match readOption c ('-' :: first :: more) rest.head? with
      | none => none
      | some (options, taken) =>
        (if taken then
          match rest with
          | [] => none
          | _ :: rest => readArguments c rest
        else readArguments c rest).map fun g => { g with options := options ++ g.options }
    | _ => (readArguments c rest).map fun g => { g with loose := g.loose + 1 }

/-- What a command was asked to do. -/
structure Options where
  modfile : String
  output : String
  depth : Nat
  lenient : Bool
  proxy : Option String
  threshold : Number.Given
  header : Option String
  template : Option String
  verbose : Bool

/-- The value an option was last given. -/
def Given.value? (g : Given) (key : Key) : Option String :=
  (g.options.reverse.find? (·.1 == key)).map (·.2)

/-- Whether all names of files can be names. -/
def Given.hasSoundPaths (g : Given) : Bool :=
  (Key.paths.filterMap g.value?).all Path.isSoundName

def Given.flag (g : Given) (key : Key) : Bool := g.options.any (·.1 == key)

/-- Reads a depth: a whole number that is not negative. -/
def readDepth? (text : String) : Option Nat :=
  match readInt? text.toList with
  | some (.ofNat n) => some n
  | _ => none

/-- Reads a threshold between one hundredth and one. -/
def readThreshold? (text : String) : Option Number.Given :=
  (readBinary64? text.toList).bind fun x =>
    match x.toRat?, (Binary64.ofFraction false 1 100).toRat? with
    | some q, some least => if least ≤ q && q ≤ 1 then some (.real x) else none
    | _, _ => none

/-- What comes of the arguments of a command line. -/
inductive Request where
  | usage
  | help
  | run (command : Command) (options : Options)

/-- Turns given options into what they ask for; the files they name have to exist. -/
def Given.request (g : Given) (c : Command) (present : String → Bool) : Request :=
  if g.flag .help then .help
  else
    let depth := (g.value? .depth).elim (some 1) readDepth?
    let threshold := (g.value? .threshold).elim (some License.Threshold.default.given)
      readThreshold?
    let named := (g.value? .header).toList ++ (g.value? .template).toList
    match depth, threshold with
    | some depth, some threshold =>
      if g.loose ≠ 0 || !g.hasSoundPaths || !named.all present then .usage
      else
        .run c
          { modfile := (g.value? .modfile).getD "go.mod"
            output := (g.value? .output).getD "ATTRIBUTION.md"
            depth
            lenient := g.flag .lenient
            proxy := (g.value? .proxy).filter (· != "")
            threshold
            header := g.value? .header
            template := g.value? .template
            verbose := g.flag .verbose }
    | _, _ => .usage

/-- Reads what stands before the command: whether help is asked for, and the arguments that are left.
Two dashes end the options. -/
def readFront (help : Bool) : List String → Option (Bool × List String)
  | [] => some (help, [])
  | arg :: rest =>
    match arg.toList with
    | ['-', '-'] => some (help, rest)
    | '-' :: _ :: _ => if arg = "--help" then readFront true rest else none
    | _ => some (help, arg :: rest)

/-- Reads a command line. Before the command only the option for help may stand. -/
def Request.ofArguments (present : String → Bool) (args : List String) : Request :=
  match readFront false args with
  | none => .usage
  | some (true, _) => .help
  | some (false, "gen" :: rest) => read .gen rest
  | some (false, "tree" :: rest) => read .tree rest
  | some (false, _) => .usage
where
  read (c : Command) (rest : List String) : Request :=
    match readArguments c rest with
    | none => .usage
    | some g => g.request c present

end Attribution.CommandLine
