import LocalServer.FileTree.Basic
import LocalServer.Text.Quoted
import LocalServer.Text.Similarity

/-!
# Reading the command line

The command line has options, which start with `-`, and at most one
argument. An option that takes a value takes it from behind its `=`, or
else whatever comes next; short flags may be run together; after `--`
everything is an argument.

There is an order among the things that can be wrong. The options are read
first, and the first that cannot be read is reported. A wish for help or
for the version is then granted, whatever else is on the command line. Only
after that it matters whether the directory for resources is a file, and
last whether there are too many arguments.
-/

namespace LocalServer.CommandLine

/-- **The options without a value.** -/
inductive Flag where
  | version
  | noBrowser
  | verbose
  | help
deriving DecidableEq, Repr

/-- **The options.** -/
inductive Switch where
  /-- An option without a value. -/
  | flag (flag : Flag)
  /-- The directory for resources. -/
  | resources
deriving DecidableEq, Repr

/-- The option of a long name. -/
def Switch.ofLong? : String → Option Switch
  | "--version" => some (.flag .version)
  | "--resource-dir" => some .resources
  | "--no-browser" => some (.flag .noBrowser)
  | "--verbose" => some (.flag .verbose)
  | "--help" => some (.flag .help)
  | _ => none

/-- The long names of all options. -/
def Switch.longNames : List String :=
  ["--version", "--resource-dir", "--no-browser", "--verbose", "--help"]

/-- Every long name is the name of an option. -/
theorem Switch.isSome_ofLong? {name : String} (h : name ∈ longNames) :
    (ofLong? name).isSome = true := by
  simp only [longNames, List.mem_cons, List.not_mem_nil, or_false] at h
  rcases h with rfl | rfl | rfl | rfl | rfl <;> rfl

/-- The option without a value of a short name. -/
def Flag.ofShort? : Char → Option Flag
  | 'v' => some .verbose
  | _ => none

/-- **What is wrong with a command line.** -/
inductive UsageError where
  /-- An option that there is not, and the names that may have been meant. -/
  | noSuchOption (name : String) (similar : List String)
  /-- More arguments than the one that is wanted. -/
  | extraArguments (arguments : List String)
  /-- The directory for resources is a file. -/
  | notADirectory (path : String)
  /-- An option without the value that it takes. -/
  | missingValue (name : String)
  /-- An option with a value that it does not take. -/
  | unwantedValue (name : String)
deriving DecidableEq, Repr

namespace UsageError

/-- The question whether another name was meant. -/
def question : List String → String
  | [] => ""
  | [name] => " Did you mean " ++ Text.quoted name ++ "?"
  | names => " (Did you mean one of: " ++ ", ".intercalate (names.map Text.quoted) ++ "?)"

/-- How many similar names are told at most. -/
def mostSimilar : Nat := 3

/-- A long name that no option has. -/
def unknownLong (name : String) : UsageError :=
  .noSuchOption name (Text.similarTo name mostSimilar Switch.longNames)

/-- The sentence that says what is wrong. -/
def sentence : UsageError → String
  | .noSuchOption name similar =>
    "No such option " ++ Text.quoted name ++ "." ++ question similar
  | .extraArguments [argument] => "Got unexpected extra argument (" ++ argument ++ ")"
  | .extraArguments arguments =>
    "Got unexpected extra arguments (" ++ " ".intercalate arguments ++ ")"
  | .notADirectory path =>
    "Invalid value for '--resource-dir': Directory " ++ Text.quoted path ++ " is a file."
  | .missingValue name => "Option " ++ Text.quoted name ++ " requires an argument."
  | .unwantedValue name => "Option " ++ Text.quoted name ++ " does not take a value."

/-- Whether the error comes with a reminder of the usage. -/
def remindsOfUsage : UsageError → Bool
  | .missingValue _ | .unwantedValue _ => false
  | _ => true

end UsageError

/-- **The options as they were read.** -/
structure Scanned where
  /-- The directory for resources, the last one given. -/
  resources : Option String
  /-- Whether the browser is to be left alone. -/
  noBrowser : Bool
  /-- Whether everything is to be told. -/
  verbose : Bool
  /-- The first wish for help or for the version. -/
  wish : Option Flag
  /-- What is not an option, in order. -/
  arguments : List String
deriving DecidableEq, Repr

namespace Scanned

/-- Nothing read yet. -/
def nothing : Scanned :=
  ⟨none, false, false, none, []⟩

/-- One more option without a value. -/
def raise (s : Scanned) : Flag → Scanned
  | .noBrowser => { s with noBrowser := true }
  | .verbose => { s with verbose := true }
  | .help => { s with wish := s.wish.or (some .help) }
  | .version => { s with wish := s.wish.or (some .version) }

/-- Several short flags that are run together. -/
def raiseAll (s : Scanned) : List Char → Except UsageError Scanned
  | [] => .ok s
  | c :: cs =>
    match Flag.ofShort? c with
    | some flag => (s.raise flag).raiseAll cs
    | none => .error (.noSuchOption (String.ofList ['-', c]) [])

end Scanned

/-- Whether a word is an option: it starts with `-` and goes on. -/
def isOption (word : List Char) : Bool :=
  word.head? = some '-' && word.length > 1

/-- The name of an option and the value behind its first `=`, if there is
one. -/
def nameAndValue (word : List Char) : String × Option String :=
  let (name, value) := Text.cutAt '=' word
  (String.ofList name, if '=' ∈ word then some (String.ofList value) else none)

/-- **Reading the words** of a command line from left to right. -/
def scan (s : Scanned) : List String → Except UsageError Scanned
  | [] => .ok s
  | word :: words =>
    let cs := word.toList
    if word = "--" then .ok { s with arguments := s.arguments ++ words }
    else if !isOption cs then scan { s with arguments := s.arguments ++ [word] } words
    else
      let (name, value) := nameAndValue cs
      match Switch.ofLong? name with
      | some .resources =>
        match value, words with
        | some value, words => scan { s with resources := some value } words
        | none, value :: words => scan { s with resources := some value } words
        | none, [] => .error (.missingValue name)
      | some (.flag flag) =>
        match value with
        | some _ => .error (.unwantedValue name)
        | none => scan (s.raise flag) words
      | none =>
        if cs.take 2 = ['-', '-'] then .error (.unknownLong name)
        else match s.raiseAll (cs.drop 1) with
          | .ok s => scan s words
          | .error e => .error e
termination_by words => words.length

/-- **What the program is told to do.** -/
structure Options where
  /-- The address of the server. -/
  url : Option String
  /-- The directory for resources. -/
  resources : Option Path
  /-- Whether the browser is to be opened. -/
  openBrowser : Bool
  /-- Whether everything is to be told. -/
  verbose : Bool
deriving DecidableEq, Repr

/-- **What a command line asks for.** -/
inductive Request where
  /-- The text of help. -/
  | help
  /-- The version. -/
  | version
  /-- The work of the program. -/
  | start (options : Options)
  /-- Nothing that can be done. -/
  | invalid (error : UsageError)
  /-- The directory for resources cannot even be looked up. -/
  | mutePath
deriving DecidableEq, Repr

/-- **What a command line asks for**, given the files. -/
def request (files : FileTree) (words : List String) : Request :=
  match scan .nothing words with
  | .error e => .invalid e
  | .ok s =>
    let resources := s.resources.getD ""
    match s.wish with
    | some .help => .help
    | some _ => .version
    | none =>
      if FileTree.isMute resources then .mutePath
      else if files.isFile resources then .invalid (.notADirectory resources)
      else match s.arguments with
        | _ :: extra :: more => .invalid (.extraArguments (extra :: more))
        | arguments =>
          .start ⟨arguments.head?, s.resources.map Path.ofString, !s.noBrowser, s.verbose⟩

end LocalServer.CommandLine
