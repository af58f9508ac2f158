import Backtrack.Grammar
import Backtrack.Lists

/-!
The command line: reads a text of the list language and prints its tree.  Here
is everything but the reading and writing itself, so that it can be reasoned
about: how arguments are understood, how the input is cut into chunks, and what
is printed for every outcome.
-/

namespace Backtrack

def Lists.grammar : Grammar := { name := "lists" }

namespace CommandLine

/-! ## Arguments -/

structure Options where
  /-- The input file.  The standard input if there is none. -/
  path : Option String := none
  /-- Deliver the input in chunks of this many characters. -/
  chunked : Option Nat := none
  maxBranchDepth : Option Nat := none
  maxInstructions : Option Nat := none
  deriving DecidableEq, Repr

inductive Request where
  | parse (o : Options)
  | help
  /-- The arguments cannot be understood. -/
  | refused
  deriving DecidableEq, Repr

/-- A number as an option takes it: decimal digits with an optional plus, in 64
bits. -/
def number? (text : String) : Option Nat :=
  let digits := match text.toList with
    | '+' :: rest => rest
    | cs => cs
  if digits.isEmpty || !digits.all Char.isDigit then none
  else
    let n := digits.foldl (fun n c => n * 10 + (c.toNat - '0'.toNat)) 0
    if n < UInt64.size then some n else none

def setOption (o : Options) (name value : String) : Option Options := do
  let n ← number? value
  match name with
  | "chunked" => if o.chunked.isSome then none else some { o with chunked := some n }
  | "max-branch-depth" =>
    if o.maxBranchDepth.isSome then none else some { o with maxBranchDepth := some n }
  | "max-instructions" =>
    if o.maxInstructions.isSome then none else some { o with maxInstructions := some n }
  | _ => none

/-- Set the path, of which there is one at most.  It must not be empty. -/
def setPath (o : Options) (path : String) : Option Options :=
  if path.isEmpty || o.path.isSome then none else some { o with path := some path }

inductive Argument where
  /-- Everything after it is a path. -/
  | endOfOptions
  | long (name : String) (value : Option String)
  | short (flags : List Char)
  | path (text : String)

def Argument.ofString (s : String) : Argument :=
  match s.toList with
  | ['-', '-'] => .endOfOptions
  | '-' :: '-' :: rest =>
    match rest.span (· != '=') with
    | (name, '=' :: value) => .long (String.ofList name) (some (String.ofList value))
    | (name, _) => .long (String.ofList name) none
  | '-' :: c :: rest => .short (c :: rest)
  | _ => .path s

/-- Read the arguments in order.  `waiting` is an option that still needs its
value, which cannot start with a hyphen. -/
def readArguments : Options → Option String → List String → Request
  | o, none, [] => .parse o
  | _, some _, [] => .refused
  | o, waiting, arg :: args =>
    match Argument.ofString arg, waiting with
    | .path text, some name =>
      match setOption o name text with
      | some o => readArguments o none args
      | none => .refused
    | .path text, none =>
      match setPath o text with
      | some o => readArguments o none args
      | none => .refused
    | .long "help" none, none => .help
    | .long name (some value), none =>
      match setOption o name value with
      | some o => readArguments o none args
      | none => .refused
    | .long name none, none =>
      if name = "chunked" || name = "max-branch-depth" || name = "max-instructions" then
        readArguments o (some name) args
      else .refused
    | .short ('h' :: _), none => .help
    | .endOfOptions, none =>
      match args.foldlM setPath o with
      | some o => .parse o
      | none => .refused
    | _, _ => .refused

def Request.ofArguments (args : List String) : Request := readArguments {} none args

/-! ## Input -/

inductive ReadFailure where
  | notFound
  | permissionDenied
  | notADirectory
  | isADirectory
  | nameTooLong
  | notText
  deriving DecidableEq, Repr

namespace ReadFailure

def message : ReadFailure → String
  | .notFound => "No such file or directory (os error 2)"
  | .permissionDenied => "Permission denied (os error 13)"
  | .notADirectory => "Not a directory (os error 20)"
  | .isADirectory => "Is a directory (os error 21)"
  | .nameTooLong => "File name too long (os error 36)"
  | .notText => "stream did not contain valid UTF-8"

end ReadFailure

def piecesOf {α : Type} (size : Nat) (xs : List α) : List (List α) :=
  match xs with
  | [] => []
  | x :: rest => (x :: rest.take size) :: piecesOf size (rest.drop size)
termination_by xs.length
decreasing_by
  simp only [List.length_drop, List.length_cons]
  omega

/-- What a channel hands out that is filled while it is read.  Before piece `i`,
and before the end behind the last one, it is found empty `waits i` times. -/
def handedOut (waits : Nat → Nat) : List (List Symbol) → List Delivery
  | [] => List.replicate (waits 0) .wait
  | piece :: rest =>
    List.replicate (waits 0) .wait ++ .chunk piece :: handedOut (fun i => waits (i + 1)) rest

/-- The sender starts when the channel has been found empty once, and then does
not stop. -/
def sentAtOnce (i : Nat) : Nat := if i = 0 then 1 else 0

/-- The input in one piece, or through a channel in chunks of the given size.  A
size of 0 counts as 1. -/
def input (text : String) (waits : Nat → Nat) : Option Nat → Buffer
  | none => .ofText text
  | some size =>
    .ofFeed { deliveries := handedOut waits (piecesOf (size - 1) (Symbol.ofText text)) }

/-! ## Output -/

structure Output where
  code : Nat
  stdout : String := ""
  stderr : String := ""
  deriving DecidableEq, Repr

def fail (message : String) : Output := { code := 1, stderr := "error: " ++ message ++ "\n" }

def Options.config (o : Options) : Config :=
  let config : Config := {}
  { config with
    maxBranchDepth := o.maxBranchDepth.getD config.maxBranchDepth
    maxInstructions := o.maxInstructions.getD config.maxInstructions }

def usage : String :=
  "Usage: [--chunked <N>] [--max-branch-depth <N>] [--max-instructions <N>] [PATH]\n"

/-- Parse a text and print its tree.  The run is polled again after every wait. -/
def Options.respond (o : Options) (text : String) (waits : Nat → Nat := sentAtOnce) : Output :=
  let arriving := input text waits o.chunked
  let outcome :=
    Engine.parse o.config (Lists.document o.config.maxInstructions) arriving
      (arriving.waiting + 1)
  match outcome.result with
  | some (.ok document) => { code := 0, stdout := document.render }
  | some (.error e) => fail e.message
  | none => fail Error.stalled.message

/-- The whole command.  `read` gives the content of a file, or of the standard
input if no path is given. -/
def run (args : List String) (read : Option String → Except ReadFailure String) : Output :=
  match Request.ofArguments args with
  | .refused => { code := 2, stderr := usage }
  | .help => { code := 0, stdout := usage }
  | .parse o =>
    match read o.path with
    | .error e => fail ("failed to read input: " ++ e.message)
    | .ok text => o.respond text

end CommandLine

end Backtrack
