import RubyTree.Config

/-!
The arguments of the command line. They are taken in order, and the first that asks for help or for the
version, or that is wrong, decides.
-/

namespace RubyTree

structure Request where
  input : Option String := none
  config : Option String := none
  verbatim : List String := []
  beginPolicy : Option BeginPolicy := none
  noSourceFallback : Bool := false
  deriving DecidableEq, Repr

inductive Parsed where
  | render (request : Request)
  | help
  | version
  | wrong
  deriving DecidableEq, Repr

namespace CommandLine

inductive Setter where
  | config
  | verbatim
  | beginPolicy
  deriving DecidableEq, Repr

/-- Options without a value. How much is logged makes no difference to the output. -/
inductive Switch where
  | noSourceFallback
  | verbose
  | version
  | help
  deriving DecidableEq, Repr

def setterOfName? : String → Option Setter
  | "config" => some .config
  | "verbatim" => some .verbatim
  | "begin-policy" => some .beginPolicy
  | _ => none

def switchOfName? : String → Option Switch
  | "no-source-fallback" => some .noSourceFallback
  | "verbose" => some .verbose
  | "version" => some .version
  | "help" => some .help
  | _ => none

def switchOfLetter? : Char → Option Switch
  | 'v' => some .verbose
  | 'V' => some .version
  | 'h' => some .help
  | _ => none

def policyOfName? : String → Option BeginPolicy
  | "strict" => some .strict
  | "first-child" => some .firstChild
  | _ => none

/-- Sets an option. Only `verbatim` may be given more than once, and no path may be empty. -/
def set? (request : Request) (setter : Setter) (value : String) : Option Request :=
  match setter with
  | .config =>
    if request.config.isSome || value.isEmpty then none
    else some { request with config := some value }
  | .verbatim => some { request with verbatim := request.verbatim ++ [value] }
  | .beginPolicy =>
    if request.beginPolicy.isSome then none
    else (policyOfName? value).map fun policy => { request with beginPolicy := some policy }

def setInput? (request : Request) (value : String) : Option Request :=
  if request.input.isSome || value.isEmpty then none
  else some { request with input := some value }

/-- Where the arguments so far have led: to more of them, to the value of an option, or to an end. -/
inductive State where
  | ready (request : Request)
  | awaiting (setter : Setter) (request : Request)
  | stopped (parsed : Parsed)

def State.ofRequest? : Option Request → State
  | some request => .ready request
  | none => .stopped .wrong

def flip (request : Request) : Switch → State
  | .noSourceFallback =>
    if request.noSourceFallback then .stopped .wrong
    else .ready { request with noSourceFallback := true }
  | .verbose => .ready request
  | .version => .stopped .version
  | .help => .stopped .help

/-- Letters after a single dash. The letter of an option with a value takes the rest as its value. -/
def letters (request : Request) : List Char → State
  | [] => .ready request
  | 'c' :: [] => .awaiting .config request
  | 'c' :: '=' :: value => .ofRequest? (set? request .config (String.ofList value))
  | 'c' :: value => .ofRequest? (set? request .config (String.ofList value))
  | letter :: rest =>
    match switchOfLetter? letter with
    | none => .stopped .wrong
    | some switch =>
      match flip request switch with
      | .ready request => letters request rest
      | state => state

/-- An option by its name, with its value if an equals sign follows. -/
def named (request : Request) (text : List Char) : State :=
  let name := String.ofList (text.takeWhile (· != '='))
  match text.dropWhile (· != '=') with
  | _ :: value =>
    match setterOfName? name with
    | some setter => .ofRequest? (set? request setter (String.ofList value))
    | none => .stopped .wrong
  | [] =>
    match setterOfName? name with
    | some setter => .awaiting setter request
    | none =>
      match switchOfName? name with
      | some switch => flip request switch
      | none => .stopped .wrong

def isOption (argument : String) : Bool :=
  match argument.toList with
  | '-' :: _ :: _ => true
  | _ => false

def next (state : State) (argument : String) : State :=
  match state with
  | .stopped parsed => .stopped parsed
  | .awaiting setter request =>
    if isOption argument then .stopped .wrong else .ofRequest? (set? request setter argument)
  | .ready request =>
    match argument.toList with
    | '-' :: '-' :: name => named request name
    | '-' :: first :: rest => letters request (first :: rest)
    | _ => .ofRequest? (setInput? request argument)

def nextInput (state : State) (argument : String) : State :=
  match state with
  | .ready request => .ofRequest? (setInput? request argument)
  | .awaiting _ _ => .stopped .wrong
  | .stopped parsed => .stopped parsed

def State.finish : State → Parsed
  | .ready request => .render request
  | .awaiting _ _ => .wrong
  | .stopped parsed => parsed

def parse (arguments : List String) : Parsed :=
  let before := arguments.takeWhile (· != "--")
  let after := (arguments.dropWhile (· != "--")).drop 1
  (after.foldl nextInput (before.foldl next (.ready {}))).finish

end CommandLine

end RubyTree
