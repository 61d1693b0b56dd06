import RubyTree.CommandLine
import RubyTree.ConfigFile
import RubyTree.Document.Load
import RubyTree.Render

/-!
The program: arguments, config, input, document and rendering, each of which can put an end to it.
-/

namespace RubyTree

inductive ReadFault where
  | missing
  | directory
  | notDirectory
  | denied
  | notText
  | other (message : String)
  deriving DecidableEq, Repr

def ReadFault.message : ReadFault → String
  | .missing => "No such file or directory (os error 2)"
  | .directory => "Is a directory (os error 21)"
  | .notDirectory => "Not a directory (os error 20)"
  | .denied => "Permission denied (os error 13)"
  | .notText => "stream did not contain valid UTF-8"
  | .other message => message

structure World where
  file : String → Except ReadFault ByteArray
  stdin : Except ReadFault ByteArray

def textOfBytes (bytes : ByteArray) : Except ReadFault String :=
  match String.fromUTF8? bytes with
  | some text => .ok text
  | none => .error .notText

def World.fileText (world : World) (path : String) : Except ReadFault String :=
  world.file path >>= textOfBytes

def World.stdinText (world : World) : Except ReadFault String := world.stdin >>= textOfBytes

inductive ConfigError where
  | unreadable (path : String) (fault : ReadFault)
  | invalid
  deriving DecidableEq, Repr

def ConfigError.message : ConfigError → String
  | .unreadable path fault => "failed to read config file " ++ path ++ ": " ++ fault.message
  | .invalid => "invalid config"

def Config.ofYaml (text : String) : Except ConfigError Config :=
  match Config.ofYaml? text with
  | some config => .ok config
  | none => .error .invalid

def Config.ofFile (world : World) (path : String) : Except ConfigError Config := do
  let text ← (world.fileText path).mapError (.unreadable path)
  Config.ofYaml text

inductive Failure where
  | config (path : String) (error : ConfigError)
  | input (path : String) (fault : ReadFault)
  | stdin (fault : ReadFault)
  | document (error : LoadError)
  | render (error : RenderError)
  deriving DecidableEq, Repr

def Failure.context : Failure → String
  | .config path _ => "Failed to load config from " ++ path
  | .input path _ => "Failed to read " ++ path
  | .stdin _ => "Failed to read stdin"
  | .document _ => "Failed to load AST document"
  | .render _ => "Failed to render AST"

def Failure.cause : Failure → String
  | .config _ error => error.message
  | .input _ fault => fault.message
  | .stdin fault => fault.message
  | .document error => error.message
  | .render error => error.message

namespace Request

def baseConfig (world : World) (request : Request) : Except Failure Config :=
  match request.config with
  | none => .ok {}
  | some path => (Config.ofFile world path).mapError (.config path)

/-- The options of a request take precedence, and its verbatim node types are added. -/
def adjust (request : Request) (config : Config) : Config where
  beginPolicy := request.beginPolicy.getD config.beginPolicy
  sourceFallback := config.sourceFallback && !request.noSourceFallback
  verbatimTags := config.verbatimTags ++ request.verbatim

/-- The text of the document; a dash stands for standard input. -/
def inputText (world : World) (request : Request) : Except Failure String :=
  match request.input with
  | none | some "-" => world.stdinText.mapError .stdin
  | some path => (world.fileText path).mapError (.input path)

def run (world : World) (request : Request) : Except Failure String := do
  let config := request.adjust (← request.baseConfig world)
  let text ← request.inputText world
  let document ← (Document.load text).mapError .document
  (document.root.renderWith (.ofConfig config)).mapError .render

end Request

inductive Ending where
  | rendered (text : String)
  | failed (failure : Failure)
  | help
  | version
  | wrongUsage
  deriving DecidableEq, Repr

namespace Program

def versionText : String := "unparse 0.1.0"

def helpText : String :=
  "Render a JSON-encoded Ruby AST back into Ruby source\n\n" ++
  "Usage: unparse [OPTIONS] [INPUT]\n\n" ++
  "Arguments:\n" ++
  "  [INPUT]  AST document to read; stdin when omitted or `-`\n\n" ++
  "Options:\n" ++
  "  -c, --config <CONFIG>              YAML config file\n" ++
  "      --verbatim <TAG>               Render nodes of this type verbatim from their source range (repeatable)\n" ++
  "      --begin-policy <BEGIN_POLICY>  How to treat `begin` nodes that do not have exactly one child [possible values: strict, first-child]\n" ++
  "      --no-source-fallback           Fail on node types without an emitter instead of copying their source\n" ++
  "  -v, --verbose...                   Increase log verbosity (-v debug, -vv trace)\n" ++
  "  -h, --help                         Print help\n" ++
  "  -V, --version                      Print version"

def run (world : World) (arguments : List String) : Ending :=
  match CommandLine.parse arguments with
  | .wrong => .wrongUsage
  | .help => .help
  | .version => .version
  | .render request =>
    match request.run world with
    | .ok text => .rendered text
    | .error failure => .failed failure

end Program

def Ending.exitCode : Ending → UInt32
  | .rendered _ | .help | .version => 0
  | .failed _ => 1
  | .wrongUsage => 2

/-- Nothing is printed unless all of it can be. -/
def Ending.stdout : Ending → String
  | .rendered text => text ++ "\n"
  | .help => Program.helpText ++ "\n"
  | .version => Program.versionText ++ "\n"
  | .failed _ | .wrongUsage => ""

def Ending.stderr : Ending → String
  | .failed failure =>
    "Error: " ++ failure.context ++ "\n\nCaused by:\n    " ++ failure.cause ++ "\n"
  | .wrongUsage => "error: wrong usage; for more information, try '--help'.\n"
  | .rendered _ | .help | .version => ""

end RubyTree
