import DeviceWatch.Config.EnvFile
import DeviceWatch.Json.Text

/-!
The command line: `check-config` prints the settings in force, `--version` the version.

The profile is given by `--profile`, else by the environment.
-/

namespace DeviceWatch.CommandLine

inductive Command where
  | serve
  | checkConfig
  deriving DecidableEq

inductive Request where
  | run (command : Command) (profile : Option String)
  | version
  | help
  | usageError
  deriving DecidableEq

def readShort (root : Bool) : List Char → Request
  | 'V' :: _ => if root then .version else .usageError
  | 'h' :: _ => .help
  | _ => .usageError

def readTopic : List String → Request
  | [] => .help
  | [topic] => if topic ∈ ["serve", "check-config", "help"] then .help else .usageError
  | _ => .usageError

/-- Reads the arguments after a command; `outer` is the profile given before it. -/
def readOptions (command : Command) (outer given : Option String) : List String → Request
  | [] => .run command (given.orElse fun _ => outer)
  | "--" :: rest => if rest.isEmpty then .run command (given.orElse fun _ => outer) else .usageError
  | arg :: rest =>
    if arg = "--help" then .help
    else if arg = "--profile" then
      match rest with
      | value :: rest =>
        if given.isSome || (Text.startsWith "-" value && value ≠ "-") then .usageError
        else readOptions command outer (some value) rest
      | [] => .usageError
    else if Text.startsWith "--profile=" arg then
      if given.isSome then .usageError
      else readOptions command outer (some (String.ofList (arg.toList.drop 10))) rest
    else if Text.startsWith "--" arg then .usageError
    else match arg.toList with
      | '-' :: c :: flags => readShort false (c :: flags)
      | _ => .usageError

def read (given : Option String) : List String → Request
  | [] => .run .serve given
  | "--" :: rest => if rest.isEmpty then .run .serve given else .usageError
  | arg :: rest =>
    if arg = "--help" then .help
    else if arg = "help" then readTopic rest
    else if arg = "--version" then .version
    else if arg = "serve" then readOptions .serve given none rest
    else if arg = "check-config" then readOptions .checkConfig given none rest
    else if arg = "--profile" then
      match rest with
      | value :: rest =>
        if given.isSome || (Text.startsWith "-" value && value ≠ "-") then .usageError
        else read (some value) rest
      | [] => .usageError
    else if Text.startsWith "--profile=" arg then
      if given.isSome then .usageError
      else read (some (String.ofList (arg.toList.drop 10))) rest
    else if Text.startsWith "--" arg then .usageError
    else match arg.toList with
      | '-' :: c :: flags => readShort true (c :: flags)
      | _ => .usageError

def versionText : String := "0.1.0"

def usage : String :=
  "netpulse: connector polling scheduler and alert correlation service\n\n" ++
  "Usage: netpulse [OPTIONS] [COMMAND]\n\n" ++
  "Commands:\n" ++
  "  serve         Start the HTTP server and dispatch loop (default)\n" ++
  "  check-config  Load and validate configuration, then print the redacted summary\n" ++
  "  help          Print this message or the help of the given subcommand(s)\n\n" ++
  "Options:\n" ++
  "      --profile <PROFILE>  Configuration profile [env: NETPULSE_PROFILE=]\n" ++
  "  -h, --help               Print help\n" ++
  "  -V, --version            Print version\n"

structure Report where
  exit : Nat
  stdout : String := ""
  stderr : String := ""

/-- The settings that are in force: a profile that is named by an argument or a variable of the
environment wins over one that only the file of variables names. -/
def settings (profile : Option String) (env : Environment) (envFile : Option String) : Config :=
  let all := match envFile with
    | some text => EnvFile.load env text
    | none => env
  match profile.orElse fun _ => env.lookup Environment.profileKey with
  | some p => all.config p
  | none => all.namedConfig

def checkConfig (c : Config) : Report :=
  match c.validate with
  | .ok () => { exit := 0, stdout := c.summary.renderPretty 0 ++ "\n" }
  | .error e => { exit := 1, stderr := "Error: " ++ e.message }

def run (args : List String) (env : Environment) (envFile : Option String) : Report :=
  match read none args with
  | .version => { exit := 0, stdout := "netpulse " ++ versionText ++ "\n" }
  | .help => { exit := 0, stdout := usage }
  | .usageError => { exit := 2, stderr := usage }
  | .run .checkConfig profile => checkConfig (settings profile env envFile)
  | .run .serve profile =>
    match (settings profile env envFile).validate with
    | .ok () => { exit := 1, stderr := "Error: no listener is available" }
    | .error e => { exit := 1, stderr := "Error: invalid configuration\n\nCaused by:\n    " ++ e.message }

end DeviceWatch.CommandLine
