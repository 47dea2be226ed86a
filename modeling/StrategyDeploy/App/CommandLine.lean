import StrategyDeploy.App.Application
import StrategyDeploy.Text.Blank

/-! The command line. -/
namespace StrategyDeploy.App

open StrategyDeploy.Evm StrategyDeploy.Bytes StrategyDeploy.Calldata StrategyDeploy.Reader

def versionText : String := "obgui-cli 0.1.0\n"

/-- A subcommand. -/
inductive Verb where
  | describe
  | serialize
  | allowances
  | approvals
  | deposits
  | addOrder
  | multicall
  deriving DecidableEq, Repr

def Verb.all : List Verb := [.describe, .serialize, .allowances, .approvals, .deposits, .addOrder,
  .multicall]

/-- A subcommand's name on the command line. -/
def Verb.name : Verb → String
  | .describe => "show"
  | .serialize => "serialize"
  | .allowances => "allowances"
  | .approvals => "approvals"
  | .deposits => "deposits"
  | .addOrder => "add-order"
  | .multicall => "multicall"

def Verb.ofName? (name : String) : Option Verb := Verb.all.find? (·.name == name)

/-- What a subcommand does, in one line. -/
def Verb.about : Verb → String
  | .describe => "Describe the deployment and the session's values"
  | .serialize => "Print the session as a state blob"
  | .allowances => "Read the owner's allowances for each deposit token"
  | .approvals => "Approvals still needed before depositing"
  | .deposits => "One deposit call per deposit"
  | .addOrder => "The addOrder2 call"
  | .multicall => "Deposits and addOrder2 bundled into one multicall"

/-- The help of the whole program. -/
def mainHelp : String :=
  "Command line front end for configuring and compiling strategy deployments\n\n" ++
  "Usage: obgui [OPTIONS] --document <DOCUMENT> --deployment <DEPLOYMENT> <COMMAND>\n\n" ++
  "Commands:\n" ++
  String.join (Verb.all.map fun v =>
    let name := v.name
    "  " ++ name ++ String.ofList (List.replicate (12 - name.length) ' ') ++ v.about ++ "\n") ++
  "  help        Print this message or the help of the given subcommand(s)\n\n" ++
  "Options:\n" ++
  "  -c, --config <CONFIG>          Settings file path (can also be set via OBGUI_CONFIG env var)\n" ++
  "  -d, --document <DOCUMENT>      Deployment document (TOML front matter, " ++
    "\x60---\x60, expression body)\n" ++
  "  -D, --deployment <DEPLOYMENT>  Gui deployment id within the document\n" ++
  "      --state <STATE>            State blob to restore before applying values\n" ++
  "      --field <FIELDS>           Field value as binding=value (repeatable)\n" ++
  "      --deposit <DEPOSITS>       Deposit as token=amount in human units (repeatable)\n" ++
  "  -h, --help                     Print help\n" ++
  "  -V, --version                  Print version\n"

def verbUsage (rest : String) : String :=
  "Usage: obgui --document <DOCUMENT> --deployment <DEPLOYMENT> " ++ rest ++ "\n\n"

/-- The help of a subcommand. -/
def Verb.help (v : Verb) : String :=
  let head := v.about ++ "\n\n"
  match v with
  | .allowances | .approvals =>
    head ++ verbUsage (v.name ++ " --owner <OWNER>") ++
      "Options:\n      --owner <OWNER>  \n  -h, --help           Print help\n"
  | .addOrder | .multicall =>
    head ++ verbUsage (v.name ++ " [OPTIONS]") ++
      "Options:\n      --nonce <NONCE>    Order nonce (random when omitted)\n" ++
      "      --secret <SECRET>  Order secret (random when omitted)\n" ++
      "  -h, --help             Print help\n"
  | _ => head ++ verbUsage v.name ++ "Options:\n  -h, --help  Print help\n"

def helpHelp : String :=
  "Print this message or the help of the given subcommand(s)\n\n" ++
  verbUsage "help [COMMAND]..." ++
  "Arguments:\n  [COMMAND]...  Print help for the subcommand(s)\n"

def keyValue? (raw : String) : Option (String × String) :=
  match raw.toList.span (· ≠ '=') with
  | (key, _ :: value) =>
    let key := Text.trim (String.ofList key)
    if key.isEmpty then none else some (key, String.ofList value)
  | _ => none

/-- The options given before the subcommand. -/
structure Arguments where
  config : Option String := none
  document : Option String := none
  deployment : Option String := none
  state : Option String := none
  fields : List (String × String) := []
  deposits : List (String × String) := []

/-- The options given after the subcommand. -/
structure VerbOptions where
  owner : Option Address := none
  nonce : Option Bytes32 := none
  secret : Option Bytes32 := none

/-- An option of the program that takes a value. -/
inductive ProgramOption where
  | config
  | document
  | deployment
  | state
  | field
  | deposit

/-- The option with a long name. -/
def ProgramOption.ofLong? : String → Option ProgramOption
  | "config" => some .config
  | "document" => some .document
  | "deployment" => some .deployment
  | "state" => some .state
  | "field" => some .field
  | "deposit" => some .deposit
  | _ => none

def ProgramOption.ofShort? : Char → Option ProgramOption
  | 'c' => some .config
  | 'd' => some .document
  | 'D' => some .deployment
  | _ => none

def setOnce? {α : Type} : Option α → α → Option (Option α)
  | some _, _ => none
  | none, v => some (some v)

/-- Records an option's value; `none` when the value is refused, or when the option may be given
once and was given already. -/
def Arguments.give (a : Arguments) (o : ProgramOption) (v : String) : Option Arguments :=
  match o with
  | .config => (setOnce? a.config v).map fun s => { a with config := s }
  | .document => (setOnce? a.document v).map fun s => { a with document := s }
  | .deployment => (setOnce? a.deployment v).map fun s => { a with deployment := s }
  | .state => (setOnce? a.state v).map fun s => { a with state := s }
  | .field => (keyValue? v).map fun kv => { a with fields := a.fields ++ [kv] }
  | .deposit => (keyValue? v).map fun kv => { a with deposits := a.deposits ++ [kv] }

/-- The option last read, while its value is outstanding. -/
inductive Pending where
  | clear
  | awaiting (o : ProgramOption)
  | unsettled (o : ProgramOption) (value : String)

def Arguments.settle (a : Arguments) : Pending → Option Arguments
  | .clear => some a
  | .awaiting _ => none
  | .unsettled o v => a.give o v

def looksLikeOption (arg : String) : Bool := arg.startsWith "-" && 1 < arg.length

def splitLong (body : String) : String × Option String :=
  match body.toList.span (· ≠ '=') with
  | (name, _ :: value) => (String.ofList name, some (String.ofList value))
  | (name, []) => (String.ofList name, none)

/-- A run the command line asks for, with everything it needs. -/
structure Launch where
  config : Option String
  document : String
  deployment : String
  state : Option String
  fields : List (String × String)
  deposits : List (String × String)
  command : Command

/-- What the command line asks for. -/
inductive Invocation where
  | help (text : String)
  | version
  | usageError
  | run (l : Launch)

def VerbOptions.salt (o : VerbOptions) : Salt := ⟨o.nonce.getD default, o.secret.getD default⟩

/-- The command a subcommand with its options stands for; `none` when a required option is
missing, or only one of nonce and secret is given. -/
def Verb.command? (v : Verb) (o : VerbOptions) : Option Command :=
  match v with
  | .describe => some .describe
  | .serialize => some .serialize
  | .deposits => some .deposits
  | .allowances => o.owner.map .allowances
  | .approvals => o.owner.map .approvals
  | .addOrder => if o.nonce.isSome == o.secret.isSome then some (.addOrder o.salt) else none
  | .multicall => if o.nonce.isSome == o.secret.isSome then some (.multicall o.salt) else none

/-- Checks that the required options were given and puts the run together. -/
def Arguments.launch (a : Arguments) (v : Verb) (o : VerbOptions) : Invocation :=
  match v.command? o, a.document, a.deployment with
  | some command, some document, some deployment =>
    .run ⟨a.config, document, deployment, a.state, a.fields, a.deposits, command⟩
  | _, _, _ => .usageError

def helpFor : List String → Invocation
  | [] => .help mainHelp
  | [name] =>
    match Verb.ofName? name with
    | some v => .help v.help
    | none => if name == "help" then .help helpHelp else .usageError
  | _ => .usageError

/-- Records a subcommand option's value; `none` when the option or value is refused, or the
option was given already. -/
def VerbOptions.give (o : VerbOptions) (v : Verb) (name value : String) : Option VerbOptions :=
  match name, v with
  | "owner", .allowances | "owner", .approvals => do
    let a ← Address.parse? value
    let s ← setOnce? o.owner a
    some { o with owner := s }
  | "nonce", .addOrder | "nonce", .multicall => do
    let n ← Fixed.parse? value
    let s ← setOnce? o.nonce n
    some { o with nonce := s }
  | "secret", .addOrder | "secret", .multicall => do
    let n ← Fixed.parse? value
    let s ← setOnce? o.secret n
    some { o with secret := s }
  | _, _ => none

/-- What a subcommand's arguments come to. -/
inductive VerbReading where
  | help (text : String)
  | refused
  | options (o : VerbOptions)

/-- Reads a subcommand's arguments; `pending` is an option still waiting for its value. A
lone `--` ends the options, and nothing may follow it. -/
def parseVerb (v : Verb) : List String → VerbOptions → Option String → VerbReading
  | [], _, some _ => .refused
  | [], o, none => .options o
  | arg :: rest, o, some name =>
    if looksLikeOption arg then .refused
    else
      match o.give v name arg with
      | some o => parseVerb v rest o none
      | none => .refused
  | arg :: rest, o, none =>
    if arg == "--" then (if rest.isEmpty then .options o else .refused)
    else if arg.startsWith "--" then
      let (name, attached) := splitLong (arg.drop 2).copy
      if name == "help" then (if attached.isSome then .refused else .help v.help)
      else
        match attached with
        | some value =>
          match o.give v name value with
          | some o => parseVerb v rest o none
          | none => .refused
        | none => parseVerb v rest o (some name)
    else if arg.startsWith "-h" then .help v.help
    else .refused

def shortValue : List Char → Option String
  | [] => none
  | '=' :: value => some (String.ofList value)
  | value => some (String.ofList value)

def Arguments.begin (a : Arguments) (p : Pending) (o : ProgramOption) (attached : Option String) :
    Option (Arguments × Pending) := do
  let a ← a.settle p
  match attached with
  | some value => return (← a.give o value, .clear)
  | none => return (a, .awaiting o)

/-- Reads the program's arguments up to the subcommand. An option waiting for its value takes the
next argument whatever it names, unless that reads as an option. The last option's value is
checked when the next option begins, or after the subcommand's arguments, so a help request
there comes first. -/
def parseProgram : List String → Arguments → Pending → Invocation
  | [], _, _ => .usageError
  | arg :: rest, a, p =>
    match p, looksLikeOption arg with
    | .awaiting o, false => parseProgram rest a (.unsettled o arg)
    | _, _ =>
      if arg == "--" then .usageError
      else if arg.startsWith "--" then
        let (name, attached) := splitLong (arg.drop 2).copy
        if name == "help" then
          if attached.isSome then .usageError
          else (a.settle p).elim .usageError fun _ => .help mainHelp
        else if name == "version" then
          if attached.isSome then .usageError
          else (a.settle p).elim .usageError fun _ => .version
        else
          match (ProgramOption.ofLong? name).bind (a.begin p · attached) with
          | some (a, p) => parseProgram rest a p
          | none => .usageError
      else if looksLikeOption arg then
        match arg.toList with
        | _ :: 'h' :: _ => (a.settle p).elim .usageError fun _ => .help mainHelp
        | _ :: 'V' :: _ => (a.settle p).elim .usageError fun _ => .version
        | _ :: c :: tail =>
          match (ProgramOption.ofShort? c).bind (a.begin p · (shortValue tail)) with
          | some (a, p) => parseProgram rest a p
          | none => .usageError
        | _ => .usageError
      else if arg == "help" then helpFor rest
      else
        match Verb.ofName? arg with
        | some v =>
          match parseVerb v rest {} none with
          | .help text => .help text
          | .refused => .usageError
          | .options o => (a.settle p).elim .usageError fun a => a.launch v o
        | none => .usageError

/-- Reads the command line. -/
def parseCommandLine (args : List String) : Invocation :=
  if args.isEmpty then .usageError else parseProgram args {} .clear

/-- What a run can see of its surroundings: files by path, and environment variables. -/
structure Surroundings where
  file : String → Option String
  env : String → Option String

def settingsVariable : String := "OBGUI_CONFIG"

def Launch.settingsPath (l : Launch) (s : Surroundings) : Option String :=
  l.config.orElse fun _ => s.env settingsVariable

def Launch.files (l : Launch) (s : Surroundings) : List String :=
  (l.settingsPath s).toList ++ [l.document]

/-- Why a run stopped. -/
inductive RunFailure where
  | documentUnreadable (path : String)
  | app (e : AppError)
  deriving Repr

/-- Does the run: settings, document, deployment, session, then the command. -/
def Launch.execute (l : Launch) (s : Surroundings) (r : Reader) :
    ExceptT RunFailure Reads Output := do
  let settings ← match l.settingsPath s with
    | none => pure {}
    | some path =>
      match s.file path with
      | none => throw (.app (.settings .unreadable))
      | some text => liftExcept ((Settings.ofText text).mapError .app)
  let some source := s.file l.document | throw (.documentUnreadable l.document)
  let app ← liftExcept ((Application.new settings source l.deployment l.state).mapError .app)
  let app ← liftExcept ((app.apply l.fields l.deposits).mapError .app)
  ExceptT.adapt RunFailure.app (app.runWith r l.command)
where
  liftExcept {α : Type} : Except RunFailure α → ExceptT RunFailure Reads α
    | .ok v => pure v
    | .error e => throw e

/-- What a finished run leaves: its exit status and what it printed. -/
structure Exit where
  code : Nat
  stdout : String
  deriving Repr, DecidableEq

/-- Runs the program on its arguments. -/
def runCommandLine (args : List String) (s : Surroundings) (r : Reader) : Reads Exit :=
  match parseCommandLine args with
  | .help text => pure ⟨0, text⟩
  | .version => pure ⟨0, versionText⟩
  | .usageError => pure ⟨2, ""⟩
  | .run l => do
    match ← (l.execute s r).run with
    | .ok out => pure ⟨0, out.text ++ "\n"⟩
    | .error _ => pure ⟨1, ""⟩

def filesRead (args : List String) (s : Surroundings) : List String :=
  match parseCommandLine args with
  | .run l => l.files s
  | _ => []

end StrategyDeploy.App
