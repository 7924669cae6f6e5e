import CloudInventory.Report
import CloudInventory.Text.Digit

/-! The options of the command line, and the reading of the arguments. They are read from left to
right; the first that is wrong ends the reading, and so does a demand for help or the version. -/

namespace CloudInventory

inductive LogLevel where
  | off
  | error
  | warn
  | info
  | debug
  | trace
deriving DecidableEq, Repr

namespace LogLevel

def all : List LogLevel := [.off, .error, .warn, .info, .debug, .trace]

def name : LogLevel → String
  | .off => "off"
  | .error => "error"
  | .warn => "warn"
  | .info => "info"
  | .debug => "debug"
  | .trace => "trace"

def ofName? (name : String) : Option LogLevel := all.find? fun l => l.name == name

end LogLevel

structure Options where
  project : Option String := none
  parallelism : Option UInt64 := none
  exclude : List String := []
  only : List String := []
  output : Option ReportFormat := none
  logLevel : Option LogLevel := none
  apiRoot : Option String := none
  saveConfig : Bool := false
  listTypes : Bool := false
deriving DecidableEq, Repr

namespace Options

inductive Key where
  | project
  | parallelism
  | exclude
  | only
  | output
  | logLevel
  | apiRoot
  | saveConfig
  | listTypes
  | help
  | version
deriving DecidableEq, Repr

namespace Key

def all : List Key :=
  [.project, .parallelism, .exclude, .only, .output, .logLevel, .apiRoot, .saveConfig, .listTypes,
    .help, .version]

def name : Key → String
  | .project => "project"
  | .parallelism => "parallelism"
  | .exclude => "exclude"
  | .only => "only"
  | .output => "output"
  | .logLevel => "log-level"
  | .apiRoot => "api-root"
  | .saveConfig => "save-config"
  | .listTypes => "list-types"
  | .help => "help"
  | .version => "version"

def letter? : Key → Option Char
  | .project => some 'p'
  | .output => some 'o'
  | .help => some 'h'
  | .version => some 'V'
  | _ => none

def takesValue : Key → Bool
  | .saveConfig | .listTypes | .help | .version => false
  | _ => true

def ofName? (name : String) : Option Key := all.find? fun k => k.name == name

def ofLetter? (c : Char) : Option Key := all.find? fun k => k.letter? == some c

end Key

inductive Fault where
  | unexpected (argument : String)
  | noValue (key : Key)
  | unneededValue (key : Key)
  | wrongValue (key : Key) (value : String)
  | repeated (key : Key)
deriving DecidableEq, Repr

/-- A decimal number that fits a word; a plus sign may stand before it. -/
def readCount? (value : String) : Option UInt64 :=
  let ds := match value.toList with
    | '+' :: ds => ds
    | ds => ds
  ((Text.naturalIn? 10 ds).filter (· < 1 <<< 64)).map UInt64.ofNat

def once (key : Key) (old new : Option α) (value : String) : Except Fault (Option α) :=
  match old, new with
  | some _, _ => .error (.repeated key)
  | none, none => .error (.wrongValue key value)
  | none, some a => .ok (some a)

def take (key : Key) (value : String) (o : Options) : Except Fault Options :=
  match key with
  | .project => (once key o.project (some value) value).map fun project => { o with project }
  | .parallelism =>
    (once key o.parallelism (readCount? value) value).map fun parallelism => { o with parallelism }
  | .exclude => .ok { o with exclude := o.exclude ++ [value] }
  | .only => .ok { o with only := o.only ++ [value] }
  | .output =>
    (once key o.output (ReportFormat.ofName? value) value).map fun output => { o with output }
  | .logLevel =>
    (once key o.logLevel (LogLevel.ofName? value) value).map fun logLevel => { o with logLevel }
  | .apiRoot => (once key o.apiRoot (some value) value).map fun apiRoot => { o with apiRoot }
  | _ => .error (.unneededValue key)

inductive Demand where
  | run (options : Options)
  | help
  | version
deriving DecidableEq, Repr

/-- Takes an option that stands alone; a demand ends the reading. -/
def takeFlag (key : Key) (o : Options) : Except Fault (Options ⊕ Demand) :=
  match key with
  | .saveConfig =>
    if o.saveConfig then .error (.repeated key) else .ok (.inl { o with saveConfig := true })
  | .listTypes =>
    if o.listTypes then .error (.repeated key) else .ok (.inl { o with listTypes := true })
  | .help => .ok (.inr .help)
  | .version => .ok (.inr .version)
  | _ => .error (.noValue key)

inductive Word where
  | option (key : Key) (value : Option String)
  /-- Nothing but values follows. -/
  | separator
  /-- No option at all. -/
  | plain
  | unknown

/-- A short option carries its value behind the letter, with an equals sign or without; behind one
that takes no value nothing is looked at. -/
def shortWord (c : Char) (attached : List Char) : Word :=
  match Key.ofLetter? c with
  | none => .unknown
  | some key =>
    if !key.takesValue then .option key none
    else match attached with
      | [] => .option key none
      | '=' :: value => .option key (some (String.ofList value))
      | value => .option key (some (String.ofList value))

def longWord (cs : List Char) : Word :=
  let (name, value) : List Char × Option String :=
    match Text.splitOnce '=' cs with
    | some (name, value) => (name, some (String.ofList value))
    | none => (cs, none)
  match Key.ofName? (String.ofList name) with
  | none => .unknown
  | some key => .option key value

def wordOf (argument : String) : Word :=
  match argument.toList with
  | ['-', '-'] => .separator
  | '-' :: '-' :: cs => longWord cs
  | '-' :: c :: cs => shortWord c cs
  | _ => .plain

def isPlain (argument : String) : Bool := (wordOf argument) matches .plain

def readFrom (o : Options) : List String → Except Fault Demand
  | [] => .ok (.run o)
  | argument :: rest =>
    match wordOf argument with
    | .plain | .unknown => .error (.unexpected argument)
    | .separator =>
      match rest with
      | [] => .ok (.run o)
      | other :: _ => .error (.unexpected other)
    | .option key (some value) =>
      match take key value o with
      | .error fault => .error fault
      | .ok o => readFrom o rest
    | .option key none =>
      if key.takesValue then
        match rest with
        | [] => .error (.noValue key)
        | value :: rest =>
          if isPlain value then
            match take key value o with
            | .error fault => .error fault
            | .ok o => readFrom o rest
          else .error (.noValue key)
      else
        match takeFlag key o with
        | .error fault => .error fault
        | .ok (.inr demand) => .ok demand
        | .ok (.inl o) => readFrom o rest

def read (arguments : List String) : Except Fault Demand := readFrom {} arguments

end Options

end CloudInventory
