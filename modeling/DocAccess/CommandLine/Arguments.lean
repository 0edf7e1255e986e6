import DocAccess.Generate.Config

/-!
# Arguments of the command line

Every setting is an option with a value, given as the next argument or behind an equals sign.  An
option that is not given may be set by a variable of the environment.  No option is given twice,
and a switch has no value.
-/

namespace DocAccess.CommandLine

open DocAccess.Generate

/-- An option with a value. -/
inductive ValueOption where
  | modelsDir
  | outFile
  | modelsModule
  | runtimeCrate
  | factoryName
  | clientType
  | typeAlias
  deriving DecidableEq, Repr

/-- An option without a value. -/
inductive Switch where
  | noTypeAlias
  /-- Compares the output instead of writing it. -/
  | check
  deriving DecidableEq, Repr

/-- Why arguments cannot be used. -/
inductive UsageError where
  | unknownArgument (text : String)
  | missingValue (name : String)
  | unexpectedValue (name : String)
  | invalidValue (name value : String)
  | repeated (name : String)
  /-- Two options that exclude each other are given. -/
  | conflict (first second : String)
  deriving DecidableEq, Repr

/-- What the arguments ask for. -/
inductive Command where
  | help
  | version
  | generate (c : Config)
  | check (c : Config)
  deriving DecidableEq, Repr

/-! ### Names -/

/-- The name of an option. -/
def ValueOption.name : ValueOption → String
  | modelsDir => "models-dir"
  | outFile => "out-file"
  | modelsModule => "models-module"
  | runtimeCrate => "runtime-crate"
  | factoryName => "factory-name"
  | clientType => "client-type"
  | typeAlias => "type-alias"

/-- Every option with a value. -/
def ValueOption.all : List ValueOption :=
  [.modelsDir, .outFile, .modelsModule, .runtimeCrate, .factoryName, .clientType, .typeAlias]

/-- The variable of the environment that sets an option. -/
def ValueOption.variable : ValueOption → String
  | modelsDir => "DOCSTORE_MODELS_DIR"
  | outFile => "DOCSTORE_OUT_FILE"
  | modelsModule => "DOCSTORE_MODELS_MODULE"
  | runtimeCrate => "DOCSTORE_RUNTIME_CRATE"
  | factoryName => "DOCSTORE_FACTORY_NAME"
  | clientType => "DOCSTORE_CLIENT_TYPE"
  | typeAlias => "DOCSTORE_TYPE_ALIAS"

/-- The variable of the environment that leaves out the other name of the client. -/
def noTypeAliasVariable : String := "DOCSTORE_NO_TYPE_ALIAS"

/-- The option of a name. -/
def ValueOption.ofName? (name : String) : Option ValueOption :=
  if name = "out" then some .outFile else all.find? (·.name == name)

/-- The name of a switch. -/
def Switch.name : Switch → String
  | noTypeAlias => "no-type-alias"
  | check => "check"

/-- The switch of a name. -/
def Switch.ofName? (name : String) : Option Switch := [noTypeAlias, check].find? (·.name == name)

/-- Whether an option may have a value: a path is not empty. -/
def ValueOption.admits (value : String) : ValueOption → Bool
  | modelsDir | outFile => !value.isEmpty
  | _ => true

/-! ### Arguments -/

/-- The options given. -/
structure Given where
  values : List (ValueOption × String)
  /-- Switches and whether they are on. -/
  switches : List (Switch × Bool)
  deriving DecidableEq, Repr

/-- Why reading stops. -/
inductive Stop where
  | help
  | version
  | usage (e : UsageError)
  deriving DecidableEq, Repr

/-- The form of an argument. -/
inductive Form where
  /-- Two hyphens, behind which there are no options. -/
  | divider
  | long (name : String) (value : Option String)
  /-- Letters behind a hyphen. -/
  | short (letters : List Char)
  | plain
  deriving DecidableEq, Repr

/-- The form of an argument. -/
def formOf (argument : String) : Form :=
  match argument.toList with
  | ['-', '-'] => .divider
  | '-' :: '-' :: rest =>
      let name := String.ofList (rest.takeWhile (· != '='))
      match rest.dropWhile (· != '=') with
      | [] => .long name none
      | _ :: value => .long name (some (String.ofList value))
  | '-' :: c :: rest => .short (c :: rest)
  | _ => .plain

namespace Given

/-- No options. -/
def none : Given := ⟨[], []⟩

/-- Adds an option with its value. -/
def addValue (g : Given) (o : ValueOption) (value : String) : Except UsageError Given :=
  if (g.values.lookup o).isSome then .error (.repeated o.name)
  else if o.admits value then .ok { g with values := (o, value) :: g.values }
  else .error (.invalidValue o.name value)

/-- Turns on a switch. -/
def addSwitch (g : Given) (s : Switch) : Except UsageError Given :=
  if (g.switches.lookup s).isSome then .error (.repeated s.name)
  else .ok { g with switches := (s, true) :: g.switches }

/-- Adds a switch, or stops at one that asks for information. -/
def addNamed (g : Given) (name : String) (value : Option String) : Except Stop Given :=
  match Switch.ofName? name with
  | some s =>
      if value.isSome then .error (.usage (.unexpectedValue name))
      else (g.addSwitch s).mapError .usage
  | .none =>
      if name = "help" || name = "version" then
        if value.isSome then .error (.usage (.unexpectedValue name))
        else .error (if name = "help" then .help else .version)
      else .error (.usage (.unknownArgument ("--" ++ name)))

/-- What letters behind a hyphen ask for. -/
def stopAt : List Char → Stop
  | 'V' :: _ => .version
  | 'h' :: _ => .help
  | letters => .usage (.unknownArgument (String.ofList ('-' :: letters)))

/-- Adds the options of arguments. -/
def addAll (g : Given) : List String → Except Stop Given
  | [] => .ok g
  | argument :: rest =>
      match formOf argument with
      | .divider =>
          match rest with
          | [] => .ok g
          | extra :: _ => .error (.usage (.unknownArgument extra))
      | .plain => .error (.usage (.unknownArgument argument))
      | .short letters => .error (stopAt letters)
      | .long name value =>
          match ValueOption.ofName? name with
          | .none =>
              match g.addNamed name value with
              | .ok g => g.addAll rest
              | .error stop => .error stop
          | some o =>
              match value, rest with
              | some value, rest =>
                  match g.addValue o value with
                  | .ok g => g.addAll rest
                  | .error e => .error (.usage e)
              -- what follows is the value, unless it looks like an option
              | .none, next :: rest =>
                  if formOf next = .plain then
                    match g.addValue o next with
                    | .ok g => g.addAll rest
                    | .error e => .error (.usage e)
                  else .error (.usage (.missingValue o.name))
              | .none, [] => .error (.usage (.missingValue o.name))

/-! ### The environment -/

/-- Adds an option that the environment sets, unless it is given. -/
def addVariable (environment : String → Option String) (g : Given) (o : ValueOption) :
    Except UsageError Given :=
  if (g.values.lookup o).isSome then .ok g
  else
    match environment o.variable with
    | some value => g.addValue o value
    | .none => .ok g

/-- Adds the switch that the environment sets, unless it is given. -/
def addSwitchVariable (environment : String → Option String) (g : Given) :
    Except UsageError Given :=
  if (g.switches.lookup .noTypeAlias).isSome then .ok g
  else
    match environment noTypeAliasVariable with
    | some "true" => .ok { g with switches := (.noTypeAlias, true) :: g.switches }
    | some "false" => .ok { g with switches := (.noTypeAlias, false) :: g.switches }
    | some value => .error (.invalidValue Switch.noTypeAlias.name value)
    | .none => .ok g

/-- Adds all that the environment sets. -/
def addEnvironment (environment : String → Option String) (g : Given) : Except UsageError Given := do
  addSwitchVariable environment (← ValueOption.all.foldlM (addVariable environment) g)

/-- Refuses a name for the client together with the wish for none, even one that is off. -/
def checkConflicts (g : Given) : Except UsageError Unit :=
  if (g.values.lookup .typeAlias).isSome && (g.switches.lookup .noTypeAlias).isSome then
    .error (.conflict ValueOption.typeAlias.name Switch.noTypeAlias.name)
  else .ok ()

/-! ### Settings -/

/-- The value of an option, if it is given. -/
def valueOf (g : Given) (o : ValueOption) (otherwise : String) : String :=
  (g.values.lookup o).getD otherwise

/-- Whether a switch is on. -/
def isOn (g : Given) (s : Switch) : Bool := (g.switches.lookup s).getD false

/-- The settings that options give. -/
def config (g : Given) : Config where
  modelsDir := g.valueOf .modelsDir Config.default.modelsDir
  outFile := g.valueOf .outFile Config.default.outFile
  modelsModule := g.valueOf .modelsModule Config.default.modelsModule
  runtimeCrate := g.valueOf .runtimeCrate Config.default.runtimeCrate
  factoryName := g.valueOf .factoryName Config.default.factoryName
  clientType := g.valueOf .clientType Config.default.clientType
  typeAlias :=
    if g.isOn .noTypeAlias then .none
    else ((g.values.lookup .typeAlias) <|> Config.default.typeAlias)

end Given

/-- What arguments ask for in an environment. -/
def Command.ofArguments (environment : String → Option String) (arguments : List String) :
    Except UsageError Command :=
  match Given.none.addAll arguments with
  | .error .help => .ok .help
  | .error .version => .ok .version
  | .error (.usage e) => .error e
  | .ok g => do
      let g ← g.addEnvironment environment
      g.checkConflicts
      return if g.isOn .check then .check g.config else .generate g.config

end DocAccess.CommandLine
