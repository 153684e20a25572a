/-
The options of the command line.

Arguments are taken from left to right.  A switch may be bundled with others behind one
dash.  An option takes the text after its equals sign, or else the next argument unless
that begins an option of its own; then it stays without a value, which is an error only
for the last one.  What an option was given is checked when all arguments are known.
-/
import LineLexer.Category
import LineLexer.Text.Basic

namespace LineLexer

/-- When diagnostics are coloured. -/
inductive ColorMode where
  /-- When they go to a terminal. -/
  | auto
  /-- Always. -/
  | always
  /-- Never. -/
  | never
deriving DecidableEq, Repr

/-- The word that asks for a colour mode. -/
def ColorMode.name : ColorMode → String
  | auto => "auto"
  | always => "always"
  | never => "never"

/-- The colour mode a word asks for. -/
def ColorMode.ofName? (name : Text) : Option ColorMode :=
  [auto, always, never].find? fun mode => mode.name.toList == name

/-- What the command line asks for. -/
structure Options where
  /-- The file to read, or `STDIN` for the standard input. -/
  inFile : Text
  /-- Whether adjacent tokens of one category are merged. -/
  coalesce : Bool
  /-- The categories to print; all if none is named. -/
  only : List Category
  /-- The beginning whose completions to print instead of lexing. -/
  complete : Option Text
  /-- Whether counts are reported. -/
  stats : Bool
  /-- Whether the declared outputs are printed instead of the tokens. -/
  outputs : Bool
  /-- The run directory whose values are printed instead of the tokens. -/
  results : Option Text
  /-- When diagnostics are coloured. -/
  color : ColorMode
deriving DecidableEq, Repr

/-- Why the arguments ask for nothing. -/
inductive ArgumentError where
  /-- No option has the name, or there is a file already. -/
  | unknownArgument (argument : Text)
  /-- An option at the end has no value. -/
  | missingValue (option : String)
  /-- A value is not among those the option allows. -/
  | forbiddenValue (value : Text)
  /-- A value is no category. -/
  | unknownCategory (e : UnknownCategory)
  /-- An option that may be given once is given again. -/
  | repeatedOption (option : String)
  /-- Help is asked for. -/
  | helpWanted
  /-- The version is asked for. -/
  | versionWanted
deriving DecidableEq, Repr

namespace Options

/-- The name of the standard input. -/
def standardInput : Text := "STDIN".toList

/-- Whether the standard input is read. -/
def readsStdin (options : Options) : Bool := options.inFile == standardInput

/-- Whether tokens of a category are printed. -/
def shows (options : Options) (category : Category) : Bool :=
  options.only.isEmpty || options.only.contains category

/-! ### Names -/

/-- Options without a value. -/
inductive Switch where
  /-- Merge adjacent tokens. -/
  | coalesce
  /-- Report counts. -/
  | stats
  /-- Print the declared outputs. -/
  | outputs
  /-- Print help. -/
  | help
  /-- Print the version. -/
  | version
deriving DecidableEq, Repr

/-- Options with a value. -/
inductive Setting where
  /-- A category to print. -/
  | only
  /-- A beginning to complete. -/
  | complete
  /-- A run directory. -/
  | results
  /-- A colour mode. -/
  | color
deriving DecidableEq, Repr

/-- The long name of a switch. -/
def Switch.name : Switch → String
  | coalesce => "coalesce"
  | stats => "stats"
  | outputs => "outputs"
  | help => "help"
  | version => "version"

/-- The switch with a letter. -/
def Switch.ofLetter? : Char → Option Switch
  | 'c' => some coalesce
  | 's' => some stats
  | 'h' => some help
  | 'V' => some version
  | _ => none

/-- The switch with a long name. -/
def Switch.ofName? (name : Text) : Option Switch :=
  [coalesce, stats, outputs, help, version].find? fun s => s.name.toList == name

/-- The long name of a setting. -/
def Setting.name : Setting → String
  | only => "only"
  | complete => "complete"
  | results => "results"
  | color => "color"

/-- The setting with a long name. -/
def Setting.ofName? (name : Text) : Option Setting :=
  [only, complete, results, color].find? fun s => s.name.toList == name

/-- Whether a setting has a value when none is given. -/
def Setting.hasDefault (setting : Setting) : Bool := setting = .color

/-- Whether a setting may be given more than once. -/
def Setting.repeatable (setting : Setting) : Bool := setting = .only

/-! ### Taking arguments -/

/-- What the arguments taken so far gave. -/
structure Taken where
  /-- The switches, as often as they were given. -/
  switches : List Switch
  /-- The settings, as often as they were given. -/
  settings : List Setting
  /-- The values of settings, in order. -/
  values : List (Setting × Text)
  /-- The file. -/
  file : Option Text
  /-- The setting that takes the next argument, if that begins no option. -/
  pending : Option Setting
  /-- Whether the options are over. -/
  trailing : Bool
deriving DecidableEq, Repr

namespace Taken

/-- Nothing taken. -/
def empty : Taken := ⟨[], [], [], none, none, false⟩

/-- The values of a setting, in order. -/
def valuesOf (taken : Taken) (setting : Setting) : List Text :=
  (taken.values.filter (·.1 = setting)).map (·.2)

/-- Takes a switch; help and version end the matter. -/
def switch (taken : Taken) (s : Switch) : Except ArgumentError Taken :=
  match s with
  | .help => .error .helpWanted
  | .version => .error .versionWanted
  | s => .ok { taken with switches := taken.switches ++ [s], pending := none }

/-- Takes a bundle of letters. -/
def letters (taken : Taken) : Text → Except ArgumentError Taken
  | [] => .ok taken
  | c :: rest =>
    match Switch.ofLetter? c with
    | some s => (taken.switch s).bind (·.letters rest)
    | none => .error (.unknownArgument ['-', c])

/-- Takes a long option, with its value if it has an equals sign. -/
def long (taken : Taken) (argument : Text) : Except ArgumentError Taken :=
  let bare := argument.dropWhile (· == '-')
  let name := bare.takeWhile (· ≠ '=')
  let value := if bare.contains '=' then some ((bare.drop name.length).dropWhile (· == '='))
    else none
  match Setting.ofName? name with
  | some setting =>
    .ok { taken with
      settings := taken.settings ++ [setting]
      values := taken.values ++ (value.map (setting, ·)).toList
      pending := if value.isSome then none else some setting }
  | none =>
    match Switch.ofName? name with
    | some s => taken.switch s
    | none => .error (.unknownArgument argument)

/-- Takes a file; there is room for one. -/
def positional (taken : Taken) (argument : Text) : Except ArgumentError Taken :=
  match taken.file with
  | none => .ok { taken with file := some argument }
  | some _ => .error (.unknownArgument argument)

/-- Takes an argument. -/
def add (taken : Taken) (argument : Text) : Except ArgumentError Taken :=
  if taken.trailing then taken.positional argument
  else match argument with
    | ['-', '-'] => .ok { taken with trailing := true }
    | '-' :: '-' :: _ => taken.long argument
    | '-' :: c :: rest => taken.letters (c :: rest)
    | value =>
      match taken.pending with
      | some setting =>
        .ok { taken with values := taken.values ++ [(setting, value)], pending := none }
      | none => taken.positional value

/-- Refuses a setting at the end that has no value at all. -/
def checkPending (taken : Taken) : Except ArgumentError Unit :=
  match taken.pending with
  | some setting =>
    if (taken.valuesOf setting).isEmpty && !setting.hasDefault then
      .error (.missingValue setting.name)
    else .ok ()
  | none => .ok ()

/-- The colour mode asked for last. -/
def colorMode (taken : Taken) : Except ArgumentError ColorMode := do
  let modes ← (taken.valuesOf .color).mapM fun value =>
    match ColorMode.ofName? value with
    | some mode => .ok mode
    | none => .error (.forbiddenValue value)
  return modes.head?.getD .auto

/-- The categories asked for. -/
def categories (taken : Taken) : Except ArgumentError (List Category) :=
  (taken.valuesOf .only).mapM fun value =>
    (Category.parse (String.ofList value)).mapError .unknownCategory

/-- The first option that is given again and may not be. -/
def repeated? (taken : Taken) : Option String :=
  let names := taken.switches.map Switch.name ++
    (taken.settings.filter (!·.repeatable)).map Setting.name
  names.find? fun name => 1 < names.count name

end Taken

/-- Reads the arguments after the name of the program. -/
def parse (arguments : List Text) : Except ArgumentError Options := do
  let taken ← arguments.foldlM Taken.add .empty
  taken.checkPending
  let color ← taken.colorMode
  let only ← taken.categories
  match taken.repeated? with
  | some name => .error (.repeatedOption name)
  | none =>
    return {
      inFile := taken.file.getD standardInput
      coalesce := taken.switches.contains .coalesce
      only
      complete := (taken.valuesOf .complete).head?
      stats := taken.switches.contains .stats
      outputs := taken.switches.contains .outputs
      results := (taken.valuesOf .results).head?
      color }

end Options

end LineLexer
