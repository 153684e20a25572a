/-
Reading the values of outputs back from a finished run.

  * Printed outputs are looked up in the console file.
  * Outputs written to a plain file are the one number it holds.
  * Outputs written to a column file are one of its columns, found by the header, or the
    whole file when the first cell is a number and there is no header.

In a column file each line that is not blank is a row, and semicolons separate its
cells.  Blanks around a cell and then quotes around it are not part of it.  Rows that
are too short are padded with empty cells, and a column without any text is left out.

A value that cannot be found is reported with the reason, so that one missing file does
not hide the other results.
-/
import LineLexer.Files.FileTree
import LineLexer.Gibiane.Console
import LineLexer.Gibiane.Output
import LineLexer.Numeral.Layout

namespace LineLexer.Gibiane

/-- Why no value could be read. -/
inductive MissingReason where
  /-- The file is not there or cannot be read. -/
  | noFile (file : Text)
  /-- The console file has no value under the name. -/
  | noValue (name : Text)
  /-- The file is not one number. -/
  | noNumber (file : Text)
  /-- The file has no cell with text. -/
  | noCells (file : Text)
  /-- The file has no column for the name. -/
  | noColumn (name file : Text)
deriving DecidableEq, Repr

/-- The text between single quotes. -/
def inQuotes (t : Text) : Text := '\'' :: t ++ ['\'']

/-- The text shown for a missing value. -/
def MissingReason.message : MissingReason → Text
  | noFile file => "missing output file ".toList ++ inQuotes file
  | noValue name => "no value for ".toList ++ inQuotes name ++ " in ".toList ++ inQuotes consoleFile
  | noNumber file => "cannot parse the content of ".toList ++ inQuotes file
  | noCells file => inQuotes file ++ " is empty".toList
  | noColumn name file => "no column ".toList ++ inQuotes name ++ " in ".toList ++ inQuotes file

/-- The value of an output. -/
inductive OutputValue where
  /-- One number. -/
  | scalar (value : Binary64)
  /-- One column, without its header. -/
  | column (values : List Binary64)
  /-- Every column of a file without headers. -/
  | table (columns : List (List Binary64))
  /-- Nothing, for a reason. -/
  | missing (reason : MissingReason)
deriving DecidableEq, Repr

/-- A list between square brackets. -/
def bracketed (items : List Text) : Text := '[' :: [',', ' '].intercalate items ++ [']']

/-- The text shown for a value. -/
def OutputValue.render : OutputValue → Text
  | scalar value => value.plain
  | column values => bracketed (values.map Binary64.marked)
  | table columns => bracketed (columns.map fun values => bracketed (values.map Binary64.marked))
  | missing reason => "missing: ".toList ++ reason.message

/-! ### Columns -/

/-- The cells of a row. -/
def cells (line : Text) : List Text :=
  (line.splitOn ';').map fun cell => Text.trimChar '"' (Text.trim cell)

/-- The rows of a file. -/
def rows (text : Text) : List (List Text) :=
  (text.lines.filter fun line => !line.allBlank).map cells

/-- The columns of a file, each from the top down. -/
def readColumns (text : Text) : List (List Text) :=
  let rows := rows text
  let width := rows.foldl (fun width row => max width row.length) 0
  ((List.range width).map fun i => rows.map fun row => (row[i]?).getD []).filter fun column =>
    column.any (· ≠ [])

/-! ### Values in files -/

/-- The value printed under a name. -/
def consoleValue (text name : Text) : OutputValue :=
  match lookForScalar text name with
  | some value => .scalar value
  | none => .missing (.noValue name)

/-- The number a plain file holds. -/
def fileValue (text file : Text) : OutputValue :=
  match Binary64.read? text.trim with
  | some value => .scalar value
  | none => .missing (.noNumber file)

/-- The numbers of cells; a cell that is none reads as such. -/
def numbers (cells : List Text) : List Binary64 :=
  cells.map fun cell => (Binary64.read? cell).getD .notANumber

/-- Whether a text holds another. -/
def holds (t part : Text) : Bool :=
  part.isPrefixOf t || match t with
    | [] => false
    | _ :: rest => holds rest part

/-- Whether a header stands for a name: it holds the name, or the name begins with it. -/
def headerFits (name header : Text) : Bool :=
  header ≠ [] && (holds header name || header.isPrefixOf name)

/-- The first column whose header stands for a name, without the header. -/
def columnFor? (name : Text) (columns : List (List Text)) : Option (List Text) :=
  columns.findSome? fun
    | header :: cells => if headerFits name header then some cells else none
    | [] => none

/-- The column of a name in a column file, or the whole file. -/
def csvValue (text name file : Text) : OutputValue :=
  let columns := readColumns text
  match columns.head?.bind List.head? with
  | none => .missing (.noCells file)
  | some first =>
    if (Binary64.read? first).isSome then .table (columns.map numbers)
    else match columnFor? name columns with
      | some cells => .column (numbers cells)
      | none => .missing (.noColumn name file)

/-! ### Values of a run -/

/-- The value of an output in a run directory; none for a printed output when the run has no console
file. -/
def outputValue? (run : Text → Entry) (output : Output) : Option OutputValue :=
  match output.source with
  | .console => (run consoleFile).text?.map (consoleValue · output.name)
  | .file file =>
    match (run file).text? with
    | none => some (.missing (.noFile file))
    | some text =>
      some (if output.source.isCsv then csvValue text output.name file else fileValue text file)

/-- The values of outputs in a run directory, in the order of the outputs. -/
def readResults (run : Text → Entry) (outputs : List Output) : List (Text × OutputValue) :=
  outputs.filterMap fun output => (outputValue? run output).map (output.name, ·)

end LineLexer.Gibiane
