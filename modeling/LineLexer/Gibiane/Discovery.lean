/-
Discovery of the outputs of a script.

A script exposes a result in one of these ways:

  * `MESS 'name=' name;` prints it to the console.
  * `OPTI SORT 'file';` followed by `SORT 'CHAI' name;` writes it to `file`.
  * `OPTI SORT 'file.csv';` followed by `SORT 'EXCE' tab;` writes the columns of `tab`.
    Their names come from the `tab . 'column' = …;` statements after `tab = TABLE;`, or
    failing that from `tab = EVOL MANU 'x' … 'y' …;` or `tab = EXTR … 'component';`.
  * `@EXCEL1 name 'file.csv';`, where the name of the file may also be assembled by
    `(CHAI …)` from strings and variables.

Command names compare without regard to case.  The declarations of a script are listed
kind by kind in that order, with a notice where one leads nowhere; the outputs are the
declarations recorded one after the other.
-/
import LineLexer.Gibiane.Output
import LineLexer.Gibiane.Statement

namespace LineLexer.Gibiane

/-- A declaration that leads nowhere. -/
inductive Notice where
  /-- No columns are known for a table that is written to a file. -/
  | noColumns (table file : Text)
  /-- The name of an output's file depends on a variable that is never assigned. -/
  | unresolvedName (output missing : Text)
deriving DecidableEq, Repr

/-- What a statement declares. -/
inductive Declaration where
  /-- An output. -/
  | output (name : Text) (source : OutputSource)
  /-- Nothing, for a reason worth a warning. -/
  | notice (notice : Notice)
deriving DecidableEq, Repr

/-! ### Printed names -/

/-- The name printed by `MESS 'name=' …;`. -/
def printedName? : Statement → Option Text
  | command :: .literal text :: _ =>
    let name := text.takeWhile isWordChar
    if command.isWord "MESS".toList && Text.isWord name &&
        Text.trim (text.dropWhile isWordChar) == ['='] then
      some name
    else none
  | _ => none

/-! ### What a name is assigned -/

/-- The right-hand side of `name = …;`. -/
def assigned? (name : Text) : Statement → Option Statement
  | target :: sign :: rest =>
    if target.isWord name && sign.isSymbol ['='] then some rest else none
  | _ => none

/-- The items of the first assignment to a variable, joined by spaces. -/
def valueOf? (statements : List Statement) (name : Text) : Option Text :=
  match statements.findSome? (assigned? name) with
  | some (item :: rest) => some ([' '].intercalate ((item :: rest).map Item.text))
  | _ => none

/-! ### Written tables -/

/-- The field named by `name . 'field' = …;`. -/
def tableField? (name : Text) : Statement → Option Text
  | target :: dot :: .literal field :: sign :: _ =>
    if target.isWord name && dot.isSymbol ['.'] && sign.isSymbol ['='] &&
        Text.isWord (Text.trimEnd field) then
      some (Text.trimEnd field)
    else none
  | _ => none

/-- Whether the statement is `name = TABLE;`. -/
def declaresTable (name : Text) : Statement → Bool
  | [target, sign, value] =>
    target.isWord name && sign.isSymbol ['='] && value.isWord "TABLE".toList
  | _ => false

/-- The fields assigned after the table was declared. -/
def fieldColumns (statements : List Statement) (name : Text) : List Text :=
  ((statements.dropWhile (!declaresTable name ·)).drop 1).filterMap (tableField? name)

/-- The columns of `EVOL MANU 'x' … 'y' …` and of `EXTR … 'component'`, when assigned to `name`. -/
def expressionColumns? (name : Text) (value : Statement) : Option (List Text) :=
  let titles (items : Statement) := items.filterMap Item.literal?
  match value with
  | first :: rest =>
    let manual := match rest with
      | second :: rest =>
        if first.isWord "EVOL".toList && second.isWord "MANU".toList && (titles rest).length == 2
        then some (titles rest) else none
      | [] => none
    match manual with
    | some columns => some columns
    | none =>
      if first.isWord "EXTR".toList && (titles value).length == 1 then some [name] else none
  | [] => none

/-- The names of the columns of a table that is written to a file. -/
def tableColumns (statements : List Statement) (name : Text) : List Text :=
  match fieldColumns statements name with
  | [] =>
    (statements.findSome? fun statement =>
      (assigned? name statement).bind (expressionColumns? name)).getD []
  | columns => columns

/-! ### Sorted outputs -/

/-- How `SORT` writes a variable. -/
inductive SortKind where
  /-- As text. -/
  | chain
  /-- As columns. -/
  | excel
deriving DecidableEq, Repr

/-- The kind a keyword names. -/
def sortKind? (keyword : Text) : Option SortKind :=
  if Text.eqIgnoreCase keyword "EXCE".toList || Text.eqIgnoreCase keyword "EXCEL".toList then
    some .excel
  else if Text.eqIgnoreCase keyword "CHAI".toList || Text.eqIgnoreCase keyword "CHAINE".toList then
    some .chain
  else none

/-- A name of words and dots, and not empty. -/
def isFileName (name : Text) : Bool :=
  name ≠ [] && (name.splitOn '.').all fun part => part.isEmpty || Text.isWord part

/-- The file named by `OPTI SORT 'file';`. -/
def sortFile? : Statement → Option Text
  | [first, second, .literal file] =>
    if first.isWord "OPTI".toList && second.isWord "SORT".toList && isFileName file then some file
    else none
  | _ => none

/-- The kind and variable of `SORT 'kind' name;`. -/
def sortTarget? : Statement → Option (SortKind × Text)
  | [command, .literal kind, .word name] =>
    if command.isWord "SORT".toList && Text.isWord name then (sortKind? kind).map (·, name)
    else none
  | _ => none

/-- What is declared by writing a variable to a file. -/
def sortDeclarations (statements : List Statement) (kind : SortKind) (name file : Text) :
    List Declaration :=
  match kind with
  | .chain => [.output name (.file file)]
  | .excel =>
    match tableColumns statements name with
    | [] => [.notice (.noColumns name file)]
    | columns => columns.map (.output · (.file file))

/-- The declarations of neighbouring statements `OPTI SORT …;` and `SORT …;`. -/
def sortOutputs (statements : List Statement) : List Statement → List Declaration
  | first :: second :: rest =>
    (match sortFile? first, sortTarget? second with
      | some file, some (kind, name) => sortDeclarations statements kind name file
      | _, _ => []) ++ sortOutputs statements (second :: rest)
  | _ => []

/-! ### Spreadsheet outputs -/

/-- The name assembled from strings and variables up to a closing bracket: a text, or the variable
that is never assigned, or nothing where a symbol stands. -/
def assemble (statements : List Statement) : List Item → Option (Except Text Text)
  | [] => some (.ok [])
  | .literal text :: rest => (assemble statements rest).map (·.map (text ++ ·))
  | .word name :: rest =>
    match valueOf? statements name with
    | some value => (assemble statements rest).map (·.map (value ++ ·))
    | none => some (.error name)
  | .symbol _ :: _ => none

/-- The declaration of `@EXCEL1 name …;`. -/
def excelOutput? (statements : List Statement) : Statement → Option Declaration
  | command :: .word name :: place =>
    if !(command.isWord "@EXCEL1".toList && Text.isWord name) then none
    else match place with
      | .literal file :: _ =>
        if ".csv".toList.isSuffixOf file && Text.isWord (file.take (file.length - 4)) then
          some (.output name (.file file))
        else none
      | bracket :: chain :: parts =>
        if bracket.isSymbol ['('] &&
            (chain.isWord "CHAI".toList || chain.isWord "CHAINE".toList) then
          (assemble statements (parts.takeWhile (!·.isSymbol [')']))).map fun
            | .ok file => .output name (.file file)
            | .error missing => .notice (.unresolvedName name missing)
        else none
      | _ => none
  | _ => none

/-! ### All declarations -/

/-- The declarations of a script, kind by kind. -/
def declarations (statements : List Statement) : List Declaration :=
  (statements.filterMap printedName?).map (.output · .console) ++
    sortOutputs statements statements ++ statements.filterMap (excelOutput? statements)

/-- The outputs among declarations. -/
def outputsOf (declarations : List Declaration) : List Output :=
  declarations.foldl
    (fun outputs declaration => match declaration with
      | .output name source => record outputs name source
      | .notice _ => outputs)
    []

/-- The notices among declarations. -/
def noticesOf (declarations : List Declaration) : List Notice :=
  declarations.filterMap fun
    | .output _ _ => none
    | .notice notice => some notice

/-- The outputs of a lexed script: names in the order of their first declaration in the list, each
with the source of its last. -/
def discover {n : Nat} (document : Document n) : List Output :=
  outputsOf (declarations (statements document))

/-- The notices of a lexed script. -/
def notices {n : Nat} (document : Document n) : List Notice :=
  noticesOf (declarations (statements document))

end LineLexer.Gibiane
