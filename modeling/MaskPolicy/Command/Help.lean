import MaskPolicy.Command.Catalog

/-!
# Help pages

A help page is laid out from the description of a command: how to call it, what it does, and its
options with their explanations in a second column. A name too wide for the first column has its
explanation on the lines below it.
-/

namespace MaskPolicy.Command

/-- The width of a page. -/
def pageWidth : Nat := 80

/-- The indentation of a page. -/
def indent : Text := "  ".toList

/-- The columns that names take at most. -/
def nameLimit : Nat := 30

/-- Some words in lines of a width, after a line that has been started. -/
def flowAfter (width : Nat) (line : Text) : List Text → List Text
  | [] => [line]
  | word :: rest =>
    if line.length + 1 + word.length ≤ width then flowAfter width (line ++ ' ' :: word) rest
    else line :: flowAfter width word rest

/-- A running text in lines of a width. -/
def flow (width : Nat) (t : Text) : List Text :=
  match Text.splitOn ' ' t with
  | [] => []
  | word :: rest => (flowAfter width word rest).map (Text.trim (· = ' '))

/-- Lines of text. -/
def unlines (ls : List Text) : Text := ls.flatMap fun l => l ++ ['\n']

/-- How a command is called. -/
def CommandSpec.usage (spec : CommandSpec) (path : Text) : Text :=
  Text.joinWith [' '] ("Usage:".toList :: path :: "[OPTIONS]".toList :: spec.synopsis) ++ ['\n']

/-- A paragraph, after an empty line. -/
def Paragraph.render : Paragraph → Text
  | .running t => unlines ([] :: (flow (pageWidth - indent.length) t).map (indent ++ ·))
  | .lines ls => unlines ([] :: ls.map (indent ++ ·))

/-- What stands for the value of an option. -/
def ValueKind.placeholder : ValueKind → Text
  | .text => "TEXT".toList
  | .integer => "INTEGER".toList
  | .range _ _ => "INTEGER RANGE".toList
  | .file => "FILE".toList

namespace OptionSpec

/-- The first column of an option. -/
def heading (o : OptionSpec) : Text :=
  Text.joinWith ", ".toList o.names ++
    match o.form with
    | .valued kind => ' ' :: kind.placeholder
    | .switch none => []
    | .switch (some off) => " / ".toList ++ off

/-- Remarks on the values of an option. -/
def remarks (o : OptionSpec) : List Text :=
  (o.shownDefault.map fun n => "default: ".toList ++ Decimal.ofInt n).toList ++
    match o.form with
    | .valued (.range low high) => [rangeText low high]
    | _ => []

/-- The second column of an option. -/
def explanation (o : OptionSpec) : Text :=
  if o.remarks.isEmpty then o.help
  else
    (if o.help.isEmpty then [] else o.help ++ "  ".toList) ++
      '[' :: Text.joinWith "; ".toList o.remarks ++ [']']

end OptionSpec

/-- One row of two columns, with the second one at a given distance. -/
def row (column : Nat) (heading explanation : Text) : Text :=
  let hang := List.replicate (column + indent.length) ' '
  match flow (pageWidth - column - indent.length) explanation with
  | [] => unlines [indent ++ heading]
  | first :: rest =>
    let start :=
      if heading.length + indent.length ≤ column then
        [indent ++ Text.padEnd column ' ' heading ++ first]
      else [indent ++ heading, hang ++ first]
    unlines (start ++ rest.map (hang ++ ·))

/-- Rows of two columns under a title, after an empty line. -/
def table (title : String) (rows : List (Text × Text)) : Text :=
  let widest := (rows.map fun r => r.1.length).foldl max 0
  let column := min widest nameLimit + indent.length
  unlines [[], title.toList ++ [':']] ++ rows.flatMap fun r => row column r.1 r.2

/-- The help page of a command that is called by a path. -/
def CommandSpec.helpPage (spec : CommandSpec) (path : Text) (others : List CommandSpec) : Text :=
  spec.usage path ++ (Paragraph.running spec.summary :: spec.details).flatMap Paragraph.render ++
    table "Options" (spec.options.map fun o => (o.heading, o.explanation)) ++
    if others.isEmpty then []
    else table "Commands" (others.map fun c => (c.name, c.summary))

end MaskPolicy.Command
