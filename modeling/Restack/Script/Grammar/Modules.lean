import Restack.Script.Grammar.Basic

/-!
# How modules are joined

Imports and exports.
-/

namespace Restack.Script.Grammar

open Form

/-- A name of a member of a module. -/
def moduleExportName : Form := name <|> node .string

/-- A name that is taken in. -/
def importIdentifier : Form := name <|> renamed .identifier (word "type")

/-- Only types are taken in or given out. -/
def typesOnly : Form := maybe (words ["type", "typeof"])

/-- Where a module comes from. -/
def fromClause : Form := word "from" ++ label .source (node .string)

/-- An import. -/
def importStatement : Form :=
  word "import" ++ typesOnly ++
    ((node .importClause ++ part .fromClause) <|> node .importRequireClause <|>
      label .source (node .string)) ++
    maybe (node .importAttribute) ++ semicolon

/-- What is imported from a module. -/
def importClause : Form :=
  let parts : Form := node .namespaceImport <|> node .namedImports
  parts <|> (part .importIdentifier ++ maybe (sign "," ++ parts))

/-- Members that are imported. -/
def namedImports : Form :=
  sign "\x7b" ++ commaList (node .importSpecifier) ++ maybe (sign ",") ++ sign "\x7d"

/-- A member that is imported. -/
def importSpecifier : Form :=
  typesOnly ++
    (label .name (part .importIdentifier) <|>
      (label .name
          (part .moduleExportName <|> renamed .identifier (word "default") <|>
            renamed .identifier (word "type")) ++
        word "as" ++ label .alias (part .importIdentifier)))

/-- A module that is asked for by a call. -/
def importRequireClause : Form :=
  name ++ sign "=" ++ word "require" ++ sign "(" ++ label .source (node .string) ++ sign ")"

/-- Another name for a member of a module. -/
def importAlias : Form :=
  word "import" ++ name ++ sign "=" ++ (name <|> node .nestedIdentifier) ++ semicolon

/-- An export. -/
def exportStatement : Form :=
  (word "export" ++
      ((sign "*" ++ part .fromClause) <|> (node .namespaceExport ++ part .fromClause) <|>
        (node .exportClause ++ part .fromClause) <|> node .exportClause) ++
      semicolon) <|>
    (decorators ++ word "export" ++
      (label .declaration (part .declaration) <|>
        (word "default" ++
          (label .declaration (part .declaration) <|>
            (label .value (part .expression) ++ semicolon))))) <|>
    (word "export" ++ word "type" ++ node .exportClause ++ maybe (part .fromClause) ++
      semicolon) <|>
    (word "export" ++ word "import" ++ node .importAlias) <|>
    (word "export" ++ sign "=" ++ part .expression ++ semicolon) <|>
    (word "export" ++ word "as" ++ word "namespace" ++ name ++ semicolon)

/-- Members that are exported. -/
def exportClause : Form :=
  sign "\x7b" ++ commaList (node .exportSpecifier) ++ maybe (sign ",") ++ sign "\x7d"

/-- A member that is exported. -/
def exportSpecifier : Form :=
  typesOnly ++ label .name (part .moduleExportName) ++
    maybe (word "as" ++ label .alias (part .moduleExportName))

end Restack.Script.Grammar
