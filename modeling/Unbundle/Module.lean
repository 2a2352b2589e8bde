-- SUMMARY: Modules: imports, statements, text assets, and the printed form of a module.
import Unbundle.Script.Printer
import Unbundle.Script.Quoted

/-!
# Modules

A module that is split out of a bundle is either code, with imports before its statements, or a text
asset.
-/

namespace Unbundle

/-- An import of a whole module, of its default export, or of both. -/
structure Import where
  source : String
  defaultName : Option String
  namespaceName : Option String
deriving DecidableEq, Repr, Inhabited

inductive Module.Body where
  | code (imports : List Import) (body : List Script.Stmt)
  | text (content : String)

structure Module where
  name : String
  body : Module.Body

namespace Import

open Text

/-- What stands between `import` and the source. -/
def clause (i : Import) : Layout :=
  match i.defaultName, i.namespaceName with
  | none, none => []
  | some d, none => [.text d, .text " from "]
  | none, some n => [.text "* as ", .text n, .text " from "]
  | some d, some n => [.text d, .text ", ", .text "* as ", .text n, .text " from "]

def layout (i : Import) : Layout :=
  .text "import " :: i.clause ++ [.text (Script.quote i.source), .text ";", .line]

end Import

namespace Module

/-- The text of a module of code. -/
def printCode (imports : List Import) (body : List Script.Stmt) : String :=
  Text.Layout.render ((imports.map Import.layout).flatten ++ (Script.stmtLayouts body).flatten)

end Module
end Unbundle
