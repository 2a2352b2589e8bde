-- SUMMARY: How operators and keywords of the tree are written, and how tightly binary operators bind.
import Unbundle.Script.Tree

/-!
# Spelling of operators

The written form of every operator and keyword that a tree node carries as a tag.
-/

namespace Unbundle.Script

namespace UnaryOp

def text : UnaryOp → String
  | .not => "!"
  | .neg => "-"
  | .plus => "+"
  | .tilde => "~"
  | .typeof => "typeof"
  | .void => "void"
  | .delete => "delete"

/-- Operators written as a word need a blank before their operand. -/
def isWord : UnaryOp → Bool
  | .typeof | .void | .delete => true
  | _ => false

end UnaryOp

def UpdateOp.text : UpdateOp → String
  | .incr => "++"
  | .decr => "--"

namespace BinaryOp

def text : BinaryOp → String
  | .eq => "=="
  | .ne => "!="
  | .eqStrict => "==="
  | .neStrict => "!=="
  | .lt => "<"
  | .le => "<="
  | .gt => ">"
  | .ge => ">="
  | .shl => "<<"
  | .shr => ">>"
  | .ushr => ">>>"
  | .add => "+"
  | .sub => "-"
  | .mul => "*"
  | .div => "/"
  | .mod => "%"
  | .bitOr => "|"
  | .bitXor => "^"
  | .bitAnd => "&"
  | .inOp => "in"
  | .instanceOf => "instanceof"
  | .exp => "**"
  | .and => "&&"
  | .or => "||"
  | .coalesce => "??"

/-- Every binary operator once. -/
def all : List BinaryOp :=
  [.eq, .ne, .eqStrict, .neStrict, .lt, .le, .gt, .ge, .shl, .shr, .ushr, .add, .sub, .mul, .div,
    .mod, .bitOr, .bitXor, .bitAnd, .inOp, .instanceOf, .exp, .and, .or, .coalesce]

/-- The operator written as the punctuator `s`; the two word operators are not among them. -/
def ofPunct? (s : String) : Option BinaryOp :=
  all.find? fun op => op.text == s && op != .inOp && op != .instanceOf

/-- How tightly an operator binds: a higher number binds tighter. -/
def precedence : BinaryOp → Nat
  | .or | .coalesce => 1
  | .and => 2
  | .bitOr => 3
  | .bitXor => 4
  | .bitAnd => 5
  | .eq | .ne | .eqStrict | .neStrict => 6
  | .lt | .le | .gt | .ge | .inOp | .instanceOf => 7
  | .shl | .shr | .ushr => 8
  | .add | .sub => 9
  | .mul | .div | .mod => 10
  | .exp => 11

/-- Operators that have an assignment form. -/
def compoundable : List BinaryOp :=
  [.add, .sub, .mul, .div, .mod, .shl, .shr, .ushr, .bitOr, .bitXor, .bitAnd, .exp, .and, .or,
    .coalesce]

end BinaryOp

namespace AssignOp

def text : AssignOp → String
  | .plain => "="
  | .compound op => op.text ++ "="

/-- The assignment operator written `s`. -/
def ofPunct? (s : String) : Option AssignOp :=
  if s == "=" then some .plain
  else (BinaryOp.compoundable.find? fun op => op.text ++ "=" == s).map .compound

end AssignOp

def VarKind.text : VarKind → String
  | .var => "var"
  | .letKind => "let"
  | .const => "const"

def Word.text : Word → String
  | .this => "this"
  | .super => "super"
  | .newTarget => "new.target"
  | .importCall => "import"

def Function.span : Function → Span
  | .mk span .. => span

def Function.params : Function → List Pat
  | .mk _ _ _ params _ => params

def Function.body : Function → List Stmt
  | .mk _ _ _ _ body => body

def Class.span : Class → Span
  | .mk span .. => span

/-- Where an expression stands. A missing array element stands nowhere. -/
def Expr.span : Expr → Span
  | .ident id => id.span
  | .fn _ f => f.span
  | .cls _ c => c.span
  | .hole => ⟨0, 0⟩
  | .lit s .. | .word s .. | .privateName s .. | .array s .. | .spread s .. | .object s ..
  | .arrow s .. | .arrowExpr s .. | .template s .. | .tagged s .. | .unary s .. | .update s ..
  | .binary s .. | .assign s .. | .cond s .. | .seq s .. | .yield s .. | .await s .. | .call s ..
  | .newCall s .. | .newBare s .. | .member s .. | .optMember s .. | .optCall s ..
  | .paren s .. => s

/-- Where a pattern stands. A skipped array element stands nowhere. -/
def Pat.span : Pat → Span
  | .ident id => id.span
  | .hole => ⟨0, 0⟩
  | .array s .. | .object s .. | .rest s .. | .default s .. => s
  | .expr e => e.span

end Unbundle.Script
