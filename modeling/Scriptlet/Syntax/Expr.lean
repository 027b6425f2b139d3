import Scriptlet.Text.Interner

/-
  Programs as trees.

  Every node carries the line it was written on. A call node
  and a method node also carry an annotation of type `S`: a
  plain program has none (`Expr Unit`), and a linked one
  names the call site that serves the node (`Expr SiteId`).
  Blocks are lists of expressions, since every expression
  may stand as a statement.

  Key definitions include:
    * `Literal`
    * `Expr`
    * `Expr.line`
    * `Expr.withLine`
    * `Code`
    * `Script`
-/

------------------------------------------------------------
-- Trees
------------------------------------------------------------

namespace Scriptlet

/- A line of program text. -/
abbrev Line := Nat

/- The number of a call site. -/
structure SiteId where
  index : Nat
deriving DecidableEq, Repr, Inhabited

/- A constant written in a program. -/
inductive Literal where
  | undefined
  | int (value : Int32)
  | bool (value : Bool)
  | str (value : String)
deriving DecidableEq, Repr, Inhabited

/-
  An expression whose call nodes are annotated by `S`.

  A function literal has a line of its own, `writtenAt`,
  beside the line of the node that holds it.
-/
inductive Expr (S : Type) where
  | block
      (line : Line)
      (body : List (Expr S))
  | literal
      (line : Line)
      (value : Literal)
  | var
      (line : Line)
      (name : Name)
  | assign
      (line : Line)
      (declares : Bool)
      (name : Name)
      (value : Expr S)
  | function
      (line : Line)
      (name : Option Name)
      (params : List Name)
      (body : List (Expr S))
      (writtenAt : Line)
  | call
      (line : Line)
      (site : S)
      (callee : Expr S)
      (args : List (Expr S))
  | ret
      (line : Line)
      (value : Expr S)
  | branch
      (line : Line)
      (test : Expr S)
      (thenBody elseBody : List (Expr S))
  | record
      (line : Line)
      (fields : List (Name × Expr S))
  | getField
      (line : Line)
      (receiver : Expr S)
      (name : Name)
  | setField
      (line : Line)
      (receiver : Expr S)
      (name : Name)
      (value : Expr S)
  | method
      (line : Line)
      (site : S)
      (receiver : Expr S)
      (name : Name)
      (args : List (Expr S))
deriving Inhabited

/- A function literal, apart from the node that holds it. -/
structure Code (S : Type) where
  name : Option Name
  params : List Name
  body : List (Expr S)
  writtenAt : Line
deriving Inhabited

/- A whole program: the statements of its top level. -/
structure Script where
  body : List (Expr Unit)
deriving Inhabited

end Scriptlet

------------------------------------------------------------
-- Lines
------------------------------------------------------------

namespace Scriptlet

namespace Expr

variable {S : Type}

/- The line of a node. -/
def line : Expr S → Line
  | .block line _ => line
  | .literal line _ => line
  | .var line _ => line
  | .assign line _ _ _ => line
  | .function line _ _ _ _ => line
  | .call line _ _ _ => line
  | .ret line _ => line
  | .branch line _ _ _ => line
  | .record line _ => line
  | .getField line _ _ => line
  | .setField line _ _ _ => line
  | .method line _ _ _ _ => line

/-
  Move one node to another line. Nothing below the node
  moves, and neither does a literal's own line.
-/
def withLine
    (line : Line) :
    Expr S → Expr S
  | .block _ body => .block line body
  | .literal _ value => .literal line value
  | .var _ name => .var line name
  | .assign _ declares name value =>
      .assign line declares name value
  | .function _ name params body writtenAt =>
      .function line name params body writtenAt
  | .call _ site callee args =>
      .call line site callee args
  | .ret _ value => .ret line value
  | .branch _ test thenBody elseBody =>
      .branch line test thenBody elseBody
  | .record _ fields => .record line fields
  | .getField _ receiver name =>
      .getField line receiver name
  | .setField _ receiver name value =>
      .setField line receiver name value
  | .method _ site receiver name args =>
      .method line site receiver name args

end Expr

end Scriptlet
