import Scriptlet.Syntax.Draft
import Scriptlet.Proofs.Text.Parallel

/-
  Trees with other names.

  A draft may be built on any table. What is built on two of
  them is the same tree, but for a renaming of its names:
  the lines do not depend on the table at all.

  Key definitions include:
    * `Expr.rename`
    * `Code.rename`
    * `Script.rename`
    * `Builder.tabled`

  Key theorems include:
    * `Draft.parallel_build`
    * `Draft.parallel_buildAll`
-/

------------------------------------------------------------
-- Renaming
------------------------------------------------------------

namespace Scriptlet

namespace Expr

variable {S : Type}

mutual

/- Change every name in an expression. -/
def rename
    (map : Name → Name) :
    Expr S → Expr S
  | .block line body =>
      .block line (renameAll map body)
  | .literal line value => .literal line value
  | .var line name => .var line (map name)
  | .assign line declares name value =>
      .assign line declares (map name) (value.rename map)
  | .function line name params body writtenAt =>
      .function line (name.map map) (params.map map)
        (renameAll map body) writtenAt
  | .call line site callee args =>
      .call line site (callee.rename map)
        (renameAll map args)
  | .ret line value => .ret line (value.rename map)
  | .branch line test thenBody elseBody =>
      .branch line (test.rename map)
        (renameAll map thenBody) (renameAll map elseBody)
  | .record line fields =>
      .record line (renameFields map fields)
  | .getField line receiver name =>
      .getField line (receiver.rename map) (map name)
  | .setField line receiver name value =>
      .setField line (receiver.rename map) (map name)
        (value.rename map)
  | .method line site receiver name args =>
      .method line site (receiver.rename map) (map name)
        (renameAll map args)

/- Change the names in a list of expressions. -/
def renameAll
    (map : Name → Name) :
    List (Expr S) → List (Expr S)
  | [] => []
  | expr :: exprs =>
      expr.rename map :: renameAll map exprs

/- Change the names in record fields. -/
def renameFields
    (map : Name → Name) :
    List (Name × Expr S) → List (Name × Expr S)
  | [] => []
  | (name, expr) :: fields =>
      (map name, expr.rename map) :: renameFields map fields

end

/- Moving a node does not touch its names. -/
theorem rename_withLine
    (map : Name → Name)
    (line : Line)
    (expr : Expr S) :
    (expr.withLine line).rename map =
      (expr.rename map).withLine line := by
  cases expr <;> rfl

/- Fields are renamed as their names and values are. -/
theorem renameFields_zip
    (map : Name → Name)
    (names : List Name)
    (exprs : List (Expr S)) :
    renameFields map (names.zip exprs) =
      (names.map map).zip (renameAll map exprs) := by
  induction names generalizing exprs with
  | nil => rfl
  | cons name names ih =>
      cases exprs with
      | nil => rfl
      | cons expr exprs =>
          simp only [List.zip_cons_cons, renameFields,
            List.map_cons, renameAll, ih]

end Expr

/- Change every name in a function literal. -/
def Code.rename
    {S : Type}
    (map : Name → Name)
    (code : Code S) :
    Code S where
  name := code.name.map map
  params := code.params.map map
  body := Expr.renameAll map code.body
  writtenAt := code.writtenAt

/- Change every name in a script. -/
def Script.rename
    (map : Name → Name)
    (script : Script) :
    Script where
  body := Expr.renameAll map script.body

end Scriptlet

------------------------------------------------------------
-- Building Steps
------------------------------------------------------------

namespace Scriptlet

namespace Builder

/- Builders are alike if they write on the same line. -/
def tabled : Tabled Builder where
  table := Builder.interner
  like _ left right := left.line = right.line

variable {needs : (Name → Name) → Prop}

theorem parallel_name (text : String) :
    tabled.Parallel needs (name text) (name text)
      fun rename name other => other = rename name :=
  .intern (fun _ => rfl) (fun _ => rfl)
    fun _ _ _ hLike => hLike

/- Several names are interned one after the other. -/
theorem names_cons
    (text : String)
    (texts : List String) :
    names (text :: texts) = (do
      let first ← name text
      let rest ← names texts
      return first :: rest) := by
  rfl

theorem parallel_names (texts : List String) :
    tabled.Parallel needs (names texts) (names texts)
      fun rename names others =>
        others = names.map rename := by
  induction texts generalizing needs with
  | nil => exact .pure fun _ _ => rfl
  | cons text texts ih =>
      rw [names_cons]
      refine (parallel_name text).bind fun first _ => ?_
      refine ih.bind fun rest _ => ?_
      refine .pure ?_
      rintro rename ⟨⟨-, rfl⟩, rfl⟩
      rfl

theorem parallel_name? (text : Option String) :
    tabled.Parallel needs (name? text) (name? text)
      fun rename name other =>
        other = name.map rename := by
  cases text with
  | none => exact .pure fun _ _ => rfl
  | some text =>
      refine (parallel_name text).bind fun name _ => ?_
      refine .pure ?_
      rintro rename ⟨-, rfl⟩
      rfl

theorem parallel_position :
    tabled.Parallel needs position position
      fun _ line other => other = line :=
  .of_table_eq (fun _ => rfl) (fun _ => rfl)
    fun _ _ _ _ hLike => ⟨hLike, hLike.symm⟩

theorem parallel_moveTo (line : Line) :
    tabled.Parallel needs (moveTo line) (moveTo line)
      fun _ _ _ => True :=
  .of_table_eq (fun _ => rfl) (fun _ => rfl)
    fun _ _ _ _ _ => ⟨rfl, trivial⟩

/- A node is finished on the line that is written on. -/
theorem parallel_node
    {node other : Line → Expr Unit}
    (hNode :
      ∀ rename line,
        needs rename →
          other line = (node line).rename rename) :
    tabled.Parallel needs
      (do return node (← position))
      (do return other (← position))
      fun rename expr other =>
        other = expr.rename rename := by
  refine parallel_position.bind fun line _ => ?_
  refine .pure ?_
  rintro rename ⟨hNeeds, rfl⟩
  exact hNode rename _ hNeeds

/- A call by name is renamed like any other call. -/
theorem parallel_callName
    (text : String)
    {args others : List (Expr Unit)}
    (hArgs :
      ∀ rename, needs rename →
        others = Expr.renameAll rename args) :
    tabled.Parallel needs (callName text args)
      (callName text others)
      fun rename expr other =>
        other = expr.rename rename := by
  refine parallel_position.bind fun line _ => ?_
  refine (parallel_name text).bind fun name _ => ?_
  refine parallel_node ?_
  rintro rename last ⟨⟨hNeeds, rfl⟩, rfl⟩
  rw [hArgs rename hNeeds]
  rfl

end Builder

end Scriptlet

------------------------------------------------------------
-- Building
------------------------------------------------------------

namespace Scriptlet

namespace Draft

open Builder

mutual

/- A draft becomes the same tree but for its names. -/
theorem parallel_build
    {needs : (Name → Name) → Prop}
    (draft : Draft) :
    tabled.Parallel needs draft.build draft.build
      fun rename expr other =>
        other = expr.rename rename := by
  cases draft with
  | literal value =>
      rw [build]
      refine parallel_node ?_
      intro rename line _
      rfl
  | var text =>
      rw [build]
      refine (parallel_name text).bind fun name _ => ?_
      refine parallel_node ?_
      rintro rename line ⟨-, rfl⟩
      rfl
  | declare text value =>
      rw [build]
      refine (parallel_build value).bind fun value _ => ?_
      refine (parallel_name text).bind fun name _ => ?_
      refine parallel_node ?_
      rintro rename line ⟨⟨-, rfl⟩, rfl⟩
      rfl
  | assign text value =>
      rw [build]
      refine (parallel_build value).bind fun value _ => ?_
      refine (parallel_name text).bind fun name _ => ?_
      refine parallel_node ?_
      rintro rename line ⟨⟨-, rfl⟩, rfl⟩
      rfl
  | call callee args =>
      rw [build]
      refine (parallel_build callee).bind fun callee _ => ?_
      refine (parallel_buildAll args).bind fun args _ => ?_
      refine parallel_node ?_
      rintro rename line ⟨⟨-, rfl⟩, rfl⟩
      rfl
  | callName text args =>
      rw [build]
      refine (parallel_buildAll args).bind fun args _ => ?_
      refine parallel_callName text ?_
      rintro rename ⟨-, rfl⟩
      rfl
  | binary symbol left right =>
      rw [build]
      refine (parallel_build left).bind fun left _ => ?_
      refine (parallel_build right).bind fun right _ => ?_
      refine parallel_callName symbol ?_
      rintro rename ⟨⟨-, rfl⟩, rfl⟩
      rfl
  | function text params body =>
      rw [build]
      refine (parallel_buildAll body).bind fun body _ => ?_
      refine (parallel_name? text).bind fun name _ => ?_
      refine (parallel_names params).bind
        fun params _ => ?_
      refine parallel_node ?_
      rintro rename line ⟨⟨⟨-, rfl⟩, rfl⟩, rfl⟩
      rfl
  | ret value =>
      rw [build]
      refine (parallel_build value).bind fun value _ => ?_
      refine parallel_node ?_
      rintro rename line ⟨-, rfl⟩
      rfl
  | branch test thenBody elseBody =>
      rw [build]
      refine (parallel_build test).bind fun test _ => ?_
      refine (parallel_buildAll thenBody).bind
        fun thenBody _ => ?_
      refine (parallel_buildAll elseBody).bind
        fun elseBody _ => ?_
      refine parallel_node ?_
      rintro rename line ⟨⟨⟨-, rfl⟩, rfl⟩, rfl⟩
      rfl
  | record fields =>
      rw [build]
      refine (parallel_buildFields fields).bind
        fun values _ => ?_
      refine (parallel_names (fields.map Prod.fst)).bind
        fun names _ => ?_
      refine parallel_node ?_
      rintro rename line ⟨⟨-, rfl⟩, rfl⟩
      rw [Expr.rename, Expr.renameFields_zip]
  | getField receiver text =>
      rw [build]
      refine (parallel_build receiver).bind
        fun receiver _ => ?_
      refine (parallel_name text).bind fun name _ => ?_
      refine parallel_node ?_
      rintro rename line ⟨⟨-, rfl⟩, rfl⟩
      rfl
  | setField receiver text value =>
      rw [build]
      refine (parallel_build receiver).bind
        fun receiver _ => ?_
      refine (parallel_build value).bind fun value _ => ?_
      refine (parallel_name text).bind fun name _ => ?_
      refine parallel_node ?_
      rintro rename line ⟨⟨⟨-, rfl⟩, rfl⟩, rfl⟩
      rfl
  | method receiver text args =>
      rw [build]
      refine (parallel_build receiver).bind
        fun receiver _ => ?_
      refine (parallel_buildAll args).bind fun args _ => ?_
      refine (parallel_name text).bind fun name _ => ?_
      refine parallel_node ?_
      rintro rename line ⟨⟨⟨-, rfl⟩, rfl⟩, rfl⟩
      rfl
  | block body =>
      rw [build]
      refine (parallel_buildAll body).bind fun body _ => ?_
      refine parallel_node ?_
      rintro rename line ⟨-, rfl⟩
      rfl
  | moveTo line node =>
      rw [build]
      exact (parallel_moveTo line).bind fun _ _ =>
        parallel_build node
  | leaving node line =>
      rw [build]
      refine (parallel_build node).bind fun node _ => ?_
      refine (parallel_moveTo line).bind fun _ _ => ?_
      refine .pure ?_
      rintro rename ⟨⟨-, rfl⟩, -⟩
      rfl
  | stamped line node =>
      rw [build]
      refine (parallel_build node).bind fun node _ => ?_
      refine .pure ?_
      rintro rename ⟨-, rfl⟩
      exact (Expr.rename_withLine rename line node).symm

theorem parallel_buildAll
    {needs : (Name → Name) → Prop}
    (drafts : List Draft) :
    tabled.Parallel needs (buildAll drafts)
      (buildAll drafts)
      fun rename exprs others =>
        others = Expr.renameAll rename exprs := by
  cases drafts with
  | nil =>
      rw [buildAll]
      exact .pure fun _ _ => rfl
  | cons draft drafts =>
      rw [buildAll]
      refine (parallel_build draft).bind fun expr _ => ?_
      refine (parallel_buildAll drafts).bind
        fun exprs _ => ?_
      refine .pure ?_
      rintro rename ⟨⟨-, rfl⟩, rfl⟩
      rfl

theorem parallel_buildFields
    {needs : (Name → Name) → Prop}
    (fields : List (String × Draft)) :
    tabled.Parallel needs (buildFields fields)
      (buildFields fields)
      fun rename exprs others =>
        others = Expr.renameAll rename exprs := by
  cases fields with
  | nil =>
      rw [buildFields]
      exact .pure fun _ _ => rfl
  | cons field fields =>
      rcases field with ⟨text, draft⟩
      rw [buildFields]
      refine (parallel_build draft).bind fun expr _ => ?_
      refine (parallel_buildFields fields).bind
        fun exprs _ => ?_
      refine .pure ?_
      rintro rename ⟨⟨-, rfl⟩, rfl⟩
      rfl

end

end Draft

end Scriptlet
