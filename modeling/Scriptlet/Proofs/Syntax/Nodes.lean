import Scriptlet.Proofs.Syntax.Annotation

/-
  The nodes of a program, and the code that they lie in.

  A node lies in the code of a function, or in the top level
  of a script, if it can be reached there without going into
  the body of another function literal. The literal itself
  is such a node, what is written inside of it is not.

  Key definitions include:
    * `Expr.parts`
    * `Expr.site?`
    * `Expr.LiesIn`
    * `Script.HasLiteral`
    * `Expr.assignsField`

  Key theorems include:
    * `Expr.EveryCall.parts`
    * `Expr.assignsField_of_mem_parts`
    * `Expr.assignsField_mapSites`
-/

------------------------------------------------------------
-- Parts
------------------------------------------------------------

namespace Scriptlet

namespace Expr

variable {S T : Type}

/-
  The expressions that a node is made of, from left to
  right. The body of a function literal is code of its own
  and no part of the node.
-/
def parts : Expr S → List (Expr S)
  | .block _ body => body
  | .literal _ _ => []
  | .var _ _ => []
  | .assign _ _ _ value => [value]
  | .function _ _ _ _ _ => []
  | .call _ _ callee args => callee :: args
  | .ret _ value => [value]
  | .branch _ test thenBody elseBody =>
      test :: (thenBody ++ elseBody)
  | .record _ fields => fields.map Prod.snd
  | .getField _ receiver _ => [receiver]
  | .setField _ receiver _ value => [receiver, value]
  | .method _ _ receiver _ args => receiver :: args

/-
  The site of a call node or a method node, and how many
  arguments the node passes.
-/
def site? : Expr S → Option (S × Nat)
  | .call _ site _ args => some (site, args.length)
  | .method _ site _ _ args => some (site, args.length)
  | _ => none

/- Whether a node calls something. -/
def isCall (expr : Expr S) : Bool :=
  expr.site?.isSome

/- Whether a node lies in the code of a body. -/
inductive LiesIn : Expr S → List (Expr S) → Prop where
  | statement
      {expr : Expr S}
      {body : List (Expr S)}
      (hStatement : expr ∈ body) :
      LiesIn expr body
  | part
      {outer expr : Expr S}
      {body : List (Expr S)}
      (hOuter : LiesIn outer body)
      (hPart : expr ∈ outer.parts) :
      LiesIn expr body

end Expr

/-
  Whether a script has a function literal, on its top level
  or inside of another literal.
-/
inductive Script.HasLiteral (script : Script) :
    Code Unit → Prop where
  | outer
      {line writtenAt : Line}
      {name : Option Name}
      {params : List Name}
      {body : List (Expr Unit)}
      (hLies :
        Expr.LiesIn
          (.function line name params body writtenAt)
          script.body) :
      HasLiteral script { name, params, body, writtenAt }
  | nested
      {around : Code Unit}
      {line writtenAt : Line}
      {name : Option Name}
      {params : List Name}
      {body : List (Expr Unit)}
      (hAround : HasLiteral script around)
      (hLies :
        Expr.LiesIn
          (.function line name params body writtenAt)
          around.body) :
      HasLiteral script { name, params, body, writtenAt }

end Scriptlet

------------------------------------------------------------
-- Conditions on Calls
------------------------------------------------------------

namespace Scriptlet

namespace Expr

variable {S : Type}
variable {meets : S → Nat → Prop}

/- A list meets a condition if all of its members do. -/
theorem everyCallAll_iff (exprs : List (Expr S)) :
    EveryCallAll meets exprs ↔
      ∀ expr ∈ exprs, expr.EveryCall meets := by
  induction exprs with
  | nil => simp [EveryCallAll]
  | cons expr exprs ih => simp [EveryCallAll, ih]

theorem everyCallFields_iff
    (fields : List (Name × Expr S)) :
    EveryCallFields meets fields ↔
      ∀ expr ∈ fields.map Prod.snd,
        expr.EveryCall meets := by
  induction fields with
  | nil => simp [EveryCallFields]
  | cons field fields ih =>
      simp [EveryCallFields, ih]

/- What a node meets, its parts meet. -/
theorem EveryCall.parts
    {expr part : Expr S}
    (hExpr : expr.EveryCall meets)
    (hPart : part ∈ expr.parts) :
    part.EveryCall meets := by
  cases expr with
  | block line body =>
      exact (everyCallAll_iff body).mp hExpr part hPart
  | literal line value => cases hPart
  | var line name => cases hPart
  | assign line declares name value =>
      rcases List.mem_singleton.mp hPart with rfl
      exact hExpr
  | function line name params body writtenAt => cases hPart
  | call line site callee args =>
      rcases List.mem_cons.mp hPart with rfl | hPart
      · exact hExpr.2.1
      · exact (everyCallAll_iff args).mp hExpr.2.2 part
          hPart
  | ret line value =>
      rcases List.mem_singleton.mp hPart with rfl
      exact hExpr
  | branch line test thenBody elseBody =>
      rcases List.mem_cons.mp hPart with rfl | hPart
      · exact hExpr.1
      · rcases List.mem_append.mp hPart with hThen | hElse
        · exact (everyCallAll_iff thenBody).mp hExpr.2.1
            part hThen
        · exact (everyCallAll_iff elseBody).mp hExpr.2.2
            part hElse
  | record line fields =>
      exact (everyCallFields_iff fields).mp hExpr part hPart
  | getField line receiver name =>
      rcases List.mem_singleton.mp hPart with rfl
      exact hExpr
  | setField line receiver name value =>
      rcases List.mem_cons.mp hPart with rfl | hPart
      · exact hExpr.1
      · rcases List.mem_singleton.mp hPart with rfl
        exact hExpr.2
  | method line site receiver name args =>
      rcases List.mem_cons.mp hPart with rfl | hPart
      · exact hExpr.2.1
      · exact (everyCallAll_iff args).mp hExpr.2.2 part
          hPart

/- A node that calls meets the condition itself. -/
theorem EveryCall.site
    {expr : Expr S}
    {site : S}
    {argc : Nat}
    (hExpr : expr.EveryCall meets)
    (hSite : expr.site? = some (site, argc)) :
    meets site argc := by
  cases expr with
  | call line other callee args =>
      cases hSite
      exact hExpr.1
  | method line other receiver name args =>
      cases hSite
      exact hExpr.1
  | _ => cases hSite

end Expr

end Scriptlet

------------------------------------------------------------
-- Assignments to Fields
------------------------------------------------------------

namespace Scriptlet

namespace Expr

variable {S T : Type}

mutual

/-
  Whether a field is assigned somewhere in an expression,
  the bodies of function literals included.
-/
def assignsField : Expr S → Bool
  | .block _ body => anyAssignsField body
  | .literal _ _ => false
  | .var _ _ => false
  | .assign _ _ _ value => value.assignsField
  | .function _ _ _ body _ => anyAssignsField body
  | .call _ _ callee args =>
      callee.assignsField || anyAssignsField args
  | .ret _ value => value.assignsField
  | .branch _ test thenBody elseBody =>
      test.assignsField || anyAssignsField thenBody ||
        anyAssignsField elseBody
  | .record _ fields => anyFieldAssignsField fields
  | .getField _ receiver _ => receiver.assignsField
  | .setField _ _ _ _ => true
  | .method _ _ receiver _ args =>
      receiver.assignsField || anyAssignsField args

/- Whether an expression of a list assigns a field. -/
def anyAssignsField : List (Expr S) → Bool
  | [] => false
  | expr :: exprs =>
      expr.assignsField || anyAssignsField exprs

/- Whether the value of a record field assigns a field. -/
def anyFieldAssignsField :
    List (Name × Expr S) → Bool
  | [] => false
  | (_, expr) :: fields =>
      expr.assignsField || anyFieldAssignsField fields

end

theorem anyAssignsField_eq (exprs : List (Expr S)) :
    anyAssignsField exprs = exprs.any assignsField := by
  induction exprs with
  | nil => rfl
  | cons expr exprs ih =>
      rw [anyAssignsField, ih, List.any_cons]

theorem anyFieldAssignsField_eq
    (fields : List (Name × Expr S)) :
    anyFieldAssignsField fields =
      (fields.map Prod.snd).any assignsField := by
  induction fields with
  | nil => rfl
  | cons field fields ih =>
      rw [anyFieldAssignsField, ih, List.map_cons,
        List.any_cons]

/- A part that assigns a field is part of a node that does. -/
theorem assignsField_of_mem_parts
    {expr part : Expr S}
    (hPart : part ∈ expr.parts)
    (hAssigns : part.assignsField = true) :
    expr.assignsField = true := by
  have hAny
      {exprs : List (Expr S)}
      (hMem : part ∈ exprs) :
      anyAssignsField exprs = true := by
    rw [anyAssignsField_eq]
    exact List.any_eq_true.mpr ⟨part, hMem, hAssigns⟩
  cases expr with
  | block line body => exact hAny hPart
  | literal line value => cases hPart
  | var line name => cases hPart
  | assign line declares name value =>
      rcases List.mem_singleton.mp hPart with rfl
      exact hAssigns
  | function line name params body writtenAt => cases hPart
  | call line site callee args =>
      rcases List.mem_cons.mp hPart with rfl | hPart
      · simp [assignsField, hAssigns]
      · simp [assignsField, hAny hPart]
  | ret line value =>
      rcases List.mem_singleton.mp hPart with rfl
      exact hAssigns
  | branch line test thenBody elseBody =>
      rcases List.mem_cons.mp hPart with rfl | hPart
      · simp [assignsField, hAssigns]
      · rcases List.mem_append.mp hPart with hThen | hElse
        · simp [assignsField, hAny hThen]
        · simp [assignsField, hAny hElse]
  | record line fields =>
      rw [assignsField, anyFieldAssignsField_eq]
      exact List.any_eq_true.mpr ⟨part, hPart, hAssigns⟩
  | getField line receiver name =>
      rcases List.mem_singleton.mp hPart with rfl
      exact hAssigns
  | setField line receiver name value => rfl
  | method line site receiver name args =>
      rcases List.mem_cons.mp hPart with rfl | hPart
      · simp [assignsField, hAssigns]
      · simp [assignsField, hAny hPart]

mutual

/- Annotations have nothing to do with it. -/
theorem assignsField_mapSites
    (mark : S → T)
    (expr : Expr S) :
    (expr.mapSites mark).assignsField =
      expr.assignsField := by
  cases expr with
  | block line body =>
      exact anyAssignsField_mapSites mark body
  | literal line value => rfl
  | var line name => rfl
  | assign line declares name value =>
      exact assignsField_mapSites mark value
  | function line name params body writtenAt =>
      exact anyAssignsField_mapSites mark body
  | call line site callee args =>
      rw [mapSites, assignsField, assignsField,
        assignsField_mapSites mark callee,
        anyAssignsField_mapSites mark args]
  | ret line value => exact assignsField_mapSites mark value
  | branch line test thenBody elseBody =>
      rw [mapSites, assignsField, assignsField,
        assignsField_mapSites mark test,
        anyAssignsField_mapSites mark thenBody,
        anyAssignsField_mapSites mark elseBody]
  | record line fields =>
      exact anyFieldAssignsField_mapSites mark fields
  | getField line receiver name =>
      exact assignsField_mapSites mark receiver
  | setField line receiver name value => rfl
  | method line site receiver name args =>
      rw [mapSites, assignsField, assignsField,
        assignsField_mapSites mark receiver,
        anyAssignsField_mapSites mark args]

theorem anyAssignsField_mapSites
    (mark : S → T)
    (exprs : List (Expr S)) :
    anyAssignsField (mapSitesAll mark exprs) =
      anyAssignsField exprs := by
  cases exprs with
  | nil => rfl
  | cons expr exprs =>
      rw [mapSitesAll, anyAssignsField, anyAssignsField,
        assignsField_mapSites mark expr,
        anyAssignsField_mapSites mark exprs]

theorem anyFieldAssignsField_mapSites
    (mark : S → T)
    (fields : List (Name × Expr S)) :
    anyFieldAssignsField (mapSitesFields mark fields) =
      anyFieldAssignsField fields := by
  cases fields with
  | nil => rfl
  | cons field fields =>
      rcases field with ⟨name, expr⟩
      rw [mapSitesFields, anyFieldAssignsField,
        anyFieldAssignsField,
        assignsField_mapSites mark expr,
        anyFieldAssignsField_mapSites mark fields]

end

end Expr

/- Whether a field is assigned somewhere in a script. -/
def Script.assignsField (script : Script) : Bool :=
  Expr.anyAssignsField script.body

end Scriptlet
