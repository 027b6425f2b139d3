import Scriptlet.Syntax.Expr

/-
  Annotations of call nodes.

  Trees that differ only in what their call nodes carry are
  images of one another under a map of annotations. Erasing
  is the map that keeps nothing.

  Key definitions include:
    * `Expr.mapSites`
    * `Expr.EveryCall`
    * `Code.mapSites`

  Key theorems include:
    * `Expr.mapSites_id`
    * `Expr.EveryCall.mono`
-/

------------------------------------------------------------
-- Changing Annotations
------------------------------------------------------------

namespace Scriptlet

namespace Expr

variable {S T : Type}

mutual

/- Change the annotation of every call in an expression. -/
def mapSites
    (mark : S → T) :
    Expr S → Expr T
  | .block line body =>
      .block line (mapSitesAll mark body)
  | .literal line value => .literal line value
  | .var line name => .var line name
  | .assign line declares name value =>
      .assign line declares name (value.mapSites mark)
  | .function line name params body writtenAt =>
      .function line name params (mapSitesAll mark body)
        writtenAt
  | .call line site callee args =>
      .call line (mark site) (callee.mapSites mark)
        (mapSitesAll mark args)
  | .ret line value => .ret line (value.mapSites mark)
  | .branch line test thenBody elseBody =>
      .branch line (test.mapSites mark)
        (mapSitesAll mark thenBody)
        (mapSitesAll mark elseBody)
  | .record line fields =>
      .record line (mapSitesFields mark fields)
  | .getField line receiver name =>
      .getField line (receiver.mapSites mark) name
  | .setField line receiver name value =>
      .setField line (receiver.mapSites mark) name
        (value.mapSites mark)
  | .method line site receiver name args =>
      .method line (mark site) (receiver.mapSites mark) name
        (mapSitesAll mark args)

/- Change the annotations in a list of expressions. -/
def mapSitesAll
    (mark : S → T) :
    List (Expr S) → List (Expr T)
  | [] => []
  | expr :: exprs =>
      expr.mapSites mark :: mapSitesAll mark exprs

/- Change the annotations in record fields. -/
def mapSitesFields
    (mark : S → T) :
    List (Name × Expr S) → List (Name × Expr T)
  | [] => []
  | (name, expr) :: fields =>
      (name, expr.mapSites mark) ::
        mapSitesFields mark fields

end

mutual

/- Keeping every annotation keeps the tree. -/
theorem mapSites_id
    (expr : Expr S) :
    expr.mapSites id = expr := by
  cases expr with
  | block line body =>
      rw [mapSites, mapSitesAll_id body]
  | literal line value => rfl
  | var line name => rfl
  | assign line declares name value =>
      rw [mapSites, mapSites_id value]
  | function line name params body writtenAt =>
      rw [mapSites, mapSitesAll_id body]
  | call line site callee args =>
      rw [mapSites, mapSites_id callee,
        mapSitesAll_id args, id]
  | ret line value => rw [mapSites, mapSites_id value]
  | branch line test thenBody elseBody =>
      rw [mapSites, mapSites_id test,
        mapSitesAll_id thenBody, mapSitesAll_id elseBody]
  | record line fields =>
      rw [mapSites, mapSitesFields_id fields]
  | getField line receiver name =>
      rw [mapSites, mapSites_id receiver]
  | setField line receiver name value =>
      rw [mapSites, mapSites_id receiver, mapSites_id value]
  | method line site receiver name args =>
      rw [mapSites, mapSites_id receiver,
        mapSitesAll_id args, id]

theorem mapSitesAll_id
    (exprs : List (Expr S)) :
    mapSitesAll id exprs = exprs := by
  cases exprs with
  | nil => rfl
  | cons expr exprs =>
      rw [mapSitesAll, mapSites_id expr,
        mapSitesAll_id exprs]

theorem mapSitesFields_id
    (fields : List (Name × Expr S)) :
    mapSitesFields id fields = fields := by
  cases fields with
  | nil => rfl
  | cons field fields =>
      rw [mapSitesFields, mapSites_id field.2,
        mapSitesFields_id fields]

end

/- Changing annotations keeps the number of arguments. -/
@[simp] theorem length_mapSitesAll
    (mark : S → T)
    (exprs : List (Expr S)) :
    (mapSitesAll mark exprs).length = exprs.length := by
  induction exprs with
  | nil => rfl
  | cons expr exprs ih => simp [mapSitesAll, ih]

end Expr

namespace Code

variable {S T : Type}

/- Change the annotations in the code of a literal. -/
def mapSites
    (mark : S → T)
    (code : Code S) :
    Code T where
  name := code.name
  params := code.params
  body := Expr.mapSitesAll mark code.body
  writtenAt := code.writtenAt

/- Keeping every annotation keeps the code. -/
@[simp] theorem mapSites_id
    (code : Code S) :
    code.mapSites id = code := by
  cases code
  simp [mapSites, Expr.mapSitesAll_id]

end Code

end Scriptlet

------------------------------------------------------------
-- Conditions on Calls
------------------------------------------------------------

namespace Scriptlet

namespace Expr

variable {S T : Type}

mutual

/-
  Whether a condition on the annotation and the number of
  arguments is met by every call in an expression, those in
  the bodies of function literals included.
-/
def EveryCall
    (meets : S → Nat → Prop) :
    Expr S → Prop
  | .block _ body => EveryCallAll meets body
  | .literal _ _ => True
  | .var _ _ => True
  | .assign _ _ _ value => value.EveryCall meets
  | .function _ _ _ body _ => EveryCallAll meets body
  | .call _ site callee args =>
      meets site args.length ∧ callee.EveryCall meets ∧
        EveryCallAll meets args
  | .ret _ value => value.EveryCall meets
  | .branch _ test thenBody elseBody =>
      test.EveryCall meets ∧ EveryCallAll meets thenBody ∧
        EveryCallAll meets elseBody
  | .record _ fields => EveryCallFields meets fields
  | .getField _ receiver _ => receiver.EveryCall meets
  | .setField _ receiver _ value =>
      receiver.EveryCall meets ∧ value.EveryCall meets
  | .method _ site receiver _ args =>
      meets site args.length ∧ receiver.EveryCall meets ∧
        EveryCallAll meets args

/- The condition, for every expression of a list. -/
def EveryCallAll
    (meets : S → Nat → Prop) :
    List (Expr S) → Prop
  | [] => True
  | expr :: exprs =>
      expr.EveryCall meets ∧ EveryCallAll meets exprs

/- The condition, for every field of a record. -/
def EveryCallFields
    (meets : S → Nat → Prop) :
    List (Name × Expr S) → Prop
  | [] => True
  | (_, expr) :: fields =>
      expr.EveryCall meets ∧ EveryCallFields meets fields

end

variable {meets weaker : S → Nat → Prop}

mutual

/- A weaker condition is met wherever a stronger one is. -/
theorem EveryCall.mono
    (hWeaker :
      ∀ site argc, meets site argc → weaker site argc) :
    ∀ expr : Expr S,
      expr.EveryCall meets → expr.EveryCall weaker
  | .block _ body, h => EveryCallAll.mono hWeaker body h
  | .literal _ _, _ => trivial
  | .var _ _, _ => trivial
  | .assign _ _ _ value, h => EveryCall.mono hWeaker value h
  | .function _ _ _ body _, h =>
      EveryCallAll.mono hWeaker body h
  | .call _ site callee args, h =>
      ⟨hWeaker site args.length h.1,
        EveryCall.mono hWeaker callee h.2.1,
        EveryCallAll.mono hWeaker args h.2.2⟩
  | .ret _ value, h => EveryCall.mono hWeaker value h
  | .branch _ test thenBody elseBody, h =>
      ⟨EveryCall.mono hWeaker test h.1,
        EveryCallAll.mono hWeaker thenBody h.2.1,
        EveryCallAll.mono hWeaker elseBody h.2.2⟩
  | .record _ fields, h =>
      EveryCallFields.mono hWeaker fields h
  | .getField _ receiver _, h =>
      EveryCall.mono hWeaker receiver h
  | .setField _ receiver _ value, h =>
      ⟨EveryCall.mono hWeaker receiver h.1,
        EveryCall.mono hWeaker value h.2⟩
  | .method _ site receiver _ args, h =>
      ⟨hWeaker site args.length h.1,
        EveryCall.mono hWeaker receiver h.2.1,
        EveryCallAll.mono hWeaker args h.2.2⟩

theorem EveryCallAll.mono
    (hWeaker :
      ∀ site argc, meets site argc → weaker site argc) :
    ∀ exprs : List (Expr S),
      EveryCallAll meets exprs → EveryCallAll weaker exprs
  | [], _ => trivial
  | expr :: exprs, h =>
      ⟨EveryCall.mono hWeaker expr h.1,
        EveryCallAll.mono hWeaker exprs h.2⟩

theorem EveryCallFields.mono
    (hWeaker :
      ∀ site argc, meets site argc → weaker site argc) :
    ∀ fields : List (Name × Expr S),
      EveryCallFields meets fields →
        EveryCallFields weaker fields
  | [], _ => trivial
  | (_, expr) :: fields, h =>
      ⟨EveryCall.mono hWeaker expr h.1,
        EveryCallFields.mono hWeaker fields h.2⟩

end

mutual

/- A condition that every call meets is met everywhere. -/
theorem everyCall_of_forall
    (hMeets : ∀ site argc, meets site argc) :
    ∀ expr : Expr S, expr.EveryCall meets
  | .block _ body => everyCallAll_of_forall hMeets body
  | .literal _ _ => trivial
  | .var _ _ => trivial
  | .assign _ _ _ value => everyCall_of_forall hMeets value
  | .function _ _ _ body _ =>
      everyCallAll_of_forall hMeets body
  | .call _ site callee args =>
      ⟨hMeets site args.length,
        everyCall_of_forall hMeets callee,
        everyCallAll_of_forall hMeets args⟩
  | .ret _ value => everyCall_of_forall hMeets value
  | .branch _ test thenBody elseBody =>
      ⟨everyCall_of_forall hMeets test,
        everyCallAll_of_forall hMeets thenBody,
        everyCallAll_of_forall hMeets elseBody⟩
  | .record _ fields =>
      everyCallFields_of_forall hMeets fields
  | .getField _ receiver _ =>
      everyCall_of_forall hMeets receiver
  | .setField _ receiver _ value =>
      ⟨everyCall_of_forall hMeets receiver,
        everyCall_of_forall hMeets value⟩
  | .method _ site receiver _ args =>
      ⟨hMeets site args.length,
        everyCall_of_forall hMeets receiver,
        everyCallAll_of_forall hMeets args⟩

theorem everyCallAll_of_forall
    (hMeets : ∀ site argc, meets site argc) :
    ∀ exprs : List (Expr S), EveryCallAll meets exprs
  | [] => trivial
  | expr :: exprs =>
      ⟨everyCall_of_forall hMeets expr,
        everyCallAll_of_forall hMeets exprs⟩

theorem everyCallFields_of_forall
    (hMeets : ∀ site argc, meets site argc) :
    ∀ fields : List (Name × Expr S),
      EveryCallFields meets fields
  | [] => trivial
  | (_, expr) :: fields =>
      ⟨everyCall_of_forall hMeets expr,
        everyCallFields_of_forall hMeets fields⟩

end

end Expr

end Scriptlet
