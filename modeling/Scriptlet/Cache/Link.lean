import Scriptlet.Cache.Site

/-
  Linking: one call site for every call.

  Linking walks a program from the outside in and gives each
  call node and each method node a fresh site before it goes
  on to the node's parts, so that sites are numbered in the
  order in which their nodes begin. A function literal is
  linked once, and all functions made from it share its
  sites. Here `room` is the number of entries that each site
  can hold.

  Key definitions include:
    * `Expr.link`
    * `LinkedScript`
    * `Script.link`
-/

------------------------------------------------------------
-- Linking Trees
------------------------------------------------------------

namespace Scriptlet

/- Computations that add call sites. -/
abbrev LinkM :=
  StateM (Array CallSite)

/- Add a fresh site at the end. -/
def LinkM.newSite
    (line : Line)
    (argc room : Nat) :
    LinkM SiteId :=
  modifyGet fun sites =>
    (⟨sites.size⟩,
      sites.push (CallSite.new line argc room))

namespace Expr

mutual

/- Give every call in an expression a site. -/
def link
    (room : Nat) :
    Expr Unit → LinkM (Expr SiteId)
  | .block line body => do
      let body ← linkAll room body
      return .block line body
  | .literal line value =>
      return .literal line value
  | .var line name =>
      return .var line name
  | .assign line declares name value => do
      let value ← value.link room
      return .assign line declares name value
  | .function line name params body writtenAt => do
      let body ← linkAll room body
      return .function line name params body writtenAt
  | .call line _ callee args => do
      let site ← LinkM.newSite line args.length room
      let callee ← callee.link room
      let args ← linkAll room args
      return .call line site callee args
  | .ret line value => do
      let value ← value.link room
      return .ret line value
  | .branch line test thenBody elseBody => do
      let test ← test.link room
      let thenBody ← linkAll room thenBody
      let elseBody ← linkAll room elseBody
      return .branch line test thenBody elseBody
  | .record line fields => do
      let fields ← linkFields room fields
      return .record line fields
  | .getField line receiver name => do
      let receiver ← receiver.link room
      return .getField line receiver name
  | .setField line receiver name value => do
      let receiver ← receiver.link room
      let value ← value.link room
      return .setField line receiver name value
  | .method line _ receiver name args => do
      let site ← LinkM.newSite line args.length room
      let receiver ← receiver.link room
      let args ← linkAll room args
      return .method line site receiver name args

/- Link expressions from left to right. -/
def linkAll
    (room : Nat) :
    List (Expr Unit) → LinkM (List (Expr SiteId))
  | [] => pure []
  | expr :: exprs => do
      let expr ← expr.link room
      let exprs ← linkAll room exprs
      return expr :: exprs

/- Link record fields from left to right. -/
def linkFields
    (room : Nat) :
    List (Name × Expr Unit) →
      LinkM (List (Name × Expr SiteId))
  | [] => pure []
  | (name, value) :: fields => do
      let value ← value.link room
      let fields ← linkFields room fields
      return (name, value) :: fields

end

end Expr

end Scriptlet

------------------------------------------------------------
-- Linked Scripts
------------------------------------------------------------

namespace Scriptlet

/- A script whose calls have sites. -/
structure LinkedScript where
  body : List (Expr SiteId)
  sites : List SiteId

namespace Script

/- Link a script; its sites are the ones that it adds. -/
def link
    (script : Script)
    (room : Nat) :
    LinkM LinkedScript := do
  let first := (← get).size
  let body ← Expr.linkAll room script.body
  let next := (← get).size
  let sites :=
    (List.range' first (next - first)).map SiteId.mk
  return { body, sites }

end Script

namespace LinkedScript

/- The script's sites that stand on a line. -/
def sitesAt
    (script : LinkedScript)
    (sites : Array CallSite)
    (line : Line) :
    List SiteId :=
  script.sites.filter fun id =>
    match sites[id.index]? with
    | some site => site.line == line
    | none => false

end LinkedScript

end Scriptlet
