import Scriptlet.Machine.State

/-
  The two ways to find out what a call runs.

  An engine says what a function literal becomes and how a
  call node resolves its callee. The plain engine looks the
  callee up on every call. The caching engine asks the
  node's call site first, and offers it what it had to look
  up.

  Key definitions include:
    * `resolve`
    * `resolveCached`
    * `Engine`
    * `Engine.plain`
    * `Engine.caching`
-/

------------------------------------------------------------
-- Checked Resolution
------------------------------------------------------------

namespace Scriptlet

/-
  Check a callee's arity and give its target. This is the
  only place that compares a number of arguments with an
  arity.
-/
def resolve
    (interner : Interner)
    (callee : FunctionId)
    (argc : Nat)
    (line : Line) :
    CallM Target := do
  match (← get).heap.function? callee with
  | some function =>
      match function.arity with
      | .fixed expected =>
          if expected = argc then
            return .of function
          else
            throw
              (.failedAt
                (.wrongArgumentCount
                  (interner.lookup function.name)
                  expected argc)
                line)
      | .variadic => return .of function
  | none =>
      let text ← Machine.printed interner
        (.function callee)
      throw (.failedAt (.notAFunction text) line)

end Scriptlet

------------------------------------------------------------
-- Cached Resolution
------------------------------------------------------------

namespace Scriptlet

namespace Machine

/- Ask a site for a target, counting a hit or a miss. -/
def askSite
    (id : SiteId)
    (callee : FunctionId) :
    CallM (Option Target) :=
  modifyGet fun machine =>
    match machine.sites[id.index]? with
    | some site =>
        let (target, site) := site.ask callee
        (target,
          { machine with
            sites :=
              machine.sites.setIfInBounds id.index site })
    | none => (none, machine)

/- Offer a resolved callee to a site, noting the step. -/
def teachSite
    (id : SiteId)
    (callee : FunctionId)
    (target : Target) :
    CallM Unit :=
  modify fun machine =>
    match machine.sites[id.index]? with
    | some site =>
        let (step, site) := site.learn callee target
        { machine with
          sites :=
            machine.sites.setIfInBounds id.index site
          trace :=
            match step with
            | some step =>
                machine.trace.push (.siteChanged step)
            | none => machine.trace }
    | none => machine

end Machine

/-
  Resolve a callee through a site. A callee that the site
  knows skips the check, which it passed when the site
  learned of it. A callee that fails the check is not
  learned.
-/
def resolveCached
    (interner : Interner)
    (site : SiteId)
    (callee : FunctionId)
    (argc : Nat)
    (line : Line) :
    CallM Target := do
  match ← Machine.askSite site callee with
  | some target => return target
  | none =>
      let target ← resolve interner callee argc line
      Machine.teachSite site callee target
      return target

end Scriptlet

------------------------------------------------------------
-- Engines
------------------------------------------------------------

namespace Scriptlet

/- A way to run programs whose calls are annotated by `S`. -/
structure Engine (S : Type) where
  close : Code S → ObjectId → Action
  resolve :
    Interner → S → FunctionId → Nat → Line → CallM Target

namespace Engine

/- Look the callee up on every call. -/
def plain : Engine Unit where
  close := .walked
  resolve interner _ callee argc line :=
    Scriptlet.resolve interner callee argc line

/- Ask the node's site before looking the callee up. -/
def caching : Engine SiteId where
  close := .linked
  resolve := resolveCached

end Engine

end Scriptlet
