import Scriptlet.Cache.Site
import Scriptlet.Fault.Report

/-
  What a run reports about itself.

  Events are kept in the order in which they happen. Each
  has a level, a label and named details, all of them text;
  the ones that open a stretch of work are spans.

  Key definitions include:
    * `Strategy`
    * `Event`
    * `Event.level`
    * `Event.label`
    * `Event.details`
-/

------------------------------------------------------------
-- Events
------------------------------------------------------------

namespace Scriptlet

/- The two ways to run a program. -/
inductive Strategy where
  | treeWalk
  | inlineCache
deriving DecidableEq, Repr

/- The name under which a strategy is reported. -/
def Strategy.label : Strategy → String
  | .treeWalk => "TreeWalk"
  | .inlineCache => "InlineCache"

/- Something worth reporting. -/
inductive Event where
  | running (strategy : Strategy)
  | linking (cacheDepth : Nat)
  | linked (sites : Nat)
  | printing (argc : Nat) (line : String)
  | siteChanged (step : Transition)
  | printRefused (reason : String)
  | failed (failure : Failure)
  | reportRefused (reason : String)
deriving DecidableEq, Repr

/- How important an event is. -/
inductive Level where
  | trace
  | debug
  | warn
  | error
deriving DecidableEq, Repr

/- The name of a level. -/
def Level.label : Level → String
  | .trace => "TRACE"
  | .debug => "DEBUG"
  | .warn => "WARN"
  | .error => "ERROR"

namespace Event

/- Whether an event opens a stretch of work. -/
def isSpan : Event → Bool
  | .running _ => true
  | .linking _ => true
  | _ => false

/- How important an event is. -/
def level : Event → Level
  | .running _ => .debug
  | .linking _ => .debug
  | .linked _ => .debug
  | .printing _ _ => .debug
  | .siteChanged _ => .trace
  | .printRefused _ => .warn
  | .failed _ => .error
  | .reportRefused _ => .warn

/- The text of an event. -/
def label : Event → String
  | .running _ => "run"
  | .linking _ => "link"
  | .linked _ => "linked"
  | .printing _ _ => "print called"
  | .siteChanged _ => "call site transition"
  | .printRefused _ => "print sink write failed"
  | .failed failure => failure.report
  | .reportRefused _ => "failed to write diagnostic"

/- The named details of an event. -/
def details : Event → List (String × String)
  | .running strategy => [("strategy", strategy.label)]
  | .linking cacheDepth =>
      [("cache_depth", toString cacheDepth)]
  | .linked sites => [("sites", toString sites)]
  | .printing argc line =>
      [("argc", toString argc), ("line", line)]
  | .siteChanged step =>
      [("line", toString step.line),
        ("from", step.before.label),
        ("to", step.after.label),
        ("depth", toString step.depth)]
  | .printRefused reason => [("error", reason)]
  | .failed failure => [("category", failure.family.label)]
  | .reportRefused reason => [("write_error", reason)]

end Event

end Scriptlet
