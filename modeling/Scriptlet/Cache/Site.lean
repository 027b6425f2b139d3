import Scriptlet.Heap.Function

/-
  Call sites and their caches.

  A call site remembers functions that were called through
  it, by identity, and what each call of them runs. A site
  has room for a fixed number of entries. It holds none, one
  or several, newest first, and once a further function
  arrives at a full site the entries are frozen for good.

  Key definitions include:
    * `Target`
    * `CacheState`
    * `CacheState.find?`
    * `CacheState.extend`
    * `CallSite`
    * `CallSite.ask`
    * `CallSite.learn`

  Key theorems include:
    * `CallSite.ask_fst`
    * `CallSite.hits_add_misses_ask`
-/

------------------------------------------------------------
-- Cache States
------------------------------------------------------------

namespace Scriptlet

/- What a resolved call runs, and under which name. -/
structure Target where
  name : Name
  action : Action

/- The target of a function. -/
def Target.of
    (function : Function) :
    Target where
  name := function.name
  action := function.action

/- A remembered function and its target. -/
structure Entry where
  guard : FunctionId
  target : Target

/- What a site remembers; lists are newest first. -/
inductive CacheState where
  | uninitialized
  | monomorphic (entry : Entry)
  | polymorphic (entries : List Entry)
  | megamorphic (entries : List Entry)

/- A cache state without its entries. -/
inductive CacheKind where
  | uninitialized
  | monomorphic
  | polymorphic
  | megamorphic
deriving DecidableEq, Repr

/- The name under which a state is reported. -/
def CacheKind.label : CacheKind → String
  | .uninitialized => "Uninitialized"
  | .monomorphic => "Monomorphic"
  | .polymorphic => "Polymorphic"
  | .megamorphic => "Megamorphic"

namespace CacheState

/- The state without its entries. -/
def kind : CacheState → CacheKind
  | .uninitialized => .uninitialized
  | .monomorphic _ => .monomorphic
  | .polymorphic _ => .polymorphic
  | .megamorphic _ => .megamorphic

/- The remembered entries, newest first. -/
def entries : CacheState → List Entry
  | .uninitialized => []
  | .monomorphic entry => [entry]
  | .polymorphic entries => entries
  | .megamorphic entries => entries

/- The number of remembered entries. -/
def depth (state : CacheState) : Nat :=
  state.entries.length

/- The target remembered for a function. -/
def find?
    (state : CacheState)
    (callee : FunctionId) :
    Option Target :=
  (state.entries.find? fun entry =>
    entry.guard == callee).map Entry.target

/-
  The state after one more function, where `room` is the
  number of entries that fit. Without any room the first
  function already freezes the state.
-/
def extend
    (state : CacheState)
    (room : Nat)
    (entry : Entry) :
    CacheState :=
  match state with
  | .megamorphic entries => .megamorphic entries
  | .uninitialized =>
      if room = 0 then
        .megamorphic []
      else
        .monomorphic entry
  | .monomorphic first =>
      if room = 0 then
        .megamorphic []
      else if 1 < room then
        .polymorphic [entry, first]
      else
        .megamorphic [first]
  | .polymorphic entries =>
      if room = 0 then
        .megamorphic []
      else if entries.length < room then
        .polymorphic (entry :: entries)
      else
        .megamorphic entries

end CacheState

end Scriptlet

------------------------------------------------------------
-- Call Sites
------------------------------------------------------------

namespace Scriptlet

/-
  The cache that serves one call node: the node's line and
  number of arguments, the room for entries, what it
  remembers, and how often it knew the callee or did not.

  The counts have no bound here. Counters of 64 bits hold
  the same: a dispatch adds one to one of them, so neither
  runs over before there were 2^64 dispatches at one site.
-/
structure CallSite where
  line : Line
  argc : Nat
  room : Nat
  state : CacheState
  hits : Nat
  misses : Nat

/- A step from one cache state to the next. -/
structure Transition where
  line : Line
  before : CacheKind
  after : CacheKind
  depth : Nat
deriving DecidableEq, Repr

namespace CallSite

/- A site that was never used. -/
def new
    (line : Line)
    (argc room : Nat) :
    CallSite where
  line := line
  argc := argc
  room := room
  state := .uninitialized
  hits := 0
  misses := 0

/-
  Ask a site for the target of a function, and count whether
  it knew one.
-/
def ask
    (site : CallSite)
    (callee : FunctionId) :
    Option Target × CallSite :=
  match site.state.find? callee with
  | some target =>
      (some target, { site with hits := site.hits + 1 })
  | none =>
      (none, { site with misses := site.misses + 1 })

/-
  Offer a function that the site did not know. The step is
  reported when the kind of state changes, and always when
  the state before was polymorphic.
-/
def learn
    (site : CallSite)
    (callee : FunctionId)
    (target : Target) :
    Option Transition × CallSite :=
  let next := site.state.extend site.room
    { guard := callee, target }
  let before := site.state.kind
  let after := next.kind
  let step :=
    if before ≠ after ∨ before = .polymorphic then
      some
        { line := site.line
          before, after
          depth := next.depth }
    else
      none
  (step, { site with state := next })

end CallSite

end Scriptlet

------------------------------------------------------------
-- What a Site Keeps
------------------------------------------------------------

namespace Scriptlet

namespace CallSite

/- Asking leaves the remembered functions alone. -/
@[simp] theorem state_ask
    (site : CallSite)
    (callee : FunctionId) :
    (site.ask callee).2.state = site.state := by
  unfold ask
  split <;> rfl

/- Asking counts once, as a hit or as a miss. -/
theorem hits_add_misses_ask
    (site : CallSite)
    (callee : FunctionId) :
    (site.ask callee).2.hits +
        (site.ask callee).2.misses =
      site.hits + site.misses + 1 := by
  unfold ask
  split
  · simp only
    omega
  · simp only
    omega

/- A site answers with what it remembers. -/
@[simp] theorem ask_fst
    (site : CallSite)
    (callee : FunctionId) :
    (site.ask callee).1 = site.state.find? callee := by
  unfold ask
  split <;> simp_all

/- Learning does not count. -/
@[simp] theorem hits_learn
    (site : CallSite)
    (callee : FunctionId)
    (target : Target) :
    (site.learn callee target).2.hits = site.hits := by
  rfl

/- Learning does not count. -/
@[simp] theorem misses_learn
    (site : CallSite)
    (callee : FunctionId)
    (target : Target) :
    (site.learn callee target).2.misses =
      site.misses := by
  rfl

end CallSite

end Scriptlet
