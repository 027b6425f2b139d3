import Scriptlet.Proofs.Cache.Depth
import Scriptlet.Proofs.Cache.Numbering
import Scriptlet.Proofs.Eval.PairedSites
import Scriptlet.Proofs.Run.DepthLimit

/-
  A deeper cache never misses more.

  A script that is linked with little room and with more has
  the same calls with the same numbers. On fresh frames both
  runs resolve the same callees through the same sites in
  the same order, whatever the sites know. So each site of
  the second run is asked as often as the one of the first
  run, and misses at most as often.

  Key definitions include:
    * `LinkM.Alike`
    * `CallSite.Paired`

  Key theorems include:
    * `Script.link_congr`
    * `CallSite.Paired.dispatched`
    * `Session.paired_next`
    * `deeper_sites_miss_less`
-/

------------------------------------------------------------
-- Linking with Other Room
------------------------------------------------------------

namespace Scriptlet

namespace LinkM

variable {A B : Type}

/- Computations that give the same from as many sites. -/
def Alike (left right : LinkM A) : Prop :=
  ∀ sites others : Array CallSite,
    sites.size = others.size →
      (left.run sites).1 = (right.run others).1 ∧
        (left.run sites).2.size = (right.run others).2.size

namespace Alike

theorem pure (answer : A) :
    Alike (pure answer) (pure answer) :=
  fun _ _ hSize => ⟨rfl, hSize⟩

theorem bind
    {left right : LinkM A}
    {leftRest rightRest : A → LinkM B}
    (hFirst : Alike left right)
    (hRest :
      ∀ answer,
        Alike (leftRest answer) (rightRest answer)) :
    Alike (left >>= leftRest) (right >>= rightRest) := by
  intro sites others hSize
  rcases hFirst sites others hSize with ⟨hAnswer, hNext⟩
  have hLast :=
    hRest (left.run sites).1 (left.run sites).2
      (right.run others).2 hNext
  rw [hAnswer] at hLast
  change
    ((leftRest (left.run sites).1).run
          (left.run sites).2).1 =
        ((rightRest (right.run others).1).run
          (right.run others).2).1 ∧
      ((leftRest (left.run sites).1).run
          (left.run sites).2).2.size =
        ((rightRest (right.run others).1).run
          (right.run others).2).2.size
  rw [hAnswer]
  exact hLast

end Alike

theorem alike_newSite
    (line : Line)
    (argc low high : Nat) :
    Alike (newSite line argc low)
      (newSite line argc high) := by
  intro sites others hSize
  change SiteId.mk sites.size = SiteId.mk others.size ∧
    (sites.push (CallSite.new line argc low)).size =
      (others.push (CallSite.new line argc high)).size
  rw [Array.size_push, Array.size_push, hSize]
  exact ⟨rfl, rfl⟩

end LinkM

namespace Expr

open LinkM

variable (low high : Nat)

mutual

/- The room at its sites does not change a linked tree. -/
theorem alike_link
    (expr : Expr Unit) :
    Alike (expr.link low) (expr.link high) := by
  cases expr with
  | block line body =>
      rw [link, link]
      exact .bind (alike_linkAll body) fun _ => .pure _
  | literal line value =>
      rw [link, link]
      exact .pure _
  | var line name =>
      rw [link, link]
      exact .pure _
  | assign line declares name value =>
      rw [link, link]
      exact .bind (alike_link value) fun _ => .pure _
  | function line name params body writtenAt =>
      rw [link, link]
      exact .bind (alike_linkAll body) fun _ => .pure _
  | call line site callee args =>
      rw [link, link]
      exact .bind (alike_newSite line args.length low high)
        fun _ => .bind (alike_link callee)
          fun _ => .bind (alike_linkAll args)
            fun _ => .pure _
  | ret line value =>
      rw [link, link]
      exact .bind (alike_link value) fun _ => .pure _
  | branch line test thenBody elseBody =>
      rw [link, link]
      exact .bind (alike_link test)
        fun _ => .bind (alike_linkAll thenBody)
          fun _ => .bind (alike_linkAll elseBody)
            fun _ => .pure _
  | record line fields =>
      rw [link, link]
      exact .bind (alike_linkFields fields) fun _ => .pure _
  | getField line receiver name =>
      rw [link, link]
      exact .bind (alike_link receiver) fun _ => .pure _
  | setField line receiver name value =>
      rw [link, link]
      exact .bind (alike_link receiver)
        fun _ => .bind (alike_link value) fun _ => .pure _
  | method line site receiver name args =>
      rw [link, link]
      exact .bind (alike_newSite line args.length low high)
        fun _ => .bind (alike_link receiver)
          fun _ => .bind (alike_linkAll args)
            fun _ => .pure _

theorem alike_linkAll
    (exprs : List (Expr Unit)) :
    Alike (linkAll low exprs) (linkAll high exprs) := by
  cases exprs with
  | nil =>
      rw [linkAll, linkAll]
      exact .pure _
  | cons expr exprs =>
      rw [linkAll, linkAll]
      exact .bind (alike_link expr)
        fun _ => .bind (alike_linkAll exprs)
          fun _ => .pure _

theorem alike_linkFields
    (fields : List (Name × Expr Unit)) :
    Alike (linkFields low fields)
      (linkFields high fields) := by
  cases fields with
  | nil =>
      rw [linkFields, linkFields]
      exact .pure _
  | cons field fields =>
      rcases field with ⟨name, value⟩
      rw [linkFields, linkFields]
      exact .bind (alike_link value)
        fun _ => .bind (alike_linkFields fields)
          fun _ => .pure _

end

end Expr

/- Nor does it change a linked script. -/
theorem Script.link_congr
    (script : Script)
    (low high : Nat)
    (sites : Array CallSite) :
    ((script.link low).run sites).1 =
      ((script.link high).run sites).1 := by
  rcases Expr.alike_linkAll low high script.body sites sites
      rfl with
    ⟨hBody, hSize⟩
  change
    LinkedScript.mk
        ((Expr.linkAll low script.body).run sites).1
        (SiteId.range sites.size
          (((Expr.linkAll low script.body).run
            sites).2.size - sites.size)) =
      LinkedScript.mk
        ((Expr.linkAll high script.body).run sites).1
        (SiteId.range sites.size
          (((Expr.linkAll high script.body).run
            sites).2.size - sites.size))
  rw [hBody, hSize]

end Scriptlet

------------------------------------------------------------
-- Paired Sites
------------------------------------------------------------

namespace Scriptlet

namespace CallSite

/-
  Sites at which the same was dispatched, with little room
  on the left and with more on the right.
-/
def Alike (low high : Nat) (left right : CallSite) : Prop :=
  ∃ line argc attempts,
    left = (new line argc low).replay attempts ∧
      right = (new line argc high).replay attempts

/- As many sites on both sides, and alike in order. -/
def Paired
    (low high : Nat)
    (left right : Array CallSite) : Prop :=
  ∀ index : Nat,
    Option.Rel (Alike low high) left[index]? right[index]?

variable {low high : Nat}

/- A dispatch of the same callee keeps sites alike. -/
theorem Alike.dispatch
    {site other : CallSite}
    (hAlike : site.Alike low high other)
    (attempt : Attempt) :
    (site.dispatch attempt).2.Alike low high
      (other.dispatch attempt).2 := by
  rcases hAlike with ⟨line, argc, attempts, rfl, rfl⟩
  refine ⟨line, argc, attempts ++ [attempt], ?_, ?_⟩
  · rw [replay_append]
    rfl
  · rw [replay_append]
    rfl

/- So it does on machines. -/
theorem Paired.dispatched
    {left right : Machine}
    (hPaired : Paired low high left.sites right.sites)
    (id : SiteId)
    (attempt : Attempt) :
    Paired low high (left.dispatched id attempt).sites
      (right.dispatched id attempt).sites := by
  intro index
  have hAt := hPaired index
  rw [Machine.getElem?_sites_dispatched,
    Machine.getElem?_sites_dispatched]
  split
  case isFalse => exact hAt
  case isTrue =>
      generalize left.sites[index]? = site at *
      generalize right.sites[index]? = other at *
      cases hAt with
      | none => exact .none
      | some hAlike => exact .some (hAlike.dispatch attempt)

/- Sites that were just made for the same nodes. -/
theorem paired_freshSites
    (low high : Nat)
    {S : Type}
    (nodes : List (Expr S)) :
    Paired low high (Expr.freshSites low nodes).toArray
      (Expr.freshSites high nodes).toArray := by
  let calls : List (Line × Nat) :=
    nodes.filterMap fun node =>
      node.site?.map fun owned => (node.line, owned.2)
  have hSites
      (room : Nat) :
      Expr.freshSites room nodes =
        calls.map fun call => new call.1 call.2 room := by
    unfold Expr.freshSites
    rw [List.map_filterMap]
    congr 1
    funext node
    rw [Expr.freshSite?, Option.map_map]
    rfl
  intro index
  rw [hSites low, hSites high, List.getElem?_toArray,
    List.getElem?_toArray, List.getElem?_map,
    List.getElem?_map]
  generalize calls[index]? = call
  cases call with
  | none => exact .none
  | some call =>
      exact .some ⟨call.1, call.2, [], rfl, rfl⟩

end CallSite

end Scriptlet

------------------------------------------------------------
-- Two Runs
------------------------------------------------------------

namespace Scriptlet

namespace CallSite

@[simp] theorem argc_replay
    (site : CallSite)
    (attempts : List Attempt) :
    (site.replay attempts).argc = site.argc := by
  induction attempts generalizing site with
  | nil => rfl
  | cons attempt attempts ih =>
      rw [replay, ih, argc_dispatch]

/- Paired sites are for as many arguments. -/
theorem Paired.map_argc
    {low high : Nat}
    {left right : Array CallSite}
    (hPaired : Paired low high left right) :
    right.map argc = left.map argc := by
  apply Array.ext_getElem?
  intro index
  have hAt := hPaired index
  rw [Array.getElem?_map, Array.getElem?_map]
  generalize left[index]? = site at *
  generalize right[index]? = other at *
  cases hAt with
  | none => rfl
  | some hAlike =>
      rcases hAlike with ⟨line, argc, attempts, rfl, rfl⟩
      simp [new]

end CallSite

namespace Pairing

/- Twins with sites at which the same was dispatched. -/
def caches
    (argcs : Array Nat)
    (limit : Option Nat)
    (low high : Nat) :
    Simulation :=
  ((shared argcs).under (.equal limit)).withSites
    (CallSite.Paired low high)

theorem lawful_caches
    (argcs : Array Nat)
    (limit : Option Nat)
    (low high : Nat) :
    (caches argcs limit low high).Lawful := by
  refine (lawful_under (lawful_shared argcs)
    (Regime.lawful_equal limit)).withSites ?_
  intro left right site argc interner callee line _ hTwins
    hPaired
  have hHeap : right.heap = left.heap := by
    rw [hTwins.heap]
    exact imageHeap_shared argcs left.heap
  change CallSite.Paired low high
    (Machine.after
      (resolveCached interner site callee argc line
        left)).sites
    (Machine.after
      (resolveCached interner site callee argc line
        right)).sites
  rw [Machine.after_resolveCached,
    Machine.after_resolveCached, hHeap]
  exact hPaired.dispatched site _

/- Runs that end alike leave paired sites. -/
theorem paired_of_ended
    {argcs : Array Nat}
    {limit : Option Nat}
    {low high : Nat}
    {left right : EStateM.Result Halt Machine Unit}
    (hEnded :
      (caches argcs limit low high).Ended left right) :
    CallSite.Paired low high (Machine.after left).sites
      (Machine.after right).sites := by
  cases hEnded with
  | ok hAgree => exact hAgree.similar.2
  | error hAgree _ => exact hAgree.similar.2
  | lost hLost => exact hLost.1.elim

end Pairing

namespace Session

/- A fresh session after a script was linked and run. -/
def afterLinked
    (session : Session)
    (job : Job)
    (room : Nat) :
    Session :=
  (session.link job.script room).next job
    (session.lastLinked job.script room)

/- A run leaves the sites that its last machine has. -/
theorem sites_afterLinked
    (session : Session)
    (job : Job)
    (room : Nat) :
    (session.afterLinked job room).store.sites =
      (Machine.after
        ((session.link job.script room).result job
          (session.lastLinked job.script room))).sites := by
  unfold afterLinked next
  rw [outcome_eq]
  rfl

variable {session plain : Session}

/- Linking on a session without sites pairs the sites. -/
theorem paired_link
    (hSites : session.store.sites = #[])
    (script : Script)
    (low high : Nat) :
    CallSite.Paired low high
      (session.link script low).store.sites
      (session.link script high).store.sites := by
  have hAfter
      (room : Nat) :
      (session.link script room).store.sites =
        let linked := ((script.link room).run #[]).1
        (Expr.freshSites room
          (Expr.nodesAll linked.body)).toArray := by
    change ((script.link room).run session.store.sites).2 = _
    rw [hSites, (script.run_link room #[]).1,
      Array.empty_append]
  rw [hAfter low, hAfter high,
    script.link_congr low high #[]]
  exact CallSite.paired_freshSites low high _

/- The machines on which both runs begin. -/
theorem Mirrors.agree_caches
    (hMirrors : session.Mirrors plain)
    (hSites : session.store.sites = #[])
    (script : Script)
    (low high : Nat) :
    (Pairing.caches (session.link script low).argcs
      session.interpreter.stack.limit low high).Agree []
        (session.link script low).machine
        (session.link script high).machine := by
  have hPaired := paired_link hSites script low high
  have hLow := (hMirrors.link script low).twins.leftSound
  have hHigh := (hMirrors.link script high).twins.leftSound
  have hArgcs :
      (session.link script high).argcs =
        (session.link script low).argcs :=
    hPaired.map_argc
  have hStack :
      session.interpreter.stack =
        { calls := []
          limit := session.interpreter.stack.limit } := by
    rw [← hMirrors.calls]
  refine ⟨⟨?_, hPaired⟩, hStack, hStack⟩
  exact
    { leftSound := hLow
      rightSound := hArgcs ▸ hHigh
      heap := (Pairing.imageHeap_shared _ _).symm
      printer := rfl }

/- Both runs leave paired sites. -/
theorem Mirrors.paired_afterLinked
    (hMirrors : session.Mirrors plain)
    (hSites : session.store.sites = #[])
    (job : Job)
    (low high : Nat) :
    CallSite.Paired low high
      (session.afterLinked job low).store.sites
      (session.afterLinked job high).store.sites := by
  have hSame :
      session.lastLinked job.script high =
        session.lastLinked job.script low := by
    unfold lastLinked
    rw [job.script.link_congr high low]
  let linked :=
    ((job.script.link low).run session.store.sites).1
  have hServed :
      Expr.EveryCallAll
        (Serves (session.link job.script low).argcs)
        linked.body :=
    ((hMirrors.link job.script low).isOf
      (session.offers_link job.script low)).2
  have hLawful :=
    Pairing.lawful_caches (session.link job.script low).argcs
      session.interpreter.stack.limit low high
  have hEnded :=
    Simulation.ended_runBody hLawful hLawful.executing
      (rfl :
        session.interpreter.budget job.hostDepth =
          session.interpreter.budget job.hostDepth)
      (hMirrors.agree_caches hSites job.script low high)
      hMirrors.bound hServed (session.context job.interner)
  change Simulation.Ended _ _
    (runBody (session.context job.interner) .caching
      (.within (session.context job.interner)
        (session.interpreter.budget job.hostDepth))
      session.interpreter.global
      (Expr.mapSitesAll id linked.body)
      (session.link job.script high).machine) at hEnded
  rw [Expr.mapSitesAll_id] at hEnded
  rw [sites_afterLinked, sites_afterLinked, hSame]
  exact Pairing.paired_of_ended hEnded

/- The sites of a linked script are there after a run. -/
theorem bound_afterLinked
    (session : Session)
    (job : Job)
    (room : Nat)
    {id : SiteId}
    (hId :
      id ∈
        ((job.script.link room).run
          session.store.sites).1.sites) :
    id.index <
      (session.afterLinked job room).store.sites.size := by
  rcases job.script.run_link room session.store.sites with
    ⟨hAfter, hRange, _⟩
  have hEvolves :=
    (session.lastLinked job.script room).stepwise_run
      (session.context job.interner)
      (session.interpreter.budget job.hostDepth)
      session.interpreter.global
      (session.link job.script room).machine
  have hLinked :
      (session.link job.script room).machine.sites =
        ((job.script.link room).run
          session.store.sites).2 :=
    rfl
  have hSize := hEvolves.size_sites
  rw [hLinked, hAfter, Array.size_append] at hSize
  rw [hRange] at hId
  rw [sites_afterLinked]
  exact Nat.lt_of_lt_of_eq (SiteId.lt_of_mem_range hId)
    hSize.symm

/- A fresh session has no sites. -/
theorem sites_fresh
    (settings : Settings)
    (printer : Printer)
    (interner : Interner) :
    (fresh settings printer interner).store.sites = #[] := by
  have hStore :=
    Interpreter.gives_create settings printer _
      (Store.pristine_ofInterner interner)
  unfold fresh
  generalize
    (Interpreter.create settings printer none).run
      (.ofInterner interner) = made at *
  exact hStore.sites

end Session

/-
  A script is linked with room for few and for more entries,
  and each is run on a fresh session. Both have the same
  sites in the same order, and each of them is asked as
  often in both runs. With more room a site misses at most
  as often and knows all that it knows with less, and
  without any room it never hits and knows nothing.
-/
theorem deeper_sites_miss_less
    {low high : Nat}
    (hRoom : low ≤ high)
    (settings : Settings)
    (printer : Printer)
    (interner : Interner)
    (job : Job) :
    let session := Session.fresh settings printer interner
    let linked
      (room : Nat) :=
      ((job.script.link room).run session.store.sites).1
    let after := session.afterLinked job
    linked low = linked high ∧
      ∀ id ∈ (linked low).sites,
        ∃ shallow deep,
          (after low).store.sites[id.index]? =
              some shallow ∧
            (after high).store.sites[id.index]? =
                some deep ∧
              shallow.Deepens deep ∧
                (low = 0 →
                  shallow.hits = 0 ∧
                    shallow.state.entries = []) := by
  intro session linked after
  have hMirrors : session.Mirrors session :=
    Session.mirrors_fresh rfl printer interner
  have hSites : session.store.sites = #[] :=
    Session.sites_fresh settings printer interner
  refine ⟨job.script.link_congr low high _, ?_⟩
  intro id hId
  have hBound := session.bound_afterLinked job low hId
  have hAt :=
    hMirrors.paired_afterLinked hSites job low high id.index
  rcases hShallow : (after low).store.sites[id.index]? with
    _ | shallow
  · rw [Array.getElem?_eq_none_iff] at hShallow
    exact absurd hBound (Nat.not_lt.mpr hShallow)
  rcases hDeep : (after high).store.sites[id.index]? with
    _ | deep
  · rw [hShallow, hDeep] at hAt
    cases hAt
  rw [hShallow, hDeep] at hAt
  cases hAt with
  | some hAlike =>
      rcases hAlike with ⟨line, argc, attempts, rfl, rfl⟩
      refine ⟨_, _, rfl, rfl,
        CallSite.deepens_replay hRoom line argc attempts, ?_⟩
      rintro rfl
      exact CallSite.unused_replay line argc attempts

/-
  A function that calls itself until the limit is reached is
  known to its site with room, and not without.
-/
theorem deeper_sites_miss_less_callAgain :
    let session :=
      Session.fresh { maxCallDepth := some 2 } (.buffer "")
        againNames
    let job : Job :=
      { script := callAgain
        interner := session.store.interner
        hostDepth := 0 }
    let after := session.afterLinked job
    ∃ shallow deep,
      (after 0).store.sites[1]? = some shallow ∧
        (after 1).store.sites[1]? = some deep ∧
          shallow.Deepens deep ∧
            shallow.hits = 0 ∧
              shallow.misses = 2 ∧ deep.misses = 1 := by
  intro session job after
  have hSites :=
    (deeper_sites_miss_less (Nat.zero_le 1)
      { maxCallDepth := some 2 } (.buffer "") againNames
      job).2 ⟨1⟩ (by decide +kernel)
  rcases hSites with
    ⟨shallow, deep, hShallow, hDeep, hDeepens, hUnused⟩
  have hOften :
      (after 0).store.sites[1]?.map CallSite.misses =
        some 2 := by
    decide +kernel
  have hOnce :
      (after 1).store.sites[1]?.map CallSite.misses =
        some 1 := by
    decide +kernel
  rw [hShallow] at hOften
  rw [hDeep] at hOnce
  exact ⟨shallow, deep, hShallow, hDeep, hDeepens,
    (hUnused rfl).1, Option.some.inj hOften,
    Option.some.inj hOnce⟩

end Scriptlet
