import Scriptlet.Proofs.Cache.Coherence
import Scriptlet.Proofs.Heap.Layered
import Scriptlet.Proofs.Machine.Apply
import Scriptlet.Proofs.Syntax.Annotation

/-
  Sound machines.

  In a sound machine frames are layered, functions run code
  with as many parameters as their arity says, call nodes of
  linked code have sites for as many arguments as the node
  passes, and these sites are coherent. The number of sites
  and of their arguments does not change while programs run,
  so it is a parameter of soundness: `argcs` lists for each
  site how many arguments it is for.

  Key definitions include:
    * `Serves`
    * `Function.Sound`
    * `Target.Ready`
    * `Machine.Sound`
    * `Machine.Decides`

  Key theorems include:
    * `Machine.Sound.ready_of_check`
    * `Machine.Sound.resolveCached`
-/

------------------------------------------------------------
-- Functions and Targets
------------------------------------------------------------

namespace Scriptlet

/- Whether a site is for calls with so many arguments. -/
def Serves
    (argcs : Array Nat)
    (site : SiteId)
    (argc : Nat) : Prop :=
  argcs[site.index]? = some argc

/-
  A function that takes as many arguments as it uses, and
  whose scope is one of the first `objects` objects.
-/
def Function.Sound
    (argcs : Array Nat)
    (objects : Nat)
    (function : Function) : Prop :=
  match function.action with
  | .primitive .print => function.arity = .variadic
  | .primitive (.operator _) => function.arity = .fixed 2
  | .primitive (.host _) => False
  | .walked code scope =>
      function.arity = .fixed code.params.length ∧
        scope.index < objects
  | .linked code scope =>
      function.arity = .fixed code.params.length ∧
        scope.index < objects ∧
          Expr.EveryCallAll (Serves argcs) code.body

/- A target that can be called with so many arguments. -/
def Target.Ready
    (argcs : Array Nat)
    (objects argc : Nat)
    (target : Target) : Prop :=
  match target.action with
  | .primitive .print => True
  | .primitive (.operator _) => argc = 2
  | .primitive (.host _) => False
  | .walked code scope =>
      code.params.length = argc ∧ scope.index < objects
  | .linked code scope =>
      code.params.length = argc ∧ scope.index < objects ∧
        Expr.EveryCallAll (Serves argcs) code.body

namespace Function.Sound

variable {argcs : Array Nat}
variable {objects : Nat}
variable {function : Function}

/- More objects do no harm. -/
theorem mono
    {more : Nat}
    (hMore : objects ≤ more)
    (hFunction : function.Sound argcs objects) :
    function.Sound argcs more := by
  unfold Function.Sound at *
  split at hFunction
  · exact hFunction
  · exact hFunction
  · exact hFunction
  · exact ⟨hFunction.1,
      Nat.lt_of_lt_of_le hFunction.2 hMore⟩
  · exact ⟨hFunction.1,
      Nat.lt_of_lt_of_le hFunction.2.1 hMore,
      hFunction.2.2⟩

/- A function is ready for the arguments it accepts. -/
theorem ready
    {argc : Nat}
    (hFunction : function.Sound argcs objects)
    (hAccepts : function.arity.accepts argc = true) :
    (Target.of function).Ready argcs objects argc := by
  unfold Function.Sound at hFunction
  unfold Target.Ready Target.of
  simp only
  split at hFunction
  · trivial
  · rw [hFunction] at hAccepts
    have hCount : 2 = argc := by
      simpa [Arity.accepts] using hAccepts
    exact hCount.symm
  · exact hFunction
  · rw [hFunction.1] at hAccepts
    exact ⟨by simpa [Arity.accepts] using hAccepts,
      hFunction.2⟩
  · rw [hFunction.1] at hAccepts
    exact ⟨by simpa [Arity.accepts] using hAccepts,
      hFunction.2⟩

end Function.Sound

end Scriptlet

------------------------------------------------------------
-- Sound Machines
------------------------------------------------------------

namespace Scriptlet

namespace Machine

/- What every machine keeps while programs run on it. -/
structure Sound
    (argcs : Array Nat)
    (machine : Machine) : Prop where
  layered : machine.heap.Layered
  functions :
    ∀ id function,
      machine.heap.function? id = some function →
        function.Sound argcs machine.heap.objects.size
  served : machine.sites.map CallSite.argc = argcs
  coherent :
    ∀ (id : Nat) (site : CallSite),
      machine.sites[id]? = some site →
        site.Coherent machine.heap

namespace Sound

variable {argcs : Array Nat}
variable {machine : Machine}

/- Soundness is a matter of the heap and the sites. -/
theorem congr
    {next : Machine}
    (hSound : machine.Sound argcs)
    (hHeap : next.heap = machine.heap)
    (hSites : next.sites = machine.sites) :
    next.Sound argcs := by
  constructor
  · rw [hHeap]
    exact hSound.layered
  · rw [hHeap]
    exact hSound.functions
  · rw [hSites]
    exact hSound.served
  · rw [hHeap, hSites]
    exact hSound.coherent

/- A heap that keeps all functions and adds sound ones. -/
theorem withHeap
    {heap : Heap}
    (hSound : machine.Sound argcs)
    (hLayered : heap.Layered)
    (hObjects :
      machine.heap.objects.size ≤ heap.objects.size)
    (hKept :
      ∀ id function,
        machine.heap.function? id = some function →
          heap.function? id = some function)
    (hFunctions :
      ∀ id function,
        heap.function? id = some function →
          machine.heap.function? id = some function ∨
            function.Sound argcs heap.objects.size) :
    Sound argcs { machine with heap } where
  layered := hLayered
  functions := by
    intro id function hFunction
    rcases hFunctions id function hFunction with
      hOld | hNew
    · exact (hSound.functions id function hOld).mono
        hObjects
    · exact hNew
  served := hSound.served
  coherent := by
    intro id site hSite
    exact (hSound.coherent id site hSite).mono hKept

/- Binding a name. -/
theorem define
    (hSound : machine.Sound argcs)
    (id : ObjectId)
    (name : Name)
    (value : Value) :
    Sound argcs
      { machine with
        heap := machine.heap.define id name value } :=
  hSound.withHeap (hSound.layered.define id name value)
    (Nat.le_of_eq (by simp)) (fun _ _ h => h)
    (fun _ _ h => .inl h)

/- Adding an object under an object that exists. -/
theorem newObject
    (hSound : machine.Sound argcs)
    (role : Role)
    {parent : Option ObjectId}
    (hParent :
      ∀ id ∈ parent,
        id.index < machine.heap.objects.size) :
    Sound argcs
      { machine with
        heap := (machine.heap.newObject role parent).2 } :=
  hSound.withHeap (hSound.layered.newObject role hParent)
    (by simp) (fun _ _ h => h) (fun _ _ h => .inl h)

/- Adding a sound function. -/
theorem newFunction
    (hSound : machine.Sound argcs)
    {function : Function}
    (hFunction :
      function.Sound argcs machine.heap.objects.size) :
    Sound argcs
      { machine with
        heap := (machine.heap.newFunction function).2 } := by
  apply hSound.withHeap (hSound.layered.newFunction function)
    (Nat.le_refl _)
  · intro id other hOther
    have hBound := (Array.getElem?_eq_some_iff.mp hOther).1
    unfold Heap.newFunction Heap.function?
    rw [Array.getElem?_push, if_neg (Nat.ne_of_lt hBound)]
    exact hOther
  · intro id other hOther
    rcases Heap.eq_or_function?_of_newFunction hOther with
      rfl | hOld
    · exact .inr hFunction
    · exact .inl hOld

/- Putting a coherent site in the place of another. -/
theorem withSite
    (hSound : machine.Sound argcs)
    {id : SiteId}
    {site next : CallSite}
    (hSite : machine.sites[id.index]? = some site)
    (hArgc : next.argc = site.argc)
    (hCoherent : next.Coherent machine.heap) :
    Sound argcs
      { machine with
        sites :=
          machine.sites.setIfInBounds id.index next } where
  layered := hSound.layered
  functions := hSound.functions
  served := by
    rw [← hSound.served]
    apply Array.ext_getElem?
    intro index
    simp only [Array.getElem?_map,
      Array.getElem?_setIfInBounds]
    split
    case isTrue hIndex =>
        subst hIndex
        rw [hSite]
        have hBound := (Array.getElem?_eq_some_iff.mp hSite).1
        simp [hBound, hArgc]
    case isFalse => rfl
  coherent := by
    intro index other hOther
    simp only [Array.getElem?_setIfInBounds] at hOther
    split at hOther
    · split at hOther
      · cases hOther
        exact hCoherent
      · cases hOther
    · exact hSound.coherent index other hOther

end Sound

end Machine

end Scriptlet

------------------------------------------------------------
-- Resolution
------------------------------------------------------------

namespace Scriptlet

namespace Machine

/-
  A resolution that comes to a verdict and changes nothing
  but sites and trace.
-/
def Decides
    (argcs : Array Nat)
    (machine : Machine)
    (verdict : Except Halt Target)
    (result : EStateM.Result Halt Machine Target) : Prop :=
  ∃ next : Machine,
    next.Sound argcs ∧ next.heap = machine.heap ∧
      next.stack = machine.stack ∧
        next.printer = machine.printer ∧
          result =
            match verdict with
            | .ok target => .ok target next
            | .error reason => .error reason next

/- Being asked does not make a site remember more. -/
theorem known?_asked
    (machine : Machine)
    (id : SiteId)
    (callee : FunctionId) :
    (machine.asked id callee).known? id callee =
      machine.known? id callee := by
  unfold known? Machine.asked
  cases hSite : machine.sites[id.index]? with
  | none => simp [hSite]
  | some site =>
      have hBound := (Array.getElem?_eq_some_iff.mp hSite).1
      simp [hBound, CallSite.state_ask]

namespace Sound

variable {argcs : Array Nat}
variable {machine : Machine}
variable {id : SiteId}
variable {callee : FunctionId}
variable {target : Target}
variable {argc : Nat}

/- A callee that passes the check is ready to be called. -/
theorem ready_of_check
    {interner : Interner}
    {line : Line}
    (hSound : machine.Sound argcs)
    (hCheck :
      machine.heap.check interner callee argc line =
        .ok target) :
    target.Ready argcs machine.heap.objects.size argc := by
  rcases (Heap.check_eq_ok_iff target).mp hCheck with
    ⟨function, hFunction, hAccepts, rfl⟩
  exact (hSound.functions callee function hFunction).ready
    hAccepts

/- A site that serves calls is there, and for as many. -/
theorem exists_site
    (hSound : machine.Sound argcs)
    (hServes : Serves argcs id argc) :
    ∃ site,
      machine.sites[id.index]? = some site ∧
        site.argc = argc := by
  unfold Serves at hServes
  rw [← hSound.served, Array.getElem?_map] at hServes
  exact Option.map_eq_some_iff.mp hServes

/- What a site remembers would pass the check. -/
theorem check_of_known?
    (hSound : machine.Sound argcs)
    (hServes : Serves argcs id argc)
    (hKnown : machine.known? id callee = some target)
    (interner : Interner)
    (line : Line) :
    machine.heap.check interner callee argc line =
      .ok target := by
  rcases hSound.exists_site hServes with ⟨site, hSite, rfl⟩
  have hFind : site.state.find? callee = some target := by
    unfold known? at hKnown
    rw [hSite] at hKnown
    exact hKnown
  exact (Heap.check_eq_ok_iff target).mpr
    ((hSound.coherent _ _ hSite).exists_of_find? hFind)

/- Asking a site keeps a machine sound. -/
theorem asked
    (hSound : machine.Sound argcs)
    (id : SiteId)
    (callee : FunctionId) :
    (machine.asked id callee).Sound argcs := by
  unfold Machine.asked
  split
  case h_1 site hSite =>
      exact hSound.withSite hSite (site.argc_ask callee)
        ((hSound.coherent _ _ hSite).ask callee)
  case h_2 => exact hSound

/- So does teaching it a callee that passed the check. -/
theorem taught
    {interner : Interner}
    {line : Line}
    (hSound : machine.Sound argcs)
    (hServes : Serves argcs id argc)
    (hKnown : machine.known? id callee = none)
    (hCheck :
      machine.heap.check interner callee argc line =
        .ok target) :
    (machine.taught id callee target).Sound argcs := by
  rcases hSound.exists_site hServes with ⟨site, hSite, rfl⟩
  rcases (Heap.check_eq_ok_iff target).mp hCheck with
    ⟨function, hFunction, hAccepts, rfl⟩
  have hFind : site.state.find? callee = none := by
    unfold known? at hKnown
    rw [hSite] at hKnown
    exact hKnown
  have hLearned := (hSound.coherent _ _ hSite).learn hFind
    hFunction hAccepts
  have hNext := hSound.withSite hSite
    (site.argc_learn callee (.of function)) hLearned
  unfold Machine.taught
  rw [hSite]
  exact hNext.congr rfl rfl

/- Checking a callee decides about it. -/
theorem resolve
    (hSound : machine.Sound argcs)
    (interner : Interner)
    (callee : FunctionId)
    (argc : Nat)
    (line : Line) :
    machine.Decides argcs
      (machine.heap.check interner callee argc line)
      (resolve interner callee argc line machine) := by
  refine ⟨machine, hSound, rfl, rfl, rfl,
    (resolve_apply interner callee argc line machine).trans
      ?_⟩
  cases machine.heap.check interner callee argc line <;> rfl

/-
  Through a site that serves it, a call is resolved as the
  check would, and only sites and trace are changed.
-/
theorem resolveCached
    (hSound : machine.Sound argcs)
    (hServes : Serves argcs id argc)
    (interner : Interner)
    (callee : FunctionId)
    (line : Line) :
    machine.Decides argcs
      (machine.heap.check interner callee argc line)
      (resolveCached interner id callee argc line
        machine) := by
  have hAsked := hSound.asked id callee
  rw [resolveCached_apply]
  cases hKnown : machine.known? id callee with
  | some target =>
      refine ⟨machine.asked id callee, hAsked, by simp,
        by simp, by simp, ?_⟩
      rw [hSound.check_of_known? hServes hKnown]
  | none =>
      simp only [resolve_apply, heap_asked]
      cases hCheck :
          machine.heap.check interner callee argc line with
      | error reason =>
          exact ⟨machine.asked id callee, hAsked, by simp,
            by simp, by simp, rfl⟩
      | ok target =>
          refine ⟨(machine.asked id callee).taught id callee
            target, ?_, by simp, by simp, by simp, rfl⟩
          exact hAsked.taught hServes
            ((known?_asked machine id callee).trans hKnown)
            (by rw [heap_asked]; exact hCheck)

end Sound

end Machine

end Scriptlet
