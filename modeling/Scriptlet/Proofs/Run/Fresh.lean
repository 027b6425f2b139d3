import Scriptlet.Interpreter.SingleRun
import Scriptlet.Proofs.Eval.Twins

/-
  Fresh interpreters.

  A store without objects, functions and sites is given a
  global frame by making an interpreter on it. What is then
  in the store is sound, and none of its functions runs code
  of a program, so that it is its own image. Whatever else
  holds of a new global frame is shown once for the parts it
  is made of.

  Key definitions include:
    * `Store.ofInterner`
    * `Store.Pristine`
    * `Store.Survives`

  Key theorems include:
    * `Store.Survives.newGlobal`
    * `Interpreter.gives_create`
    * `Store.Pristine.sound`
    * `Store.Pristine.imageHeap`
-/

------------------------------------------------------------
-- Pristine Stores
------------------------------------------------------------

namespace Scriptlet

/- A function that is there before any program. -/
def Function.BuiltIn (function : Function) : Prop :=
  (∃ primitive, function.action = .primitive primitive) ∧
    ∀ argcs objects, function.Sound argcs objects

namespace Store

/- The store with some names and nothing else in it. -/
def ofInterner (interner : Interner) : Store :=
  { Store.new with interner }

/-
  A store in which no program has run, with at least so many
  objects in it.
-/
structure Pristine
    (objects : Nat)
    (store : Store) : Prop where
  layered : store.heap.Layered
  builtIn :
    ∀ id function,
      store.heap.function? id = some function →
        function.BuiltIn
  sites : store.sites = #[]
  size : objects ≤ store.heap.objects.size

theorem pristine_ofInterner (interner : Interner) :
    (ofInterner interner).Pristine 0 where
  layered := Heap.layered_empty
  builtIn := by
    intro id function hFunction
    simp [ofInterner, Store.new, Heap.empty,
      Heap.function?] at hFunction
  sites := rfl
  size := Nat.zero_le _

/- What a change of a store leads from and to. -/
def Ensures
    {A : Type}
    (before : Store → Prop)
    (change : StateM Store A)
    (after : A → Store → Prop) : Prop :=
  ∀ store : Store,
    before store →
      after (change.run store).1 (change.run store).2

/- A change that keeps a store pristine and its objects. -/
def Keeps
    {A : Type}
    (objects : Nat)
    (change : StateM Store A) : Prop :=
  Ensures (Pristine objects) change
    fun _ => Pristine objects

/- A change that gives an object of a pristine store. -/
def Gives
    {A : Type}
    (objects : Nat)
    (change : StateM Store A)
    (id : A → ObjectId) : Prop :=
  Ensures (Pristine objects) change
    fun answer => Pristine ((id answer).index + 1)

end Store

end Scriptlet

------------------------------------------------------------
-- Changes of Pristine Stores
------------------------------------------------------------

namespace Scriptlet

namespace Store

variable {A B : Type}
variable {objects : Nat}

theorem Ensures.bind
    {before : Store → Prop}
    {between : A → Store → Prop}
    {after : B → Store → Prop}
    {first : StateM Store A}
    {rest : A → StateM Store B}
    (hFirst : Ensures before first between)
    (hRest :
      ∀ answer,
        Ensures (between answer) (rest answer) after) :
    Ensures before (first >>= rest) after :=
  fun store hStore =>
    hRest (first.run store).1 (first.run store).2
      (hFirst store hStore)

theorem keeps_intern (text : String) :
    Keeps objects (intern text) :=
  fun _ hStore =>
    ⟨hStore.layered, hStore.builtIn, hStore.sites,
      hStore.size⟩

theorem keeps_define
    (id : ObjectId)
    (name : Name)
    (value : Value) :
    Keeps objects (define id name value) := by
  intro store hStore
  refine ⟨hStore.layered.define id name value,
    hStore.builtIn, hStore.sites, ?_⟩
  change objects ≤
    (store.heap.define id name value).objects.size
  rw [Heap.size_objects_define]
  exact hStore.size

theorem keeps_newFunction
    {function : Function}
    (hFunction : function.BuiltIn) :
    Keeps objects
      (onHeap fun heap => heap.newFunction function) := by
  intro store hStore
  refine ⟨hStore.layered.newFunction function, ?_,
    hStore.sites, hStore.size⟩
  intro id other hOther
  rcases Heap.eq_or_function?_of_newFunction hOther with
    rfl | hOld
  · exact hFunction
  · exact hStore.builtIn id other hOld

theorem gives_newScope :
    Gives objects
      (onHeap fun heap => heap.newScope none) id := by
  intro store hStore
  refine ⟨hStore.layered.newObject .scope (by simp),
    hStore.builtIn, hStore.sites, ?_⟩
  change store.heap.objects.size + 1 ≤
    (store.heap.newScope none).2.objects.size
  simp [Heap.newScope]

end Store

end Scriptlet

------------------------------------------------------------
-- Global Frames
------------------------------------------------------------

namespace Scriptlet

namespace Store

/-
  What survives while things are bound in a global frame:
  names are interned, primitives are made, and no object is
  bound but the frame.
-/
structure Survives
    (kept : ObjectId → Store → Prop) : Prop where
  intern :
    ∀ global text,
      Ensures (kept global) (Store.intern text)
        fun _ => kept global
  newFunction :
    ∀ (global : ObjectId) {function : Function},
      function.BuiltIn →
        Ensures (kept global)
          (onHeap fun heap => heap.newFunction function)
          fun _ => kept global
  define :
    ∀ (global id : ObjectId) (name : Name) {value : Value},
      (∀ object,
          value.object? = some object → object = global) →
        Ensures (kept global) (Store.define id name value)
          fun _ => kept global

namespace Survives

variable {kept : ObjectId → Store → Prop}
variable {before : Store → Prop}

theorem definePrimitive
    (hKept : Survives kept)
    (global frame : ObjectId)
    (text : String)
    {arity : Arity}
    {primitive : Primitive}
    (hFunction :
      ∀ name,
        Function.BuiltIn
          { name, arity, action := .primitive primitive }) :
    Ensures (kept global)
      (Store.definePrimitive frame text arity primitive)
      fun _ => kept global := by
  refine .bind (hKept.intern global text) fun name => ?_
  refine .bind (hKept.newFunction global (hFunction name))
    fun id => ?_
  apply hKept.define global frame name
  intro object hObject
  cases hObject

theorem defineOperators
    (hKept : Survives kept)
    (global frame : ObjectId)
    (ops : List Operator) :
    Ensures (kept global) (Store.defineOperators frame ops)
      fun _ => kept global := by
  induction ops with
  | nil => exact fun _ hStore => hStore
  | cons op ops ih =>
      refine .bind
        (hKept.definePrimitive global frame op.symbol ?_)
        fun _ => ih
      intro name
      exact ⟨⟨_, rfl⟩, fun _ _ => rfl⟩

/- What a new scope begins, a new global frame ends with. -/
theorem newGlobal
    (hKept : Survives kept)
    (hScope :
      Ensures before (onHeap fun heap => heap.newScope none)
        kept) :
    Ensures before Store.newGlobal kept := by
  unfold Store.newGlobal
  refine .bind hScope fun global => ?_
  refine .bind (hKept.intern global globalName)
    fun name => ?_
  refine .bind (hKept.define global global name ?_)
    fun _ => ?_
  · intro object hObject
    cases hObject
    rfl
  refine .bind (hKept.definePrimitive global global "print"
    ?_) fun _ => ?_
  · intro name
    exact ⟨⟨_, rfl⟩, fun _ _ => rfl⟩
  · exact .bind
      (hKept.defineOperators global global Operator.all)
      fun _ _ hStore => hStore

/- So does a new interpreter. -/
theorem create
    (hKept : Survives kept)
    (hScope :
      Ensures before (onHeap fun heap => heap.newScope none)
        kept)
    (settings : Settings)
    (printer : Printer) :
    Ensures before
      (Interpreter.create settings printer none)
      fun interpreter => kept interpreter.global := by
  unfold Interpreter.create
  refine .bind (hKept.newGlobal hScope) fun global => ?_
  refine .bind (hKept.intern global "this")
    fun this => ?_
  exact .bind (hKept.intern global "lambda")
    fun lambda _ hStore => hStore

end Survives

theorem survives_pristine :
    Survives fun global => Pristine (global.index + 1) where
  intern _ text := keeps_intern text
  newFunction _ _ hFunction := keeps_newFunction hFunction
  define _ id name value _ := keeps_define id name value

end Store

/- A store goes from the first part to the rest. -/
theorem Store.run_bind
    {A B : Type}
    (first : StateM Store A)
    (rest : A → StateM Store B)
    (store : Store) :
    (first >>= rest).run store =
      (rest (first.run store).1).run
        (first.run store).2 := by
  rfl

namespace Interpreter

/- The settings go into the interpreter and nowhere else. -/
theorem run_create
    (settings : Settings)
    (printer : Printer)
    (store : Store) :
    (create settings printer none).run store =
      let framed := Store.newGlobal.run store
      let named := (Store.intern "this").run framed.2
      let last := (Store.intern "lambda").run named.2
      ({ global := framed.1
         this := named.1
         lambda := last.1
         strategy := settings.strategy
         cacheDepth := settings.cacheDepth
         stack := .new settings.maxCallDepth
         printer }, last.2) := by
  unfold create
  simp only [Store.run_bind]
  generalize StateT.run Store.newGlobal store = made
  rfl

/- Interpreters differ as their settings do. -/
theorem run_create_eq
    (settings other : Settings)
    (printer : Printer)
    (store : Store) :
    (create other printer none).run store =
      let made := (create settings printer none).run store
      ({ made.1 with
         strategy := other.strategy
         cacheDepth := other.cacheDepth
         stack := .new other.maxCallDepth }, made.2) := by
  rw [run_create, run_create]

/- An interpreter starts with a stack without calls. -/
theorem stack_create
    (settings : Settings)
    (printer : Printer)
    (store : Store) :
    ((create settings printer none).run store).1.stack =
      .new settings.maxCallDepth := by
  rw [run_create]

end Interpreter

/- The global frame of a new interpreter is an object. -/
theorem Interpreter.gives_create
    {objects : Nat}
    (settings : Settings)
    (printer : Printer) :
    Store.Gives objects (create settings printer none)
      Interpreter.global :=
  Store.survives_pristine.create Store.gives_newScope
    settings printer

end Scriptlet

------------------------------------------------------------
-- Pristine Machines
------------------------------------------------------------

namespace Scriptlet

namespace Store.Pristine

variable {objects : Nat}
variable {store : Store}

/- A machine without programs is sound. -/
theorem sound
    (hStore : store.Pristine objects)
    (interpreter : Interpreter) :
    (interpreter.machine store).Sound #[] where
  layered := hStore.layered
  functions := by
    intro id function hFunction
    exact (hStore.builtIn id function hFunction).2 _ _
  served := by
    change store.sites.map CallSite.argc = #[]
    rw [hStore.sites, Array.map_empty]
  coherent := by
    intro id site hSite
    change store.sites[id]? = some site at hSite
    rw [hStore.sites] at hSite
    simp at hSite

/- A machine without programs is its own image. -/
theorem imageHeap
    (hStore : store.Pristine objects)
    (view : View) :
    view.imageHeap store.heap = store.heap := by
  apply Heap.mapFunctions_eq_self
  intro id function hFunction
  rcases hStore.builtIn id function hFunction with
    ⟨⟨primitive, hAction⟩, _⟩
  unfold View.imageFunction
  rw [hAction, View.image, ← hAction]

end Store.Pristine

end Scriptlet
