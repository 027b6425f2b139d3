import Scriptlet.Proofs.Heap.Layered
import Scriptlet.Proofs.Machine.Evolution

/-
  What primitives do to a machine.

  A primitive, built in or not, sees nothing of the machine
  but its heap. So the heap settles what it answers, which
  texts it prints and which heap it leaves. It touches no
  call site and no active call, and the functions that it
  makes are functions of the embedding program.

  Key definitions include:
    * `Printer.writeAll`
    * `Effect`
    * `Effect.Shows`
    * `Effect.Describes`

  Key theorems include:
    * `HostCode.exists_effect`
    * `Primitive.exists_effect`
    * `Caller.exists_effect`
-/

------------------------------------------------------------
-- Effects
------------------------------------------------------------

namespace Scriptlet

/- Print texts, one after another. -/
def Printer.writeAll
    (printer : Printer) :
    List String → Printer
  | [] => printer
  | text :: texts => (printer.write text).1.writeAll texts

/-
  What a computation comes to: its answer, the texts that it
  prints, and the heap that it leaves.
-/
structure Effect (E : Type) where
  answer : Except E Value
  texts : List String
  heap : Heap

namespace Effect

variable {E F : Type}

/- A result that shows an effect on a machine. -/
structure Shows
    (effect : Effect E)
    (machine : Machine)
    (result : EStateM.Result E Machine Value) : Prop where
  answer : answerOf result = effect.answer
  printer :
    (Machine.after result).printer =
      machine.printer.writeAll effect.texts
  heap : (Machine.after result).heap = effect.heap
  sites : (Machine.after result).sites = machine.sites
  stack : (Machine.after result).stack = machine.stack

/-
  A computation that has the same effect on all machines
  with one heap, and adds nothing but functions of the
  embedding program to the functions of that heap.
-/
structure Describes
    (effect : Effect E)
    (heap : Heap)
    (run : RunM E Value) : Prop where
  shows :
    ∀ machine : Machine,
      machine.heap = heap →
        effect.Shows machine (run machine)
  functions :
    ∀ id function,
      effect.heap.function? id = some function →
        heap.function? id = some function ∨
          ∃ host, function.action = .primitive (.host host)

namespace Describes

variable {effect : Effect E}
variable {heap : Heap}

/- Answering at once. -/
theorem pure
    (heap : Heap)
    (value : Value) :
    Describes { answer := .ok value, texts := [], heap }
      heap (pure value : RunM E Value) where
  shows _ hHeap := ⟨rfl, rfl, hHeap, rfl, rfl⟩
  functions _ _ hFunction := .inl hFunction

/- Failing at once. -/
theorem throw
    (heap : Heap)
    (reason : E) :
    Describes { answer := .error reason, texts := [], heap }
      heap (throw reason : RunM E Value) where
  shows _ hHeap := ⟨rfl, rfl, hHeap, rfl, rfl⟩
  functions _ _ hFunction := .inl hFunction

/- Printing a text first. -/
theorem print
    {rest : RunM E Value}
    (hRest : effect.Describes heap rest)
    (text : String) :
    Describes { effect with texts := text :: effect.texts }
      heap (Machine.print text >>= fun _ => rest) where
  shows := by
    intro machine hHeap
    have hShows := hRest.shows (machine.wrote text) hHeap
    rw [RunM.bind_apply, Machine.print_apply]
    exact ⟨hShows.answer, hShows.printer, hShows.heap,
      hShows.sites, hShows.stack⟩
  functions := hRest.functions

/- Reading the heap first. -/
theorem askHeap
    {A : Type}
    {rest : A → RunM E Value}
    (question : Heap → A)
    (hRest :
      effect.Describes heap (rest (question heap))) :
    effect.Describes heap
      (Machine.askHeap question >>= rest) where
  shows := by
    intro machine hHeap
    rw [RunM.bind_apply, Machine.askHeap_apply, hHeap]
    exact hRest.shows machine hHeap
  functions := hRest.functions

/- Changing the heap first. -/
theorem onHeap
    {A : Type}
    {rest : A → RunM E Value}
    (change : Heap → A × Heap)
    (hFunctions :
      ∀ id function,
        (change heap).2.function? id = some function →
          heap.function? id = some function ∨
            ∃ host,
              function.action = .primitive (.host host))
    (hRest :
      effect.Describes (change heap).2
        (rest (change heap).1)) :
    effect.Describes heap
      (Machine.onHeap change >>= rest) where
  shows := by
    intro machine hHeap
    have hShows := hRest.shows
      { machine with heap := (change heap).2 } rfl
    rw [RunM.bind_apply, Machine.onHeap_apply, hHeap]
    exact ⟨hShows.answer, hShows.printer, hShows.heap,
      hShows.sites, hShows.stack⟩
  functions := by
    intro id function hFunction
    rcases hRest.functions id function hFunction with
      hChanged | hHost
    · exact hFunctions id function hChanged
    · exact .inr hHost

/- Giving another reason for a failure. -/
theorem adaptExcept
    {run : RunM E Value}
    (hRun : effect.Describes heap run)
    (adapt : E → F) :
    Describes
      { effect with answer := effect.answer.mapError adapt }
      heap (EStateM.adaptExcept adapt run) where
  shows := by
    intro machine hHeap
    have hShows := hRun.shows machine hHeap
    have hAnswer :=
      congrArg (Except.mapError adapt) hShows.answer
    rw [RunM.adaptExcept_apply]
    generalize run machine = result at *
    cases result with
    | ok value next =>
        exact ⟨hAnswer, hShows.printer, hShows.heap,
          hShows.sites, hShows.stack⟩
    | error reason next =>
        exact ⟨hAnswer, hShows.printer, hShows.heap,
          hShows.sites, hShows.stack⟩
  functions := hRun.functions

end Describes

end Effect

end Scriptlet

------------------------------------------------------------
-- Effects of Primitives
------------------------------------------------------------

namespace Scriptlet

/- Host code has an effect that its heap settles. -/
theorem HostCode.exists_effect
    (interner : Interner)
    (code : HostCode)
    (heap : Heap) :
    ∃ effect : Effect Failure,
      effect.Describes heap (code.run interner) := by
  induction code generalizing heap with
  | answer value => exact ⟨_, .pure heap value⟩
  | fail failure => exact ⟨_, .throw heap failure⟩
  | print text next ih =>
      rcases ih heap with ⟨effect, hNext⟩
      exact ⟨_, hNext.print text⟩
  | printed value next ih =>
      rcases ih (heap.printed interner value) heap with
        ⟨effect, hNext⟩
      exact ⟨effect, .askHeap _ hNext⟩
  | look next ih =>
      rcases ih heap.objects heap with ⟨effect, hNext⟩
      exact ⟨effect, .askHeap _ hNext⟩
  | define id name value next ih =>
      rcases ih (heap.define id name value) with
        ⟨effect, hNext⟩
      refine ⟨effect, .onHeap _ ?_ hNext⟩
      exact fun _ _ hFunction => .inl hFunction
  | newObject role parent next ih =>
      let made := heap.newObject role parent
      rcases ih made.1 made.2 with ⟨effect, hNext⟩
      refine ⟨effect, .onHeap _ ?_ hNext⟩
      exact fun _ _ hFunction => .inl hFunction
  | newFunction name arity body next _ ih =>
      let made := heap.newFunction
        { name, arity
          action := .primitive (.host { body }) }
      rcases ih made.1 made.2 with ⟨effect, hNext⟩
      refine ⟨effect, .onHeap _ ?_ hNext⟩
      intro id function hFunction
      rcases Heap.eq_or_function?_of_newFunction hFunction
        with rfl | hOld
      · exact .inr ⟨_, rfl⟩
      · exact .inl hOld

/- So has every primitive. -/
theorem Primitive.exists_effect
    (interner : Interner)
    (primitive : Primitive)
    (receiver : Value)
    (args : List Value)
    (heap : Heap) :
    ∃ effect : Effect Failure,
      effect.Describes heap
        (primitive.call interner receiver args) := by
  cases primitive with
  | print =>
      let line := String.intercalate " "
        (args.map (heap.printed interner))
      refine ⟨{ answer := .ok .undefined
                texts := [line ++ "\n"], heap }, ?_, ?_⟩
      · intro machine hHeap
        subst hHeap
        rw [call, printLine_apply]
        exact ⟨rfl, rfl, rfl, rfl, rfl⟩
      · exact fun _ _ hFunction => .inl hFunction
  | operator op =>
      simp only [call]
      cases op.apply args with
      | ok value => exact ⟨_, .pure heap value⟩
      | error cause =>
          exact ⟨_, .throw heap (Failure.ofCause cause)⟩
  | host function =>
      exact HostCode.exists_effect interner
        (function.body interner receiver args) heap

namespace Caller

variable {target : Target}
variable {primitive : Primitive}

/- And so has the call of a primitive. -/
theorem exists_effect
    (hAction : target.action = .primitive primitive)
    (context : Context)
    (inner : Option Caller)
    (receiver : Value)
    (args : List Value)
    (line : Line)
    (heap : Heap) :
    ∃ effect : Effect Halt,
      effect.Describes heap
        (around context inner target receiver args
          line) := by
  rcases primitive.exists_effect context.interner receiver
      args heap with
    ⟨effect, hEffect⟩
  unfold around
  rw [hAction]
  exact ⟨_, hEffect.adaptExcept _⟩

/- A call of a primitive changes no site. -/
theorem sites_around
    (hAction : target.action = .primitive primitive)
    (context : Context)
    (inner : Option Caller)
    (receiver : Value)
    (args : List Value)
    (line : Line)
    (machine : Machine) :
    (Machine.after
        (around context inner target receiver args line
          machine)).sites =
      machine.sites := by
  rcases exists_effect hAction context inner receiver args
      line machine.heap with
    ⟨effect, hEffect⟩
  exact (hEffect.shows machine rfl).sites

/- It leaves the stack that it found. -/
theorem stack_around
    (hAction : target.action = .primitive primitive)
    (context : Context)
    (inner : Option Caller)
    (receiver : Value)
    (args : List Value)
    (line : Line)
    (machine : Machine) :
    (Machine.after
        (around context inner target receiver args line
          machine)).stack =
      machine.stack := by
  rcases exists_effect hAction context inner receiver args
      line machine.heap with
    ⟨effect, hEffect⟩
  exact (hEffect.shows machine rfl).stack

end Caller

end Scriptlet
