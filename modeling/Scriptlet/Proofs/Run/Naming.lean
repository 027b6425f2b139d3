import Scriptlet.Proofs.Eval.Tracking
import Scriptlet.Proofs.Run.Transparency

/-
  The numbers of names cannot be seen.

  A draft can be built and run on any table of names. What
  was interned before decides which numbers the names in the
  tree get, and the names of the global frame, and those
  that an interpreter uses itself. But it decides nothing
  that a run shows: every table covers the one that holds
  only the empty string, so that every run is the run on
  that table under other names.

  Key definitions include:
    * `Store.tabled`
    * `Interpreter.rename`
    * `Interpreter.likeness`
    * `Builder.transcript`

  Key theorems include:
    * `Interpreter.parallel_create`
    * `Interpreter.shown_run_rename`
    * `Builder.transcript_eq_of_covers`
    * `interning_unseen`
-/

------------------------------------------------------------
-- Global Frames
------------------------------------------------------------

namespace Scriptlet

namespace Store

/- Stores are alike if their heaps are renamed. -/
def tabled : Tabled Store where
  table := Store.interner
  like rename left right :=
    Function.Injective rename ∧
      left.heap.Renamed rename right.heap

variable {needs : (Name → Name) → Prop}

theorem parallel_intern (text : String) :
    tabled.Parallel needs (intern text) (intern text)
      fun rename name other => other = rename name :=
  .intern (fun _ => rfl) (fun _ => rfl)
    fun _ _ _ hLike => hLike

theorem parallel_newScope :
    tabled.Parallel needs
      (onHeap fun heap => heap.newScope none)
      (onHeap fun heap => heap.newScope none)
      fun _ id other => other = id :=
  .of_table_eq (fun _ => rfl) (fun _ => rfl)
    fun _ _ _ _ hLike =>
      ⟨⟨hLike.1, hLike.2.newObject .scope none⟩,
        congrArg ObjectId.mk hLike.2.sizeObjects⟩

theorem parallel_newFunction
    {function other : Function}
    (hFunction :
      ∀ rename,
        needs rename → function.Renamed rename other) :
    tabled.Parallel needs
      (onHeap fun heap => heap.newFunction function)
      (onHeap fun heap => heap.newFunction other)
      fun _ id other => other = id :=
  .of_table_eq (fun _ => rfl) (fun _ => rfl)
    fun _ _ rename hNeeds hLike =>
      ⟨⟨hLike.1,
          hLike.2.newFunction (hFunction rename hNeeds)⟩,
        congrArg FunctionId.mk hLike.2.sizeFunctions⟩

theorem parallel_define
    {id otherId : ObjectId}
    {name otherName : Name}
    {value other : Value}
    (hSame :
      ∀ rename,
        needs rename →
          otherId = id ∧ otherName = rename name ∧
            other = value) :
    tabled.Parallel needs (define id name value)
      (define otherId otherName other)
      fun _ _ _ => True := by
  refine .of_table_eq (fun _ => rfl) (fun _ => rfl) ?_
  intro left right rename hNeeds hLike
  rcases hSame rename hNeeds with ⟨rfl, rfl, rfl⟩
  exact ⟨⟨hLike.1, hLike.2.define hLike.1 _ name _⟩,
    trivial⟩

theorem parallel_definePrimitive
    {frame otherFrame : ObjectId}
    (hFrame :
      ∀ rename, needs rename → otherFrame = frame)
    (text : String)
    (arity : Arity)
    {primitive : Primitive}
    (hBuiltIn : primitive.isHost = false) :
    tabled.Parallel needs
      (definePrimitive frame text arity primitive)
      (definePrimitive otherFrame text arity primitive)
      fun _ _ _ => True := by
  refine (parallel_intern text).bind fun name _ => ?_
  refine (parallel_newFunction ?_).bind fun id _ => ?_
  · rintro rename ⟨-, rfl⟩
    exact ⟨rfl, rfl, .primitive hBuiltIn⟩
  · refine parallel_define ?_
    rintro rename ⟨⟨hNeeds, rfl⟩, rfl⟩
    exact ⟨hFrame rename hNeeds, rfl, rfl⟩

theorem parallel_defineOperators
    {frame otherFrame : ObjectId}
    (hFrame :
      ∀ rename, needs rename → otherFrame = frame)
    (ops : List Operator) :
    tabled.Parallel needs (defineOperators frame ops)
      (defineOperators otherFrame ops)
      fun _ _ _ => True := by
  induction ops generalizing needs with
  | nil => exact .pure fun _ _ => trivial
  | cons op ops ih =>
      refine (parallel_definePrimitive hFrame op.symbol
        (.fixed 2) rfl).bind fun _ _ => ?_
      refine ih ?_
      rintro rename ⟨hNeeds, -⟩
      exact hFrame rename hNeeds

/- A global frame is made under other names. -/
theorem parallel_newGlobal :
    tabled.Parallel needs newGlobal newGlobal
      fun _ global other => other = global := by
  refine parallel_newScope.bind fun global _ => ?_
  refine (parallel_intern globalName).bind
    fun name _ => ?_
  refine (parallel_define ?_).bind fun _ _ => ?_
  · rintro rename ⟨⟨-, rfl⟩, rfl⟩
    exact ⟨rfl, rfl, rfl⟩
  refine (parallel_definePrimitive ?_ "print" .variadic
    rfl).bind fun _ _ => ?_
  · rintro rename ⟨⟨⟨-, rfl⟩, -⟩, -⟩
    rfl
  refine (parallel_defineOperators ?_ Operator.all).bind
    fun _ _ => ?_
  · rintro rename ⟨⟨⟨⟨-, rfl⟩, -⟩, -⟩, -⟩
    rfl
  refine .pure ?_
  rintro rename ⟨⟨⟨⟨⟨-, rfl⟩, -⟩, -⟩, -⟩, -⟩
  rfl

end Store

namespace Interpreter

/- The same interpreter under other names. -/
def rename
    (map : Name → Name)
    (interpreter : Interpreter) :
    Interpreter :=
  { interpreter with
    this := map interpreter.this
    lambda := map interpreter.lambda
    stack := interpreter.stack.rename map }

/- An interpreter is made under other names. -/
theorem parallel_create
    {needs : (Name → Name) → Prop}
    (settings : Settings)
    (printer : Printer) :
    Store.tabled.Parallel needs
      (create settings printer none)
      (create settings printer none)
      fun rename interpreter other =>
        other = interpreter.rename rename := by
  unfold create
  refine Store.parallel_newGlobal.bind fun global _ => ?_
  refine (Store.parallel_intern "this").bind
    fun this _ => ?_
  refine (Store.parallel_intern "lambda").bind
    fun lambda _ => ?_
  refine .pure ?_
  rintro rename ⟨⟨⟨-, rfl⟩, rfl⟩, rfl⟩
  rfl

end Interpreter

end Scriptlet

------------------------------------------------------------
-- Runs
------------------------------------------------------------

namespace Scriptlet

/- Renamed scripts are walked alike. -/
theorem Script.tracks_walk
    {left right : Context}
    {like : Likeness left right}
    (script : Script)
    (budget : Nat)
    (global : ObjectId) :
    like.Tracks Eq
      (script.walk left budget global)
      ((script.rename like.rename).walk right budget
        global) := by
  refine .adaptExcept Signal.outermost ?_
  refine (Expr.tracks_evalBlock
    (Caller.tracks_within budget) global script.body).bind_eq
    fun _ => ?_
  exact .pure rfl

/- What can be seen of the result of a task. -/
def Shown.ofResult :
    EStateM.Result Halt Machine Unit → Shown
  | .ok _ machine =>
      { halt := none, printer := machine.printer }
  | .error reason machine =>
      { halt := some reason, printer := machine.printer }

/- Results that are alike show the same on one printer. -/
theorem Likeness.Ended.shown_eq
    {left right : Context}
    {like : Likeness left right}
    (hPrinters :
      ∀ printer other,
        like.printers printer other → other = printer)
    {result other : EStateM.Result Halt Machine Unit}
    (hEnded : like.Ended Eq result other) :
    Shown.ofResult other = Shown.ofResult result := by
  cases hEnded with
  | ok hAlike =>
      simp only [Shown.ofResult,
        hPrinters _ _ hAlike.printer]
  | error hAlike =>
      simp only [Shown.ofResult,
        hPrinters _ _ hAlike.printer]

namespace Interpreter

/- A walk is noted and then begun. -/
theorem run_of_treeWalk
    {interpreter : Interpreter}
    (hStrategy : interpreter.strategy = .treeWalk)
    (hostDepth : Nat)
    (script : Script)
    (store : Store) :
    interpreter.run hostDepth script store =
      interpreter.perform store (fun context => do
        Machine.note (.running .treeWalk)
        script.walk context (interpreter.budget hostDepth)
          interpreter.global) := by
  unfold run
  rw [hStrategy]

/- A task shows what its result shows. -/
theorem shown_perform
    (interpreter : Interpreter)
    (store : Store)
    (task : Context → CallM Unit) :
    (interpreter.perform store task).shown =
      Shown.ofResult
        (task (interpreter.context store)
          (interpreter.machine store)) := by
  unfold perform
  cases
    task (interpreter.context store)
      (interpreter.machine store) <;> rfl

/- An interpreter is like itself under translated names. -/
def likeness
    (interpreter : Interpreter)
    {store other : Store}
    (translation :
      Translation store.interner other.interner) :
    Likeness (interpreter.context store)
      ((interpreter.rename translation.rename).context
        other) where
  toTranslation := translation
  this := rfl
  lambda := rfl
  printers := Eq
  write text hSame :=
    congrArg (fun printer => (printer.write text).1) hSame

/- A walk of a renamed script shows what a walk does. -/
theorem shown_run_rename
    {interpreter : Interpreter}
    (hStrategy : interpreter.strategy = .treeWalk)
    {store other : Store}
    (translation :
      Translation store.interner other.interner)
    (hHeap :
      store.heap.Renamed translation.rename other.heap)
    (script : Script)
    (hostDepth : Nat) :
    ((interpreter.rename translation.rename).run hostDepth
        (script.rename translation.rename) other).shown =
      (interpreter.run hostDepth script store).shown := by
  let renamed := interpreter.rename translation.rename
  let like := interpreter.likeness translation
  have hAlike :
      like.Alike (interpreter.machine store)
        (renamed.machine other) :=
    ⟨hHeap, rfl, rfl⟩
  have hRun :
      like.Tracks Eq
        (do
          Machine.note (.running .treeWalk)
          script.walk (interpreter.context store)
            (interpreter.budget hostDepth)
            interpreter.global)
        (do
          Machine.note (.running .treeWalk)
          (script.rename translation.rename).walk
            (renamed.context other)
            (renamed.budget hostDepth) renamed.global) := by
    refine (Likeness.Tracks.note _ _).bind_eq fun _ => ?_
    exact script.tracks_walk _ _
  have hOther : renamed.strategy = .treeWalk := hStrategy
  rw [run_of_treeWalk hStrategy, run_of_treeWalk hOther,
    shown_perform, shown_perform]
  exact (hRun _ _ hAlike).shown_eq fun _ _ => Eq.symm

end Interpreter

/-
  Between two tables there is a renaming under which every
  script shows the same when it is walked.
-/
theorem Script.exists_rename_of_covers
    {base interner : Interner}
    (hCovers : base.Covers interner)
    (settings : Settings)
    (hStrategy : settings.strategy = .treeWalk)
    (printer : Printer) :
    ∃ rename,
      Interner.Translates rename base interner ∧
        ∀ (script : Script) (hostDepth : Nat),
          ((script.rename rename).runFresh settings
              hostDepth printer
              (.ofInterner interner)).shown =
            (script.runFresh settings hostDepth printer
              (.ofInterner base)).shown := by
  have hCreate :
      Store.tabled.Parallel (fun _ => True)
        (Interpreter.create settings printer none)
        (Interpreter.create settings printer none)
        fun rename interpreter other =>
          other = interpreter.rename rename :=
    Interpreter.parallel_create settings printer
  have hMadeStrategy :
      ((Interpreter.create settings printer none).run
        (.ofInterner base)).1.strategy = .treeWalk := by
    rw [Interpreter.run_create]
    exact hStrategy
  have hAdvances := hCreate.advances (.ofInterner base)
    (.ofInterner interner) hCovers
  have hRelated := hCreate.related (.ofInterner base)
    (.ofInterner interner)
  unfold runFresh
  generalize
    (Interpreter.create settings printer none).run
      (.ofInterner base) = made at *
  generalize
    (Interpreter.create settings printer none).run
      (.ofInterner interner) = otherMade at *
  have hLast :
      made.2.interner.Covers otherMade.2.interner :=
    hAdvances.covers
  let translation := hLast.translation
  rcases hRelated translation.rename hCovers
      translation.translates trivial
      ⟨translation.injective, Heap.renamed_empty⟩ with
    ⟨⟨-, hHeap⟩, hInterpreter⟩
  refine ⟨translation.rename,
    hAdvances.translates hCovers translation.translates, ?_⟩
  intro script hostDepth
  change (otherMade.1.run hostDepth _ otherMade.2).shown = _
  rw [hInterpreter]
  exact Interpreter.shown_run_rename hMadeStrategy
    translation hHeap script hostDepth

end Scriptlet

------------------------------------------------------------
-- Drafts
------------------------------------------------------------

namespace Scriptlet

namespace Builder

/- Build a draft on a table, and run it with that table. -/
def transcript
    (interner : Interner)
    (drafts : List Draft)
    (settings : Settings)
    (hostDepth : Nat) :
    Transcript :=
  let built := script interner drafts
  built.1.transcript settings hostDepth
    (.ofInterner built.2.interner)

/- A draft shows the same on a table that covers another. -/
theorem transcript_eq_of_covers
    {base interner : Interner}
    (hCovers : base.Covers interner)
    (drafts : List Draft)
    (settings : Settings)
    (hostDepth : Nat) :
    transcript interner drafts settings hostDepth =
      transcript base drafts settings hostDepth := by
  have hBuild :
      tabled.Parallel (fun _ => True)
        (Draft.buildAll drafts) (Draft.buildAll drafts)
        fun rename exprs others =>
          others = Expr.renameAll rename exprs :=
    Draft.parallel_buildAll drafts
  have hBuilt :=
    (hBuild.advances { interner := base } { interner }
      hCovers).covers
  -- Walking is enough, since the strategy is not seen.
  let walking := { settings with strategy := .treeWalk }
  rcases Script.exists_rename_of_covers hBuilt walking rfl
      (.buffer "") with
    ⟨rename, hTranslates, hShown⟩
  have hScript :
      (script interner drafts).1 =
        (script base drafts).1.rename rename :=
    congrArg Script.mk
      (hBuild.related { interner := base } { interner }
        rename hCovers hTranslates trivial rfl).2
  have hLimit :
      settings.maxCallDepth = walking.maxCallDepth := rfl
  have hSame :=
    hShown (script base drafts).1 hostDepth
  rw [← hScript] at hSame
  unfold transcript
  rw [Script.transcript_eq, Script.transcript_eq,
    Script.shown_runFresh_congr hLimit,
    Script.shown_runFresh_congr hLimit]
  exact congrArg Shown.transcript hSame

end Builder

/-
  What a draft shows does not depend on which strings were
  interned before it was built, or in which order.
-/
theorem interning_unseen
    (left right : Interner)
    (hLeft : left.Reachable)
    (hRight : right.Reachable)
    (drafts : List Draft)
    (settings : Settings)
    (hostDepth : Nat) :
    Builder.transcript left drafts settings hostDepth =
      Builder.transcript right drafts settings
        hostDepth := by
  rw [Builder.transcript_eq_of_covers hLeft.covers_new,
    Builder.transcript_eq_of_covers hRight.covers_new]

/-
  Print a record from a function without a name, which then
  calls what is not a function.
-/
def showThenFail : List Draft :=
  [.declare "show"
      (.function none ["this", "x"]
        [.callName "print" [.var "x"],
          .moveTo 2 (.callName "lambda" [])]),
    .callName "show"
      [.literal (.int 1),
        .record
          [("x", .literal (.bool true)),
            ("", .literal .undefined)]]]

/- Two tables that number the names of a run differently. -/
theorem interning_unseen_showThenFail :
    let left := (Interner.new.intern "lambda").2
    let right :=
      ((Interner.new.internBounded "x").2.intern "==").2
    left.Reachable ∧ right.Reachable ∧
      Builder.transcript left showThenFail
          { strategy := .inlineCache } 2 =
        Builder.transcript right showThenFail
          { strategy := .inlineCache } 2 := by
  intro left right
  have hLeft : left.Reachable := .intern .new "lambda"
  have hRight : right.Reachable :=
    .intern (.internBounded .new "x") "=="
  exact ⟨hLeft, hRight,
    interning_unseen left right hLeft hRight showThenFail
      { strategy := .inlineCache } 2⟩

end Scriptlet
