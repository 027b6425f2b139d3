import Scriptlet.Proofs.Cache.Coherence

/-
  What a call site is after any dispatches.

  A dispatch asks a site for its callee, and offers the
  callee to the site if the site does not know it and the
  callee passes the check. What a site is after a sequence
  of dispatches depends only on the functions that passed
  the check: on how many there are, and on which of them
  came first.

  Key definitions include:
    * `Attempt`
    * `CallSite.dispatch`
    * `CallSite.replay`
    * `Attempt.accepted`
    * `CallSite.Accounts`
    * `CallSite.Answers`
    * `CallSite.Replays`

  Key theorems include:
    * `CacheState.Holds.extend`
    * `CallSite.Accounts.dispatch`
    * `CallSite.Accounts.replay`
    * `CallSite.Replays.accounts`
-/

------------------------------------------------------------
-- Dispatches
------------------------------------------------------------

namespace Scriptlet

/-
  One dispatch: the callee, and the target that it has if it
  passes the check.
-/
structure Attempt where
  callee : FunctionId
  verdict : Option Target

namespace CallSite

/-
  Dispatch at a site: the step that is reported, if any, and
  the site afterwards.
-/
def dispatch
    (site : CallSite)
    (attempt : Attempt) :
    Option Transition × CallSite :=
  match (site.ask attempt.callee).1, attempt.verdict with
  | none, some target =>
      (site.ask attempt.callee).2.learn attempt.callee
        target
  | _, _ => (none, (site.ask attempt.callee).2)

/- A site after dispatches, one after another. -/
def replay (site : CallSite) : List Attempt → CallSite
  | [] => site
  | attempt :: attempts =>
      (site.dispatch attempt).2.replay attempts

/- The steps that dispatches report, one after another. -/
def steps (site : CallSite) : List Attempt → List Transition
  | [] => []
  | attempt :: attempts =>
      (site.dispatch attempt).1.toList ++
        (site.dispatch attempt).2.steps attempts

@[simp] theorem line_dispatch
    (site : CallSite)
    (attempt : Attempt) :
    (site.dispatch attempt).2.line = site.line := by
  unfold dispatch ask
  split <;> split <;> rfl

@[simp] theorem argc_dispatch
    (site : CallSite)
    (attempt : Attempt) :
    (site.dispatch attempt).2.argc = site.argc := by
  unfold dispatch ask
  split <;> split <;> rfl

@[simp] theorem room_dispatch
    (site : CallSite)
    (attempt : Attempt) :
    (site.dispatch attempt).2.room = site.room := by
  unfold dispatch ask
  split <;> split <;> rfl

/- A dispatch asks once, and learning does not count. -/
theorem hits_add_misses_dispatch
    (site : CallSite)
    (attempt : Attempt) :
    (site.dispatch attempt).2.hits +
        (site.dispatch attempt).2.misses =
      site.hits + site.misses + 1 := by
  have hAsk := site.hits_add_misses_ask attempt.callee
  unfold dispatch
  split
  · rw [hits_learn, misses_learn]
    exact hAsk
  · exact hAsk

theorem replay_append
    (site : CallSite)
    (first rest : List Attempt) :
    site.replay (first ++ rest) =
      (site.replay first).replay rest := by
  induction first generalizing site with
  | nil => rfl
  | cons attempt first ih => exact ih _

theorem steps_append
    (site : CallSite)
    (first rest : List Attempt) :
    site.steps (first ++ rest) =
      site.steps first ++
        (site.replay first).steps rest := by
  induction first generalizing site with
  | nil => rfl
  | cons attempt first ih =>
      rw [List.cons_append, steps, steps, replay, ih,
        List.append_assoc]

variable {site : CallSite}
variable {attempt : Attempt}

/- A callee that the site knows is a hit. -/
theorem dispatch_of_known
    {target : Target}
    (hKnown :
      site.state.find? attempt.callee = some target) :
    site.dispatch attempt =
      (none, { site with hits := site.hits + 1 }) := by
  simp [dispatch, ask, hKnown]

/- A callee that fails the check is a miss. -/
theorem dispatch_of_rejected
    (hUnknown : site.state.find? attempt.callee = none)
    (hRejected : attempt.verdict = none) :
    site.dispatch attempt =
      (none, { site with misses := site.misses + 1 }) := by
  simp [dispatch, ask, hUnknown, hRejected]

/- A callee that passes the check is a miss, and learned. -/
theorem dispatch_of_accepted
    {target : Target}
    (hUnknown : site.state.find? attempt.callee = none)
    (hAccepted : attempt.verdict = some target) :
    site.dispatch attempt =
      { site with misses := site.misses + 1 }.learn
        attempt.callee target := by
  simp [dispatch, ask, hUnknown, hAccepted]

end CallSite

end Scriptlet

------------------------------------------------------------
-- Accepted Functions
------------------------------------------------------------

namespace Scriptlet

namespace Attempt

/-
  The functions that passed the check in some dispatches, in
  the order in which they first did.
-/
def accepted (attempts : List Attempt) : List FunctionId :=
  ((attempts.filter fun attempt =>
    attempt.verdict.isSome).map callee).eraseDups

variable {attempts : List Attempt}
variable {attempt : Attempt}

/- A rejected function is not among them. -/
theorem accepted_of_rejected
    (hRejected : attempt.verdict = none) :
    accepted (attempts ++ [attempt]) =
      accepted attempts := by
  simp [accepted, List.filter_append, hRejected]

/- A function is among them once. -/
theorem accepted_of_mem
    (hMem : attempt.callee ∈ accepted attempts) :
    accepted (attempts ++ [attempt]) =
      accepted attempts := by
  unfold accepted at *
  rw [List.mem_eraseDups] at hMem
  rw [List.filter_append, List.map_append,
    List.eraseDups_append]
  cases hVerdict : attempt.verdict with
  | none => simp [hVerdict]
  | some target => simp [hVerdict, List.removeAll, hMem]

/- A function that was never accepted comes last. -/
theorem accepted_of_not_mem
    {target : Target}
    (hAccepted : attempt.verdict = some target)
    (hNew : attempt.callee ∉ accepted attempts) :
    accepted (attempts ++ [attempt]) =
      accepted attempts ++ [attempt.callee] := by
  unfold accepted at *
  rw [List.mem_eraseDups] at hNew
  rw [List.filter_append, List.map_append,
    List.eraseDups_append]
  simp [hAccepted, List.removeAll, hNew,
    List.eraseDups_cons]

end Attempt

end Scriptlet

------------------------------------------------------------
-- States
------------------------------------------------------------

namespace Scriptlet

/-
  The kind of state that a site with some room is in after
  so many functions.
-/
def CacheKind.of (room count : Nat) : CacheKind :=
  if count = 0 then
    .uninitialized
  else if room < count then
    .megamorphic
  else if count = 1 then
    .monomorphic
  else
    .polymorphic

namespace CacheKind

variable {room count : Nat}

theorem of_eq_uninitialized_iff :
    of room count = .uninitialized ↔ count = 0 := by
  grind [of]

theorem of_eq_monomorphic_iff :
    of room count = .monomorphic ↔
      count = 1 ∧ count ≤ room := by
  grind [of]

theorem of_eq_polymorphic_iff :
    of room count = .polymorphic ↔
      2 ≤ count ∧ count ≤ room := by
  grind [of]

theorem of_eq_megamorphic_iff :
    of room count = .megamorphic ↔ room < count := by
  grind [of]

end CacheKind

namespace CacheState

/-
  A state after functions were accepted in order: of the
  right kind, and with the first of them, newest first.
-/
structure Holds
    (room : Nat)
    (seen : List FunctionId)
    (state : CacheState) : Prop where
  kind : state.kind = .of room seen.length
  guards :
    state.entries.map Entry.guard = (seen.take room).reverse

namespace Holds

variable {room : Nat}
variable {seen : List FunctionId}
variable {state : CacheState}

theorem nil (room : Nat) :
    Holds room [] .uninitialized where
  kind := by simp [CacheState.kind, CacheKind.of]
  guards := by simp [entries]

/- The functions that a state knows are the first ones. -/
theorem isSome_find?
    (hHolds : state.Holds room seen)
    (callee : FunctionId) :
    (state.find? callee).isSome = true ↔
      callee ∈ seen.take room := by
  have hGuards := hHolds.guards
  rw [← List.mem_reverse, ← hGuards]
  simp [find?]

/- As many entries as functions that fit. -/
theorem length_entries
    (hHolds : state.Holds room seen) :
    state.entries.length = min room seen.length := by
  have hLength := congrArg List.length hHolds.guards
  simpa using hLength

/- While there is room, a further function comes first. -/
theorem extend_of_lt
    (hHolds : state.Holds room seen)
    (entry : Entry)
    (hRoom : seen.length < room) :
    (state.extend room entry).kind =
        .of room (seen.length + 1) ∧
      (state.extend room entry).entries =
        entry :: state.entries := by
  have hKind := hHolds.kind
  have hEntries := hHolds.length_entries
  cases state with
  | uninitialized =>
      have hCount :=
        CacheKind.of_eq_uninitialized_iff.mp hKind.symm
      rw [CacheState.extend, if_neg (by omega)]
      refine ⟨?_, rfl⟩
      exact (CacheKind.of_eq_monomorphic_iff.mpr
        (by omega)).symm
  | monomorphic first =>
      have hCount :=
        CacheKind.of_eq_monomorphic_iff.mp hKind.symm
      rw [CacheState.extend, if_neg (by omega),
        if_pos (by omega)]
      refine ⟨?_, rfl⟩
      exact (CacheKind.of_eq_polymorphic_iff.mpr
        (by omega)).symm
  | polymorphic kept =>
      have hCount :=
        CacheKind.of_eq_polymorphic_iff.mp hKind.symm
      have hKept : kept.length < room := by
        change kept.length = _ at hEntries
        omega
      rw [CacheState.extend, if_neg (by omega),
        if_pos hKept]
      refine ⟨?_, rfl⟩
      exact (CacheKind.of_eq_polymorphic_iff.mpr
        (by omega)).symm
  | megamorphic kept =>
      have hCount :=
        CacheKind.of_eq_megamorphic_iff.mp hKind.symm
      omega

/- Without room, a further function freezes the entries. -/
theorem extend_of_le
    (hHolds : state.Holds room seen)
    (entry : Entry)
    (hRoom : room ≤ seen.length) :
    state.extend room entry =
      .megamorphic state.entries := by
  have hKind := hHolds.kind
  have hEntries := hHolds.length_entries
  cases state with
  | uninitialized =>
      have hCount :=
        CacheKind.of_eq_uninitialized_iff.mp hKind.symm
      rw [CacheState.extend, if_pos (by omega)]
      rfl
  | monomorphic first =>
      have hCount :=
        CacheKind.of_eq_monomorphic_iff.mp hKind.symm
      rw [CacheState.extend, if_neg (by omega),
        if_neg (by omega)]
      rfl
  | polymorphic kept =>
      have hCount :=
        CacheKind.of_eq_polymorphic_iff.mp hKind.symm
      have hKept : ¬ kept.length < room := by
        change kept.length = _ at hEntries
        omega
      rw [CacheState.extend, if_neg (by omega),
        if_neg hKept]
      rfl
  | megamorphic kept => rfl

/- One more function makes a state for one more. -/
theorem extend
    (hHolds : state.Holds room seen)
    (entry : Entry) :
    (state.extend room entry).Holds room
      (seen ++ [entry.guard]) := by
  by_cases hRoom : seen.length < room
  · rcases hHolds.extend_of_lt entry hRoom with
      ⟨hKind, hEntries⟩
    constructor
    · rw [hKind, List.length_append, List.length_singleton]
    · rw [hEntries, List.map_cons, hHolds.guards,
        List.take_of_length_le (by omega),
        List.take_of_length_le (by simp; omega),
        List.reverse_append]
      rfl
  · rw [hHolds.extend_of_le entry (by omega)]
    constructor
    · exact (CacheKind.of_eq_megamorphic_iff.mpr
        (by simp; omega)).symm
    · rw [List.take_append_of_le_length (by omega)]
      exact hHolds.guards

/- A frozen state stays as it is. -/
theorem extend_of_frozen
    (hHolds : state.Holds room seen)
    (entry : Entry)
    (hFrozen : room < seen.length) :
    (state.extend room entry).Holds room seen := by
  rw [hHolds.extend_of_le entry (by omega)]
  exact
    { kind :=
        (CacheKind.of_eq_megamorphic_iff.mpr hFrozen).symm
      guards := hHolds.guards }

/-
  The step to one more function is reported, unless the
  state was frozen before.
-/
theorem reports_extend
    (hHolds : state.Holds room seen)
    (entry : Entry) :
    state.kind ≠ (state.extend room entry).kind ∨
        state.kind = .polymorphic ↔
      seen.length ≤ room := by
  have hNext := (hHolds.extend entry).kind
  rw [hHolds.kind, hNext, List.length_append,
    List.length_singleton]
  grind [CacheKind.of]

end Holds

end CacheState

end Scriptlet

------------------------------------------------------------
-- Sites
------------------------------------------------------------

namespace Scriptlet

namespace CallSite

/-
  Whether a site is what some dispatches make of a new one,
  and some steps are those that they report.
-/
structure Accounts
    (attempts : List Attempt)
    (steps : List Transition)
    (site : CallSite) : Prop where
  holds :
    site.state.Holds site.room (Attempt.accepted attempts)
  counted : site.hits + site.misses = attempts.length
  reported :
    steps.length =
      min (Attempt.accepted attempts).length (site.room + 1)

/-
  What a site does with the next callee, after dispatches: a
  hit if the callee is among the first functions that were
  accepted and fit, and else a miss, which is all if the
  callee is rejected.
-/
structure Answers
    (attempts : List Attempt)
    (site : CallSite) : Prop where
  hit :
    ∀ attempt : Attempt,
      attempt.callee ∈
          (Attempt.accepted attempts).take site.room →
        site.dispatch attempt =
          (none, { site with hits := site.hits + 1 })
  miss :
    ∀ attempt : Attempt,
      attempt.callee ∉
          (Attempt.accepted attempts).take site.room →
        (site.dispatch attempt).2.hits = site.hits ∧
          (site.dispatch attempt).2.misses = site.misses + 1
  rejected :
    ∀ attempt : Attempt,
      attempt.callee ∉
          (Attempt.accepted attempts).take site.room →
        attempt.verdict = none →
          site.dispatch attempt =
            (none, { site with misses := site.misses + 1 })

namespace Accounts

variable {attempts : List Attempt}
variable {reports : List Transition}
variable {site : CallSite}

theorem new
    (line : Line)
    (argc room : Nat) :
    Accounts [] [] (new line argc room) where
  holds := .nil room
  counted := rfl
  reported := by simp [Attempt.accepted]

/- The next dispatch of a known callee is a hit. -/
theorem dispatch_of_mem
    (hSite : site.Accounts attempts reports)
    {attempt : Attempt}
    (hMem :
      attempt.callee ∈
        (Attempt.accepted attempts).take site.room) :
    site.dispatch attempt =
      (none, { site with hits := site.hits + 1 }) := by
  have hKnown := (hSite.holds.isSome_find? _).mpr hMem
  rcases Option.isSome_iff_exists.mp hKnown with
    ⟨target, hTarget⟩
  exact dispatch_of_known hTarget

/- Any other callee is not known. -/
theorem find?_of_not_mem
    (hSite : site.Accounts attempts reports)
    {callee : FunctionId}
    (hNew :
      callee ∉
        (Attempt.accepted attempts).take site.room) :
    site.state.find? callee = none := by
  rw [← hSite.holds.isSome_find?] at hNew
  simpa using hNew

/- Learning reports a step, unless the site was frozen. -/
theorem length_learn
    (hSite : site.Accounts attempts reports)
    (callee : FunctionId)
    (target : Target) :
    (site.learn callee target).1.toList.length =
      if (Attempt.accepted attempts).length ≤ site.room then
        1
      else
        0 := by
  have hReports :=
    hSite.holds.reports_extend { guard := callee, target }
  unfold learn
  simp only [hReports]
  split <;> rfl

/- A dispatch is counted once. -/
theorem counted_dispatch
    (hSite : site.Accounts attempts reports)
    (attempt : Attempt) :
    (site.dispatch attempt).2.hits +
        (site.dispatch attempt).2.misses =
      (attempts ++ [attempt]).length := by
  rw [hits_add_misses_dispatch, hSite.counted,
    List.length_append, List.length_singleton]

/- A dispatch that brings nothing new is only counted. -/
theorem counted_more
    (hSite : site.Accounts attempts reports)
    {attempt : Attempt}
    (hSame :
      Attempt.accepted (attempts ++ [attempt]) =
        Attempt.accepted attempts)
    (hHolds :
      (site.dispatch attempt).2.state.Holds site.room
        (Attempt.accepted attempts))
    (hSilent : (site.dispatch attempt).1.toList = []) :
    (site.dispatch attempt).2.Accounts
      (attempts ++ [attempt])
      (reports ++ (site.dispatch attempt).1.toList) where
  holds := by
    rw [hSame, room_dispatch]
    exact hHolds
  counted := hSite.counted_dispatch attempt
  reported := by
    rw [hSame, room_dispatch, hSilent, List.append_nil]
    exact hSite.reported

/- A callee that was accepted too late is not learned. -/
theorem dispatch_of_late
    (hSite : site.Accounts attempts reports)
    {attempt : Attempt}
    {target : Target}
    (hAccepted : attempt.verdict = some target)
    (hLate :
      attempt.callee ∉
        (Attempt.accepted attempts).take site.room)
    (hMem : attempt.callee ∈ Attempt.accepted attempts) :
    (site.dispatch attempt).2.Accounts
      (attempts ++ [attempt])
      (reports ++ (site.dispatch attempt).1.toList) := by
  have hFrozen :
      site.room < (Attempt.accepted attempts).length := by
    apply Nat.lt_of_not_le
    intro hRoom
    rw [List.take_of_length_le hRoom] at hLate
    exact hLate hMem
  have hSteps :
      (site.learn attempt.callee target).1.toList = [] := by
    apply List.eq_nil_of_length_eq_zero
    rw [hSite.length_learn, if_neg (by omega)]
  have hDispatch := dispatch_of_accepted
    (hSite.find?_of_not_mem hLate) hAccepted
  apply hSite.counted_more (Attempt.accepted_of_mem hMem)
  · rw [hDispatch]
    exact hSite.holds.extend_of_frozen _ hFrozen
  · rw [hDispatch]
    exact hSteps

/- A callee that was never accepted is one more. -/
theorem dispatch_of_first
    (hSite : site.Accounts attempts reports)
    {attempt : Attempt}
    {target : Target}
    (hAccepted : attempt.verdict = some target)
    (hFirst : attempt.callee ∉ Attempt.accepted attempts) :
    (site.dispatch attempt).2.Accounts
      (attempts ++ [attempt])
      (reports ++ (site.dispatch attempt).1.toList) := by
  have hMore :=
    Attempt.accepted_of_not_mem hAccepted hFirst
  have hUnknown :=
    hSite.find?_of_not_mem fun hMem =>
      hFirst (List.mem_of_mem_take hMem)
  have hCounted := hSite.counted_dispatch attempt
  rw [dispatch_of_accepted hUnknown hAccepted]
    at hCounted ⊢
  constructor
  · rw [hMore]
    exact hSite.holds.extend
      { guard := attempt.callee, target }
  · exact hCounted
  · have hReported := hSite.reported
    have hSteps :=
      hSite.length_learn attempt.callee target
    rw [hMore, List.length_append, List.length_append,
      List.length_singleton]
    change _ + (site.learn attempt.callee
      target).1.toList.length = min _ (site.room + 1)
    split at hSteps <;> omega

/- One dispatch more. -/
theorem dispatch
    (hSite : site.Accounts attempts reports)
    (attempt : Attempt) :
    (site.dispatch attempt).2.Accounts
      (attempts ++ [attempt])
      (reports ++ (site.dispatch attempt).1.toList) := by
  by_cases hKnown :
      attempt.callee ∈
        (Attempt.accepted attempts).take site.room
  · have hDispatch := hSite.dispatch_of_mem hKnown
    apply hSite.counted_more
      (Attempt.accepted_of_mem (List.mem_of_mem_take hKnown))
    · rw [hDispatch]
      exact hSite.holds
    · rw [hDispatch, Option.toList_none]
  · cases hVerdict : attempt.verdict with
    | none =>
        have hDispatch := dispatch_of_rejected
          (hSite.find?_of_not_mem hKnown) hVerdict
        apply hSite.counted_more
          (Attempt.accepted_of_rejected hVerdict)
        · rw [hDispatch]
          exact hSite.holds
        · rw [hDispatch, Option.toList_none]
    | some target =>
        by_cases hMem :
            attempt.callee ∈ Attempt.accepted attempts
        · exact hSite.dispatch_of_late hVerdict hKnown hMem
        · exact hSite.dispatch_of_first hVerdict hMem

/- What the site does with one dispatch more. -/
theorem answers
    (hSite : site.Accounts attempts reports) :
    site.Answers attempts where
  hit _ hKnown := hSite.dispatch_of_mem hKnown
  miss attempt hUnknown := by
    have hFind := hSite.find?_of_not_mem hUnknown
    cases hVerdict : attempt.verdict with
    | none =>
        rw [dispatch_of_rejected hFind hVerdict]
        exact ⟨rfl, rfl⟩
    | some target =>
        rw [dispatch_of_accepted hFind hVerdict]
        exact ⟨rfl, rfl⟩
  rejected _ hUnknown hRejected :=
    dispatch_of_rejected (hSite.find?_of_not_mem hUnknown)
      hRejected

/- Many dispatches more. -/
theorem replay
    (hSite : site.Accounts attempts reports)
    (more : List Attempt) :
    (site.replay more).Accounts (attempts ++ more)
      (reports ++ site.steps more) := by
  induction more generalizing site attempts reports with
  | nil =>
      rw [List.append_nil]
      rw [steps, List.append_nil]
      exact hSite
  | cons attempt more ih =>
      have hNext := ih (hSite.dispatch attempt)
      rw [List.append_assoc, List.append_assoc] at hNext
      exact hNext

end Accounts

/-
  Whether a site is what some dispatches made of a new one,
  and reported are the steps that they report.
-/
structure Replays
    (attempts : List Attempt)
    (reported : List Transition)
    (site : CallSite) : Prop where
  replayed :
    site =
      (CallSite.new site.line site.argc site.room).replay
        attempts
  reported :
    reported =
      (CallSite.new site.line site.argc site.room).steps
        attempts

namespace Replays

variable {attempts : List Attempt}
variable {reports : List Transition}
variable {site : CallSite}

theorem new
    (line : Line)
    (argc room : Nat) :
    Replays [] [] (new line argc room) where
  replayed := rfl
  reported := rfl

/- One dispatch more. -/
theorem dispatch
    (hSite : site.Replays attempts reports)
    (attempt : Attempt) :
    (site.dispatch attempt).2.Replays
      (attempts ++ [attempt])
      (reports ++ (site.dispatch attempt).1.toList) where
  replayed := by
    rw [line_dispatch, argc_dispatch, room_dispatch,
      replay_append, ← hSite.replayed]
    rfl
  reported := by
    rw [line_dispatch, argc_dispatch, room_dispatch,
      steps_append, ← hSite.replayed, ← hSite.reported]
    simp [steps]

/- So the dispatches account for the site. -/
theorem accounts
    (hSite : site.Replays attempts reports) :
    site.Accounts attempts reports := by
  have hReplay :=
    (Accounts.new site.line site.argc site.room).replay
      attempts
  rw [← hSite.replayed, List.nil_append, List.nil_append,
    ← hSite.reported] at hReplay
  exact hReplay

end Replays

end CallSite

end Scriptlet
