import Scriptlet.Heap.Basic
import Scriptlet.Cache.Site

/-
  Coherent call sites.

  A site is coherent with a heap if each of its entries has
  the target of its function and a function that accepts the
  site's arguments, and if no function has two entries. A
  site stays coherent when it is asked, when it learns of a
  new function that passed the check, and when the heap gets
  more functions.

  Key definitions include:
    * `Entry.Coherent`
    * `CallSite.Coherent`

  Key theorems include:
    * `CallSite.Coherent.learn`
    * `CallSite.Coherent.exists_of_find?`
-/

------------------------------------------------------------
-- Entries
------------------------------------------------------------

namespace Scriptlet

/-
  An entry with the target of its function, where the
  function accepts the number of arguments.
-/
def Entry.Coherent
    (heap : Heap)
    (argc : Nat)
    (entry : Entry) : Prop :=
  ∃ function,
    heap.function? entry.guard = some function ∧
      function.arity.accepts argc = true ∧
        entry.target = .of function

namespace CacheState

/- No entry appears that was not there or is the new one. -/
theorem entries_extend_sublist
    (state : CacheState)
    (room : Nat)
    (entry : Entry) :
    (state.extend room entry).entries.Sublist
      (entry :: state.entries) := by
  cases state with
  | uninitialized =>
      simp only [extend]
      split <;> simp [entries]
  | monomorphic first =>
      simp only [extend]
      split
      · simp [entries]
      · split <;> simp [entries]
  | polymorphic kept =>
      simp only [extend]
      split
      · simp [entries]
      · split <;> simp [entries]
  | megamorphic kept => simp [extend, entries]

/- A remembered target is that of an entry. -/
theorem exists_entry_of_find?
    {state : CacheState}
    {callee : FunctionId}
    {target : Target}
    (hFind : state.find? callee = some target) :
    ∃ entry ∈ state.entries,
      entry.guard = callee ∧ entry.target = target := by
  unfold find? at hFind
  rcases Option.map_eq_some_iff.mp hFind with
    ⟨entry, hEntry, hTarget⟩
  have hGuard := List.find?_some hEntry
  exact ⟨entry, List.mem_of_find?_eq_some hEntry,
    by simpa using hGuard, hTarget⟩

/- A function that is not remembered guards no entry. -/
theorem not_mem_guards_of_find?
    {state : CacheState}
    {callee : FunctionId}
    (hFind : state.find? callee = none) :
    callee ∉ state.entries.map Entry.guard := by
  unfold find? at hFind
  rw [Option.map_eq_none_iff, List.find?_eq_none] at hFind
  intro hMem
  rcases List.mem_map.mp hMem with ⟨entry, hEntry, rfl⟩
  exact hFind entry hEntry (by simp)

end CacheState

end Scriptlet

------------------------------------------------------------
-- Sites
------------------------------------------------------------

namespace Scriptlet

namespace CallSite

/- A site whose entries are coherent and distinct. -/
structure Coherent
    (heap : Heap)
    (site : CallSite) : Prop where
  entries :
    ∀ entry ∈ site.state.entries,
      entry.Coherent heap site.argc
  distinct : (site.state.entries.map Entry.guard).Nodup

@[simp] theorem argc_ask
    (site : CallSite)
    (callee : FunctionId) :
    (site.ask callee).2.argc = site.argc := by
  unfold ask
  split <;> rfl

@[simp] theorem argc_learn
    (site : CallSite)
    (callee : FunctionId)
    (target : Target) :
    (site.learn callee target).2.argc = site.argc := by
  rfl

variable {heap : Heap}
variable {site : CallSite}

/- A site that was never used is coherent. -/
theorem coherent_of_uninitialized
    (hNew : site.state = .uninitialized) :
    site.Coherent heap where
  entries := by simp [hNew, CacheState.entries]
  distinct := by simp [hNew, CacheState.entries]

namespace Coherent

/- More functions in the heap do no harm. -/
theorem mono
    {larger : Heap}
    (hLarger :
      ∀ id function,
        heap.function? id = some function →
          larger.function? id = some function)
    (hSite : site.Coherent heap) :
    site.Coherent larger where
  entries := by
    intro entry hEntry
    rcases hSite.entries entry hEntry with
      ⟨function, hFunction, hAccepts, hTarget⟩
    exact ⟨function, hLarger _ _ hFunction, hAccepts,
      hTarget⟩
  distinct := hSite.distinct

/- Asking leaves the entries alone. -/
theorem ask
    (hSite : site.Coherent heap)
    (callee : FunctionId) :
    (site.ask callee).2.Coherent heap where
  entries := by
    rw [state_ask, argc_ask]
    exact hSite.entries
  distinct := by
    rw [state_ask]
    exact hSite.distinct

/- A function that passed the check may be learned. -/
theorem learn
    {callee : FunctionId}
    {function : Function}
    (hSite : site.Coherent heap)
    (hNew : site.state.find? callee = none)
    (hFunction : heap.function? callee = some function)
    (hAccepts : function.arity.accepts site.argc = true) :
    (site.learn callee (.of function)).2.Coherent heap := by
  have hSublist := site.state.entries_extend_sublist
    site.room { guard := callee, target := .of function }
  constructor
  · intro entry hEntry
    rcases List.mem_cons.mp (hSublist.subset hEntry) with
      rfl | hOld
    · exact ⟨function, hFunction, hAccepts, rfl⟩
    · exact hSite.entries entry hOld
  · have hGuards :
        (callee ::
          site.state.entries.map Entry.guard).Nodup :=
      List.nodup_cons.mpr
        ⟨CacheState.not_mem_guards_of_find? hNew,
          hSite.distinct⟩
    exact hGuards.sublist (hSublist.map Entry.guard)

/- What a coherent site answers passes the check. -/
theorem exists_of_find?
    {callee : FunctionId}
    {target : Target}
    (hSite : site.Coherent heap)
    (hFind : site.state.find? callee = some target) :
    ∃ function,
      heap.function? callee = some function ∧
        function.arity.accepts site.argc = true ∧
          target = .of function := by
  rcases CacheState.exists_entry_of_find? hFind with
    ⟨entry, hEntry, rfl, rfl⟩
  exact hSite.entries entry hEntry

end Coherent

end CallSite

end Scriptlet
