import Scriptlet.Proofs.Data.InsertionOrder
import Scriptlet.Proofs.Text.Translation

/-
  Requests to a table of names.

  A table starts with the empty string, and is asked again
  and again for the names of strings, with or without regard
  to its capacity. Whatever the requests, it holds the
  distinct strings that it gave names to, in the order in
  which they first came, and each name goes on standing for
  its string and for no other.

  Key definitions include:
    * `Interner.Request`
    * `Interner.serve`
    * `Interner.serveAll`
    * `Interner.HasRoomForAll`
    * `Interner.Tallies`
    * `Interner.Stable`
    * `Interner.HoldsBack`

  Key theorems include:
    * `Interner.internBounded_eq`
    * `Interner.Tallies.intern`
    * `Interner.Tallies.serveAll`
    * `Interner.Extends.serveAll`
    * `Interner.size_serveAll_le`
    * `names_stable`
-/

------------------------------------------------------------
-- Requests
------------------------------------------------------------

namespace Scriptlet

namespace Interner

/- A request for the name of a string. -/
inductive Request where
  | intern (text : String)
  | internBounded (text : String)
deriving DecidableEq, Repr

namespace Request

/- The string whose name is wanted. -/
def text : Request → String
  | .intern text => text
  | .internBounded text => text

/- Whether a full table may refuse a request. -/
def isBounded : Request → Bool
  | .intern _ => false
  | .internBounded _ => true

/- The name that an answer gives, with its string. -/
def granted
    (request : Request) :
    Except TableFull Name → List (String × Name)
  | .ok name => [(request.text, name)]
  | .error _ => []

end Request

/- Answer a request. -/
def serve
    (interner : Interner) :
    Request → Except TableFull Name × Interner
  | .intern text =>
      let (name, next) := interner.intern text
      (.ok name, next)
  | .internBounded text => interner.internBounded text

/-
  Answer requests one after another, and list the names that
  were given with their strings.
-/
def serveAll
    (interner : Interner) :
    List Request → List (String × Name) × Interner
  | [] => ([], interner)
  | request :: requests =>
      let (answer, next) := interner.serve request
      let (granted, last) := next.serveAll requests
      (request.granted answer ++ granted, last)

/-
  Whether a request without regard to the capacity could
  have been made with regard to it.
-/
def HasRoom
    (interner : Interner)
    (request : Request) : Prop :=
  request.isBounded = false →
    ∃ name,
      (interner.internBounded request.text).1 = .ok name

/- Whether this holds of requests one after another. -/
def HasRoomForAll
    (interner : Interner) :
    List Request → Prop
  | [] => True
  | request :: requests =>
      interner.HasRoom request ∧
        (interner.serve request).2.HasRoomForAll requests

end Interner

end Scriptlet

------------------------------------------------------------
-- Single Requests
------------------------------------------------------------

namespace Scriptlet

namespace Interner

variable {interner : Interner}

/- A string that is not found is not in the table. -/
theorem Faithful.find?_eq_none_iff
    (hFaithful : interner.Faithful)
    (text : String) :
    interner.find? text = none ↔
      text ∉ interner.strings.toList := by
  rw [Array.mem_toList_iff, Array.mem_iff_getElem?]
  constructor
  · rintro hNew ⟨index, hRead⟩
    have hFind := hFaithful.finds text ⟨index⟩ hRead
    rw [hNew] at hFind
    cases hFind
  · intro hAbsent
    cases hFind : interner.find? text with
    | none => rfl
    | some name =>
        exact absurd
          ⟨name.index, hFaithful.exact text name hFind⟩
          hAbsent

/- A table grows by the strings that are new to it. -/
theorem toList_strings_intern
    (interner : Interner)
    (text : String) :
    (interner.intern text).2.strings.toList =
      if interner.find? text = none then
        interner.strings.toList ++ [text]
      else
        interner.strings.toList := by
  unfold Interner.intern
  cases interner.find? text with
  | none => simp [push]
  | some name => simp

theorem size_intern
    (interner : Interner)
    (text : String) :
    (interner.intern text).2.size =
      if interner.find? text = none then
        interner.size + 1
      else
        interner.size := by
  unfold Interner.intern
  cases interner.find? text with
  | none => simp [push, size]
  | some name => simp

/- Interning within bounds refuses, or just interns. -/
theorem internBounded_eq
    (interner : Interner)
    (text : String) :
    interner.internBounded text =
      if interner.find? text = none ∧
          capacity ≤ interner.size then
        (.error { count := interner.size }, interner)
      else
        (.ok (interner.intern text).1,
          (interner.intern text).2) := by
  unfold Interner.internBounded Interner.intern
  cases interner.find? text with
  | some name => simp
  | none =>
      by_cases hRoom : interner.size < capacity
      · simp [hRoom]
      · simp [hRoom, Nat.le_of_not_lt hRoom]

theorem intern_eq_of_granted
    {text : String}
    {name : Name}
    (hGranted :
      (interner.internBounded text).1 = .ok name) :
    interner.intern text =
      (name, (interner.internBounded text).2) := by
  rw [internBounded_eq] at hGranted ⊢
  split at hGranted
  case isTrue => cases hGranted
  case isFalse hRoom =>
      cases hGranted
      rw [if_neg hRoom]

/- So every request is refused, or its string interned. -/
theorem serve_cases
    (interner : Interner)
    (request : Request) :
    interner.serve request =
        (.ok (interner.intern request.text).1,
          (interner.intern request.text).2) ∨
      interner.serve request =
        (.error { count := interner.size }, interner) := by
  cases request with
  | intern text => exact .inl rfl
  | internBounded text =>
      have hServe := interner.internBounded_eq text
      split at hServe
      · exact .inr hServe
      · exact .inl hServe

end Interner

end Scriptlet

------------------------------------------------------------
-- Sequences of Requests
------------------------------------------------------------

namespace Scriptlet

namespace Interner

/-
  A table that gave out some names: it holds their strings
  in the order in which they first came, and finds each of
  them under its name.
-/
structure Tallies
    (granted : List (String × Name))
    (interner : Interner) : Prop where
  faithful : interner.Faithful
  table :
    interner.strings.toList =
      ("" :: granted.map Prod.fst).eraseDups
  names :
    ∀ text name,
      (text, name) ∈ granted →
        interner.find? text = some name

theorem tallies_new : Tallies [] new where
  faithful := faithful_new
  table := by
    decide
  names := nofun

namespace Tallies

variable {granted : List (String × Name)}
variable {interner : Interner}

/- Interning gives out one more name. -/
theorem intern
    (hTallies : interner.Tallies granted)
    (text : String) :
    (interner.intern text).2.Tallies
      (granted ++ [(text, (interner.intern text).1)]) where
  faithful := hTallies.faithful.intern text
  table := by
    have hKnown :=
      hTallies.faithful.find?_eq_none_iff text
    rw [hTallies.table, List.mem_eraseDups] at hKnown
    rw [toList_strings_intern, List.map_append,
      List.map_singleton, ← List.cons_append]
    by_cases hMem : text ∈ "" :: granted.map Prod.fst
    · rw [if_neg fun hNew => hKnown.mp hNew hMem,
        eraseDups_concat_of_mem hMem, hTallies.table]
    · rw [if_pos (hKnown.mpr hMem),
        eraseDups_concat_of_not_mem hMem, hTallies.table]
  names := by
    intro other name hGranted
    rw [find?_intern]
    rcases List.mem_append.mp hGranted with hOld | hNew
    · have hFind := hTallies.names other name hOld
      by_cases hSame : text = other
      · subst hSame
        simp [Interner.intern, hFind]
      · rw [if_neg hSame]
        exact hFind
    · cases List.mem_singleton.mp hNew
      exact if_pos rfl

/- So does every request that is not refused. -/
theorem serve
    (hTallies : interner.Tallies granted)
    (request : Request) :
    (interner.serve request).2.Tallies
      (granted ++
        request.granted (interner.serve request).1) := by
  rcases interner.serve_cases request with
    hServe | hServe
  · rw [hServe]
    exact hTallies.intern request.text
  · rw [hServe, Request.granted, List.append_nil]
    exact hTallies

theorem serveAll
    (hTallies : interner.Tallies granted)
    (requests : List Request) :
    (interner.serveAll requests).2.Tallies
      (granted ++ (interner.serveAll requests).1) := by
  induction requests generalizing interner granted with
  | nil =>
      rw [Interner.serveAll, List.append_nil]
      exact hTallies
  | cons request requests ih =>
      have hRest := ih (hTallies.serve request)
      rw [List.append_assoc] at hRest
      exact hRest

end Tallies

namespace Extends

variable {base interner : Interner}

/- A request leaves the names that were given. -/
theorem serve
    (hExtends : base.Extends interner)
    (request : Request) :
    base.Extends (interner.serve request).2 := by
  rcases interner.serve_cases request with hServe | hServe
  · rw [hServe]
    exact hExtends.intern request.text
  · rw [hServe]
    exact hExtends

theorem serveAll
    (hExtends : base.Extends interner)
    (requests : List Request) :
    base.Extends (interner.serveAll requests).2 := by
  induction requests generalizing interner with
  | nil => exact hExtends
  | cons request requests ih =>
      exact ih (hExtends.serve request)

end Extends

/- Bounded requests do not fill a table beyond its room. -/
theorem size_internBounded_le
    {interner : Interner}
    (hSize : interner.size ≤ capacity)
    (text : String) :
    (interner.internBounded text).2.size ≤ capacity := by
  rw [internBounded_eq]
  by_cases hFull :
      interner.find? text = none ∧ capacity ≤ interner.size
  · rw [if_pos hFull]
    exact hSize
  · rw [if_neg hFull]
    change (interner.intern text).2.size ≤ capacity
    rw [size_intern]
    split
    case isTrue hNew =>
        have hRoom : ¬ capacity ≤ interner.size :=
          fun hFilled => hFull ⟨hNew, hFilled⟩
        omega
    case isFalse => exact hSize

/- Nor does a request for which there is room. -/
theorem size_serve_le
    {interner : Interner}
    {request : Request}
    (hSize : interner.size ≤ capacity)
    (hRoom : interner.HasRoom request) :
    (interner.serve request).2.size ≤ capacity := by
  have hBounded := size_internBounded_le hSize request.text
  cases request with
  | internBounded text => exact hBounded
  | intern text =>
      rcases hRoom rfl with ⟨name, hGranted⟩
      have hIntern := intern_eq_of_granted hGranted
      rw [Request.text] at hIntern
      rw [serve, hIntern]
      exact hBounded

theorem size_serveAll_le
    {interner : Interner}
    {requests : List Request}
    (hSize : interner.size ≤ capacity)
    (hRoom : interner.HasRoomForAll requests) :
    (interner.serveAll requests).2.size ≤ capacity := by
  induction requests generalizing interner with
  | nil => exact hSize
  | cons request requests ih =>
      exact ih (size_serve_le hSize hRoom.1) hRoom.2

end Interner

end Scriptlet

------------------------------------------------------------
-- Stability
------------------------------------------------------------

namespace Scriptlet

namespace Interner

/-
  A table in which names and strings belong together. It
  holds the empty string, and then the others that it gave
  names to in the order in which they first came. Finding
  and reading are inverse to each other. Every name that it
  gave reads as its string, and two of them are one name if
  their strings are one string. All other names read as
  the empty string.
-/
structure Stable
    (granted : List (String × Name))
    (interner : Interner) : Prop where
  table :
    interner.strings.toList =
      "" ::
        ((granted.map Prod.fst).filter
          (· != "")).eraseDups
  size :
    interner.size =
      ("" :: granted.map Prod.fst).eraseDups.length
  inverse :
    ∀ text name,
      interner.find? text = some name ↔
        interner.strings[name.index]? = some text
  reads :
    ∀ text name,
      (text, name) ∈ granted →
        name.index < interner.size ∧
          interner.lookup name = text
  apart :
    ∀ text name other second,
      (text, name) ∈ granted →
        (other, second) ∈ granted →
          (name = second ↔ text = other)
  beyond :
    ∀ name : Name,
      interner.size ≤ name.index →
        interner.lookup name = ""

/-
  A table that refuses a bounded request if the string is
  new and there is no room, and then stays as it is. Every
  other bounded request is like one without bounds.
-/
structure HoldsBack
    (interner : Interner)
    (text : String) : Prop where
  refused :
    ∀ full,
      (interner.internBounded text).1 = .error full ↔
        text ∉ interner.strings.toList ∧
          capacity ≤ interner.size ∧
            full.count = interner.size
  unchanged :
    ∀ full,
      (interner.internBounded text).1 = .error full →
        (interner.internBounded text).2 = interner
  otherwise :
    ∀ name,
      (interner.internBounded text).1 = .ok name →
        interner.intern text =
          (name, (interner.internBounded text).2)

theorem Tallies.stable
    {granted : List (String × Name)}
    {interner : Interner}
    (hTallies : interner.Tallies granted) :
    interner.Stable granted := by
  have hFaithful := hTallies.faithful
  constructor
  case table =>
      rw [hTallies.table, List.eraseDups_cons]
      rfl
  case size =>
      rw [← hTallies.table]
      exact Array.length_toList.symm
  case inverse =>
      intro text name
      exact ⟨hFaithful.exact text name,
        hFaithful.finds text name⟩
  case reads =>
      intro text name hGranted
      have hRead := hFaithful.exact text name
        (hTallies.names text name hGranted)
      exact ⟨(Array.getElem?_eq_some_iff.mp hRead).1,
        by simp [lookup, hRead]⟩
  case apart =>
      intro text name other second hName hSecond
      have hFind := hTallies.names text name hName
      have hOther := hTallies.names other second hSecond
      constructor
      · rintro rfl
        have hRead := hFaithful.exact text name hFind
        rw [hFaithful.exact other name hOther] at hRead
        exact (Option.some.inj hRead).symm
      · rintro rfl
        rw [hFind] at hOther
        exact Option.some.inj hOther
  case beyond =>
      intro name hBeyond
      unfold lookup
      rw [Array.getElem?_eq_none hBeyond]
      rfl

theorem Faithful.holdsBack
    {interner : Interner}
    (hFaithful : interner.Faithful)
    (text : String) :
    interner.HoldsBack text := by
  have hServe := interner.internBounded_eq text
  simp only [hFaithful.find?_eq_none_iff] at hServe
  refine ⟨?_, ?_, fun _ => intern_eq_of_granted⟩
  · intro full
    rw [hServe]
    split
    case isTrue hFull =>
        rcases full with ⟨count⟩
        simp [hFull, eq_comm]
    case isFalse hRoom =>
        constructor
        · nofun
        · rintro ⟨hNew, hSize, _⟩
          exact absurd ⟨hNew, hSize⟩ hRoom
  · intro full hRefused
    rw [hServe] at hRefused ⊢
    split at hRefused
    case isTrue hFull => rw [if_pos hFull]
    case isFalse => cases hRefused

end Interner

/-
  Whatever is asked of a new table, names and strings belong
  together in it, and no later request changes what a name
  reads as. A bounded request is refused just if its string
  is new to a full table, and a table is never more than
  full as long as it has room for the requests that cannot
  be refused.
-/
theorem names_stable
    (requests : List Interner.Request) :
    let granted := (Interner.new.serveAll requests).1
    let interner := (Interner.new.serveAll requests).2
    interner.Stable granted ∧
      (∀ later name,
        name.index < interner.size →
          (interner.serveAll later).2.lookup name =
            interner.lookup name) ∧
        (∀ text, interner.HoldsBack text) ∧
          (Interner.new.HasRoomForAll requests →
            interner.size ≤ Interner.capacity) := by
  intro granted interner
  have hTallies : interner.Tallies granted :=
    Interner.tallies_new.serveAll requests
  refine ⟨hTallies.stable, ?_, hTallies.faithful.holdsBack,
    Interner.size_serveAll_le (by decide)⟩
  intro later name hName
  exact (hTallies.faithful.exact.extends.serveAll
    later).lookup_eq hName

/- A string that was named goes on being read as itself. -/
theorem names_stable_twice :
    let requests : List Interner.Request :=
      [.intern "x", .internBounded "x"]
    let interner := (Interner.new.serveAll requests).2
    (Interner.new.serveAll requests).1 =
        [("x", ⟨1⟩), ("x", ⟨1⟩)] ∧
      Interner.new.HasRoomForAll requests ∧
        interner.size ≤ Interner.capacity ∧
          1 < interner.size ∧
            (interner.serve (.intern "y")).2.lookup ⟨1⟩ =
              interner.lookup ⟨1⟩ ∧
              interner.lookup ⟨1⟩ = "x" := by
  intro requests interner
  have hRoom : Interner.new.HasRoomForAll requests :=
    ⟨fun _ => ⟨⟨1⟩, by decide +kernel⟩, nofun, trivial⟩
  have hNamed : 1 < interner.size := by
    decide +kernel
  rcases names_stable requests with
    ⟨_, hLater, _, hSize⟩
  exact ⟨by decide +kernel, hRoom, hSize hRoom, hNamed,
    hLater [.intern "y"] ⟨1⟩ hNamed, by decide +kernel⟩

end Scriptlet
