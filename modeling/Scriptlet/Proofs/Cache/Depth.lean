import Scriptlet.Proofs.Cache.Replay

/-
  Call sites with more and with less room.

  The same dispatches at a site with little room and at one
  with more are counted as often at both. The functions that
  the first one knows are the earliest ones, so the second
  one knows them as well, and it does not miss where the
  first one hits.

  Key definitions include:
    * `CallSite.Deepens`

  Key theorems include:
    * `CallSite.misses_replay_le`
    * `CallSite.deepens_replay`
    * `CallSite.hits_replay_of_room`
-/

------------------------------------------------------------
-- The Same Dispatches
------------------------------------------------------------

namespace Scriptlet

namespace CallSite

/- A miss is not taken back. -/
theorem misses_le_dispatch
    (site : CallSite)
    (attempt : Attempt) :
    site.misses ≤ (site.dispatch attempt).2.misses := by
  unfold dispatch ask
  split <;> split <;> simp

variable {before : List Attempt}
variable {reports others : List Transition}
variable {shallow deep : CallSite}

/- The deeper site does not miss alone. -/
theorem misses_dispatch_le
    (hShallow : shallow.Accounts before reports)
    (hDeep : deep.Accounts before others)
    (hRoom : shallow.room ≤ deep.room)
    (hMisses : deep.misses ≤ shallow.misses)
    (attempt : Attempt) :
    (deep.dispatch attempt).2.misses ≤
      (shallow.dispatch attempt).2.misses := by
  by_cases hKnown :
      attempt.callee ∈
        (Attempt.accepted before).take deep.room
  · rw [hDeep.answers.hit attempt hKnown]
    exact Nat.le_trans hMisses
      (shallow.misses_le_dispatch attempt)
  · have hUnknown :
        attempt.callee ∉
          (Attempt.accepted before).take shallow.room := by
      intro hMem
      exact hKnown (List.take_subset_take_left _ hRoom hMem)
    rw [(hDeep.answers.miss attempt hKnown).2,
      (hShallow.answers.miss attempt hUnknown).2]
    exact Nat.add_le_add_right hMisses 1

/- Nor does it in the long run. -/
theorem misses_replay_le
    (hShallow : shallow.Accounts before reports)
    (hDeep : deep.Accounts before others)
    (hRoom : shallow.room ≤ deep.room)
    (hMisses : deep.misses ≤ shallow.misses)
    (attempts : List Attempt) :
    (deep.replay attempts).misses ≤
      (shallow.replay attempts).misses := by
  induction attempts generalizing before reports others
    shallow deep with
  | nil => exact hMisses
  | cons attempt attempts ih =>
      apply ih (hShallow.dispatch attempt)
        (hDeep.dispatch attempt)
      · rw [room_dispatch, room_dispatch]
        exact hRoom
      · exact misses_dispatch_le hShallow hDeep hRoom
          hMisses attempt

/- A site without room never hits. -/
theorem hits_replay_of_room
    {site : CallSite}
    (hSite : site.Accounts before reports)
    (hRoom : site.room = 0)
    (attempts : List Attempt) :
    (site.replay attempts).hits = site.hits := by
  induction attempts generalizing before reports site with
  | nil => rfl
  | cons attempt attempts ih =>
      have hUnknown :
          attempt.callee ∉
            (Attempt.accepted before).take site.room := by
        rw [hRoom, List.take_zero]
        exact List.not_mem_nil
      have hHits := ih (hSite.dispatch attempt)
        (by rw [room_dispatch, hRoom])
      rw [replay, hHits]
      exact (hSite.answers.miss attempt hUnknown).1

end CallSite

end Scriptlet

------------------------------------------------------------
-- Deeper Sites
------------------------------------------------------------

namespace Scriptlet

namespace CallSite

/-
  Whether a site was asked as often as another one, missed
  at most as often, and knows all that the other one knows.
-/
structure Deepens (shallow deep : CallSite) : Prop where
  counted :
    deep.hits + deep.misses = shallow.hits + shallow.misses
  misses : deep.misses ≤ shallow.misses
  guards :
    ∀ callee,
      callee ∈ shallow.state.entries.map Entry.guard →
        callee ∈ deep.state.entries.map Entry.guard

@[simp] theorem room_replay
    (site : CallSite)
    (attempts : List Attempt) :
    (site.replay attempts).room = site.room := by
  induction attempts generalizing site with
  | nil => rfl
  | cons attempt attempts ih =>
      rw [replay, ih, room_dispatch]

/- The same dispatches at new sites. -/
theorem deepens_replay
    {low high : Nat}
    (hRoom : low ≤ high)
    (line : Line)
    (argc : Nat)
    (attempts : List Attempt) :
    Deepens ((new line argc low).replay attempts)
      ((new line argc high).replay attempts) := by
  have hNew room := Accounts.new line argc room
  have hShallow := (hNew low).replay attempts
  have hDeep := (hNew high).replay attempts
  constructor
  case counted => rw [hDeep.counted, hShallow.counted]
  case misses =>
      exact misses_replay_le (hNew low) (hNew high) hRoom
        (Nat.le_refl 0) attempts
  case guards =>
      intro callee hCallee
      rw [hShallow.holds.guards, List.mem_reverse,
        room_replay] at hCallee
      rw [hDeep.holds.guards, List.mem_reverse, room_replay]
      exact List.take_subset_take_left _ hRoom hCallee

/- A new site without room learns nothing. -/
theorem unused_replay
    (line : Line)
    (argc : Nat)
    (attempts : List Attempt) :
    ((new line argc 0).replay attempts).hits = 0 ∧
      ((new line argc 0).replay attempts).state.entries =
        [] := by
  have hNew := Accounts.new line argc 0
  constructor
  · exact hits_replay_of_room hNew rfl attempts
  · have hGuards := (hNew.replay attempts).holds.guards
    rw [room_replay] at hGuards
    exact List.map_eq_nil_iff.mp hGuards

end CallSite

end Scriptlet
