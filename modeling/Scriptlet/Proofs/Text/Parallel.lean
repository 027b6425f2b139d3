import Scriptlet.Proofs.Text.Translation

/-
  Interning side by side.

  Two computations that intern the same strings in the same
  order, each in a table of its own, hand out names of the
  same texts. Which name stands for which is settled by the
  tables at the end, since a later string may be new in the
  one table and known in the other. So the states and the
  answers on the way are related by every renaming that
  translates the last tables.

  Key definitions include:
    * `Tabled`
    * `Tabled.Advances`
    * `Tabled.Parallel`

  Key theorems include:
    * `Tabled.Parallel.bind`
    * `Tabled.Parallel.intern`
-/

------------------------------------------------------------
-- Parallel Computations
------------------------------------------------------------

namespace Scriptlet

/-
  States with a table of names, and when two of them are
  alike but for a renaming.
-/
structure Tabled (State : Type) where
  table : State → Interner
  like : (Name → Name) → State → State → Prop

namespace Tabled

variable {State : Type} (kind : Tabled State)

/- Whether the second state's table covers the first's. -/
def Covers (left right : State) : Prop :=
  (kind.table left).Covers (kind.table right)

/- Whether a renaming translates the tables of two states. -/
def Translates
    (rename : Name → Name)
    (left right : State) : Prop :=
  Interner.Translates rename (kind.table left)
    (kind.table right)

/- Two tables that grow, and of which one goes on covering. -/
structure Advances
    (left right leftNext rightNext : State) : Prop where
  covers : kind.Covers leftNext rightNext
  left : (kind.table left).Extends (kind.table leftNext)
  right : (kind.table right).Extends (kind.table rightNext)

/-
  Two computations whose tables advance side by side. If the
  states were alike and a renaming has what is needed, then
  one that translates the tables at the end relates the last
  states, and the answers as `gives` says.
-/
structure Parallel
    {A B : Type}
    (needs : (Name → Name) → Prop)
    (first : StateM State A)
    (second : StateM State B)
    (gives : (Name → Name) → A → B → Prop) : Prop where
  advances :
    ∀ left right,
      kind.Covers left right →
        kind.Advances left right (first.run left).2
          (second.run right).2
  related :
    ∀ left right rename,
      kind.Covers left right →
        kind.Translates rename (first.run left).2
            (second.run right).2 →
          needs rename → kind.like rename left right →
            kind.like rename (first.run left).2
                (second.run right).2 ∧
              gives rename (first.run left).1
                (second.run right).1

variable {kind : Tabled State}
variable {left right leftNext rightNext : State}

theorem Advances.trans
    {leftLast rightLast : State}
    (hFirst :
      kind.Advances left right leftNext rightNext)
    (hRest :
      kind.Advances leftNext rightNext leftLast
        rightLast) :
    kind.Advances left right leftLast rightLast where
  covers := hRest.covers
  left := hFirst.left.trans hRest.left
  right := hFirst.right.trans hRest.right

/- What translates later tables translated earlier ones. -/
theorem Advances.translates
    {rename : Name → Name}
    (hAdvances :
      kind.Advances left right leftNext rightNext)
    (hCovers : kind.Covers left right)
    (hTranslates :
      kind.Translates rename leftNext rightNext) :
    kind.Translates rename left right :=
  Interner.Translates.of_extends hCovers hAdvances.left
    hAdvances.right hAdvances.covers.faithful hTranslates

end Tabled

end Scriptlet

------------------------------------------------------------
-- Parts of Parallel Computations
------------------------------------------------------------

namespace Scriptlet

namespace Tabled

namespace Parallel

variable {State A B C D : Type}
variable {kind : Tabled State}
variable {needs : (Name → Name) → Prop}
variable {first : StateM State A}
variable {second : StateM State B}
variable {gives : (Name → Name) → A → B → Prop}

/-
  Sequences are parallel if their parts are. The tables at
  the end tell how the first answers are related, and the
  rests may rely on it.
-/
theorem bind
    {firstRest : A → StateM State C}
    {secondRest : B → StateM State D}
    {givesLast : (Name → Name) → C → D → Prop}
    (hFirst : kind.Parallel needs first second gives)
    (hRest :
      ∀ answer other,
        kind.Parallel
          (fun rename =>
            needs rename ∧ gives rename answer other)
          (firstRest answer) (secondRest other)
          givesLast) :
    kind.Parallel needs (first >>= firstRest)
      (second >>= secondRest) givesLast where
  advances left right hCovers :=
    have hFirst := hFirst.advances left right hCovers
    hFirst.trans ((hRest _ _).advances _ _ hFirst.covers)
  related := by
    intro left right rename hCovers hTranslates hNeeds hLike
    have hRest := hRest (first.run left).1
      (second.run right).1
    have hBetween :=
      (hFirst.advances left right hCovers).covers
    have hEarlier :=
      (hRest.advances _ _ hBetween).translates hBetween
        hTranslates
    rcases hFirst.related left right rename hCovers hEarlier
        hNeeds hLike with
      ⟨hLikeBetween, hGives⟩
    exact hRest.related _ _ rename hBetween hTranslates
      ⟨hNeeds, hGives⟩ hLikeBetween

/- Computations that intern nothing. -/
theorem of_table_eq
    (hFirst :
      ∀ state,
        kind.table (first.run state).2 = kind.table state)
    (hSecond :
      ∀ state,
        kind.table (second.run state).2 = kind.table state)
    (hRelated :
      ∀ left right rename,
        needs rename → kind.like rename left right →
          kind.like rename (first.run left).2
              (second.run right).2 ∧
            gives rename (first.run left).1
              (second.run right).1) :
    kind.Parallel needs first second gives where
  advances left right hCovers := by
    refine ⟨?_, ?_, ?_⟩
    · unfold Tabled.Covers
      rw [hFirst, hSecond]
      exact hCovers
    · rw [hFirst]
      exact hCovers.baseFaithful.exact.extends
    · rw [hSecond]
      exact hCovers.faithful.exact.extends
  related left right rename _ _ := hRelated left right rename

theorem pure
    {answer : A}
    {other : B}
    (hGives :
      ∀ rename, needs rename → gives rename answer other) :
    kind.Parallel needs (pure answer) (pure other) gives :=
  .of_table_eq (fun _ => rfl) (fun _ => rfl)
    fun _ _ rename hNeeds hLike =>
      ⟨hLike, hGives rename hNeeds⟩

/- Both intern one string, and give its two names. -/
theorem intern
    {step : StateM State Name}
    {text : String}
    (hName :
      ∀ state,
        (step.run state).1 =
          ((kind.table state).intern text).1)
    (hTable :
      ∀ state,
        kind.table (step.run state).2 =
          ((kind.table state).intern text).2)
    (hLike :
      ∀ left right rename,
        kind.like rename left right →
          kind.like rename (step.run left).2
            (step.run right).2) :
    kind.Parallel needs step step
      fun rename name other => other = rename name where
  advances left right hCovers := by
    refine ⟨?_, ?_, ?_⟩
    · unfold Tabled.Covers
      rw [hTable, hTable]
      exact Interner.Covers.intern hCovers text
    · rw [hTable]
      exact hCovers.baseFaithful.exact.extends.intern text
    · rw [hTable]
      exact hCovers.faithful.exact.extends.intern text
  related := by
    intro left right rename hCovers hTranslates _ hAlike
    refine ⟨hLike left right rename hAlike, ?_⟩
    unfold Tabled.Translates at hTranslates
    rw [hTable, hTable] at hTranslates
    rw [hName, hName]
    exact Interner.Covers.intern_eq hCovers hTranslates

end Parallel

end Tabled

end Scriptlet
