import Scriptlet.Text.Interner

/-
  Names read back.

  An interner that was made by interning is exact: the name
  that it finds for a string reads as that string. Interning
  one more string keeps it exact, and a name goes on reading
  as it did.

  Key definitions include:
    * `Interner.Exact`
    * `Interner.Extends`

  Key theorems include:
    * `Interner.exact_internAll`
    * `Interner.Exact.lookup_intern`
    * `Interner.Extends.lookup_eq`
-/

------------------------------------------------------------
-- Exact Interners
------------------------------------------------------------

namespace Scriptlet

namespace Interner

/- Every name that is found reads as its string. -/
def Exact (interner : Interner) : Prop :=
  ∀ text name,
    interner.find? text = some name →
      interner.strings[name.index]? = some text

/- A new string is found under its new name. -/
theorem find?_push
    (interner : Interner)
    (text other : String) :
    (interner.push text).2.find? other =
      if text = other then
        some ⟨interner.strings.size⟩
      else
        interner.find? other := by
  have hInsert :
      (interner.push text).2.find? other =
        if compare text other = .eq then
          some ⟨interner.strings.size⟩
        else
          interner.find? other :=
    Std.TreeMap.getElem?_insert
  rw [hInsert]
  by_cases hSame : text = other
  · subst hSame
    simp
  · have hCompare : compare text other ≠ .eq := by
      intro hEqual
      exact hSame (Std.LawfulEqOrd.eq_of_compare hEqual)
    rw [if_neg hCompare, if_neg hSame]

/- The table that holds only the empty string is exact. -/
theorem exact_new : new.Exact := by
  intro text name hFind
  have hInsert :
      new.find? text =
        if compare "" text = .eq then
          some Name.empty
        else
          none :=
    Std.TreeMap.getElem?_insert
  rw [hInsert] at hFind
  split at hFind
  case isTrue hEqual =>
      have hText : "" = text :=
        Std.LawfulEqOrd.eq_of_compare hEqual
      cases hFind
      rw [← hText]
      rfl
  case isFalse => cases hFind

variable {interner : Interner}

/- One more string does no harm. -/
theorem Exact.push
    (hExact : interner.Exact)
    (text : String) :
    (interner.push text).2.Exact := by
  intro other name hFind
  change (interner.strings.push text)[name.index]? = _
  rw [find?_push] at hFind
  rw [Array.getElem?_push]
  split at hFind
  case isTrue hSame =>
      cases hFind
      rw [if_pos rfl, hSame]
  case isFalse =>
      have hOld := hExact other name hFind
      have hBound := (Array.getElem?_eq_some_iff.mp hOld).1
      rw [if_neg (Nat.ne_of_lt hBound)]
      exact hOld

theorem Exact.intern
    (hExact : interner.Exact)
    (text : String) :
    (interner.intern text).2.Exact := by
  unfold Interner.intern
  cases hFind : interner.find? text with
  | some name => exact hExact
  | none => exact hExact.push text

theorem Exact.internAll
    (hExact : interner.Exact)
    (texts : List String) :
    (interner.internAll texts).2.Exact := by
  induction texts generalizing interner with
  | nil => exact hExact
  | cons text texts ih => exact ih (hExact.intern text)

/- So is every table that was made by interning. -/
theorem exact_internAll (texts : List String) :
    (new.internAll texts).2.Exact :=
  exact_new.internAll texts

/- The name of a string reads as the string. -/
theorem Exact.lookup_intern
    (hExact : interner.Exact)
    (text : String) :
    (interner.intern text).2.lookup
        (interner.intern text).1 = text := by
  unfold Interner.intern
  cases hFind : interner.find? text with
  | some name =>
      have hRead := hExact text name hFind
      simp [lookup, hRead]
  | none => simp [lookup, Interner.push]

end Interner

end Scriptlet

------------------------------------------------------------
-- Later Tables
------------------------------------------------------------

namespace Scriptlet

namespace Interner

/- Whether a table is exact and reads all that another does. -/
structure Extends (base interner : Interner) : Prop where
  exact : interner.Exact
  reads :
    ∀ (index : Nat) (text : String),
      base.strings[index]? = some text →
        interner.strings[index]? = some text

theorem Exact.extends
    {interner : Interner}
    (hExact : interner.Exact) :
    interner.Extends interner where
  exact := hExact
  reads _ _ hRead := hRead

variable {base interner : Interner}

theorem Extends.intern
    (hExtends : base.Extends interner)
    (text : String) :
    base.Extends (interner.intern text).2 where
  exact := hExtends.exact.intern text
  reads index read hRead := by
    have hOld := hExtends.reads index read hRead
    unfold Interner.intern
    cases interner.find? text with
    | some name => exact hOld
    | none =>
        have hBound := (Array.getElem?_eq_some_iff.mp hOld).1
        change (interner.strings.push text)[index]? = _
        rw [Array.getElem?_push, if_neg (Nat.ne_of_lt hBound)]
        exact hOld

theorem Extends.trans
    {last : Interner}
    (hFirst : base.Extends interner)
    (hRest : interner.Extends last) :
    base.Extends last where
  exact := hRest.exact
  reads index text hRead :=
    hRest.reads index text (hFirst.reads index text hRead)

/- A name that was handed out goes on reading as it did. -/
theorem Extends.lookup_eq
    (hExtends : base.Extends interner)
    {name : Name}
    (hName : name.index < base.size) :
    interner.lookup name = base.lookup name := by
  have hRead := Array.getElem?_eq_getElem hName
  unfold lookup
  rw [hRead, hExtends.reads _ _ hRead]

end Interner

end Scriptlet
