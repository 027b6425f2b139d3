import Scriptlet.Proofs.Text.Interner

/-
  Names of one table in the names of another.

  A table that came about by interning is faithful: it finds
  a string under a name exactly if the name reads as the
  string. If one faithful table covers another, each name of
  the covered table has a counterpart of the same text, and
  names beyond the covered table can be sent to names beyond
  the covering one. This renames all names, no two alike.

  Key definitions include:
    * `Interner.Reachable`
    * `Interner.Faithful`
    * `Interner.Covers`
    * `Interner.Translates`
    * `Translation`
    * `Interner.Covers.translation`

  Key theorems include:
    * `Interner.Reachable.faithful`
    * `Interner.Covers.intern`
    * `Interner.Covers.intern_eq`
    * `Interner.Translates.of_extends`
-/

------------------------------------------------------------
-- Faithful Tables
------------------------------------------------------------

namespace Scriptlet

namespace Interner

/- Tables that come about by interning. -/
inductive Reachable : Interner → Prop where
  | new : Reachable new
  | intern
      {interner : Interner}
      (hBefore : interner.Reachable)
      (text : String) :
      Reachable (interner.intern text).2
  | internBounded
      {interner : Interner}
      (hBefore : interner.Reachable)
      (text : String) :
      Reachable (interner.internBounded text).2

/- A string is found exactly under the name it is read at. -/
structure Faithful (interner : Interner) : Prop where
  exact : interner.Exact
  finds :
    ∀ text name,
      interner.strings[name.index]? = some text →
        interner.find? text = some name

theorem faithful_new : new.Faithful where
  exact := exact_new
  finds := by
    intro text name hRead
    have hBound := (Array.getElem?_eq_some_iff.mp hRead).1
    have hIndex : name.index = 0 := by
      simpa [new] using hBound
    have hText : "" = text := by
      simpa [new, hIndex] using hRead
    have hInsert :
        new.find? "" =
          if compare "" "" = .eq then
            some Name.empty
          else
            none :=
      Std.TreeMap.getElem?_insert
    rw [← hText, hInsert, if_pos Std.ReflOrd.compare_self]
    exact congrArg (fun index => some (Name.mk index))
      hIndex.symm

variable {interner : Interner}

/- A string that was not found may be put at the end. -/
theorem Faithful.push
    (hFaithful : interner.Faithful)
    {text : String}
    (hNew : interner.find? text = none) :
    (interner.push text).2.Faithful where
  exact := hFaithful.exact.push text
  finds := by
    intro other name hRead
    change
      (interner.strings.push text)[name.index]? =
        some other at hRead
    rw [Array.getElem?_push] at hRead
    rw [find?_push]
    split at hRead
    case isTrue hIndex =>
        cases hRead
        rw [if_pos rfl, ← hIndex]
    case isFalse =>
        have hFind := hFaithful.finds other name hRead
        have hOther : text ≠ other := by
          intro hSame
          rw [hSame, hFind] at hNew
          cases hNew
        rw [if_neg hOther]
        exact hFind

theorem Faithful.intern
    (hFaithful : interner.Faithful)
    (text : String) :
    (interner.intern text).2.Faithful := by
  unfold Interner.intern
  cases hFind : interner.find? text with
  | some name => exact hFaithful
  | none => exact hFaithful.push hFind

/- Interning within bounds interns or does nothing. -/
theorem snd_internBounded
    (interner : Interner)
    (text : String) :
    (interner.internBounded text).2 =
        (interner.intern text).2 ∨
      (interner.internBounded text).2 = interner := by
  unfold Interner.internBounded Interner.intern
  cases interner.find? text with
  | some name => exact .inl rfl
  | none =>
      simp only
      split
      · exact .inl rfl
      · exact .inr rfl

theorem Reachable.faithful
    (hReachable : interner.Reachable) :
    interner.Faithful := by
  induction hReachable with
  | new => exact faithful_new
  | intern _ text ih => exact ih.intern text
  | @internBounded interner _ text ih =>
      rcases snd_internBounded interner text with
        hSame | hSame
      · rw [hSame]
        exact ih.intern text
      · rw [hSame]
        exact ih

/- Every table extends the one with the empty string. -/
theorem Reachable.extends_new
    (hReachable : interner.Reachable) :
    Interner.new.Extends interner := by
  induction hReachable with
  | new => exact exact_new.extends
  | intern _ text ih => exact ih.intern text
  | @internBounded interner _ text ih =>
      rcases snd_internBounded interner text with
        hSame | hSame
      · rw [hSame]
        exact ih.intern text
      · rw [hSame]
        exact ih

/- Interning adds one string, and changes no other. -/
theorem find?_intern
    (interner : Interner)
    (text other : String) :
    (interner.intern text).2.find? other =
      if text = other then
        some (interner.intern text).1
      else
        interner.find? other := by
  unfold Interner.intern
  cases hFind : interner.find? text with
  | some name =>
      simp only
      split
      case isTrue hSame => rw [← hSame, hFind]
      case isFalse => rfl
  | none => exact find?_push interner text other

/- No two names read as the same string. -/
theorem Faithful.name_unique
    (hFaithful : interner.Faithful)
    {name other : Name}
    {text : String}
    (hName : interner.strings[name.index]? = some text)
    (hOther : interner.strings[other.index]? = some text) :
    name = other := by
  have hFind := hFaithful.finds text name hName
  rw [hFaithful.finds text other hOther] at hFind
  exact (Option.some.inj hFind).symm

end Interner

end Scriptlet

------------------------------------------------------------
-- Covering Tables
------------------------------------------------------------

namespace Scriptlet

namespace Interner

/- Two faithful tables, with all of `base` in the second. -/
structure Covers (base interner : Interner) : Prop where
  baseFaithful : base.Faithful
  faithful : interner.Faithful
  found :
    ∀ text name,
      base.find? text = some name →
        ∃ other, interner.find? text = some other

/- Every table covers the one with the empty string. -/
theorem Reachable.covers_new
    {interner : Interner}
    (hReachable : interner.Reachable) :
    Interner.new.Covers interner where
  baseFaithful := faithful_new
  faithful := hReachable.faithful
  found := by
    intro text name hFind
    have hRead := hReachable.extends_new.reads _ _
      (exact_new text name hFind)
    exact ⟨name, hReachable.faithful.finds text name hRead⟩

variable {base interner : Interner}

/- The same string may be interned in both tables. -/
theorem Covers.intern
    (hCovers : base.Covers interner)
    (text : String) :
    (base.intern text).2.Covers
      (interner.intern text).2 where
  baseFaithful := hCovers.baseFaithful.intern text
  faithful := hCovers.faithful.intern text
  found := by
    intro other name hFind
    rw [find?_intern] at hFind ⊢
    split at hFind
    case isTrue hSame => exact ⟨_, if_pos hSame⟩
    case isFalse hOther =>
        rw [if_neg hOther]
        exact hCovers.found other name hFind

end Interner

end Scriptlet

------------------------------------------------------------
-- Translations
------------------------------------------------------------

namespace Scriptlet

namespace Interner

variable {base interner : Interner}
variable {rename : Name → Name}

/- Whether the names of `base` keep their texts. -/
def Translates
    (rename : Name → Name)
    (base interner : Interner) : Prop :=
  ∀ (name : Name) (text : String),
    base.strings[name.index]? = some text →
      interner.strings[(rename name).index]? = some text

/-
  What translates later tables translated the earlier ones,
  since each text was already found in both.
-/
theorem Translates.of_extends
    {baseLater later : Interner}
    (hCovers : base.Covers interner)
    (hBase : base.Extends baseLater)
    (hExtends : interner.Extends later)
    (hFaithful : later.Faithful)
    (hTranslates : Translates rename baseLater later) :
    Translates rename base interner := by
  intro name text hRead
  have hLater :=
    hTranslates name text (hBase.reads _ _ hRead)
  rcases hCovers.found text name
      (hCovers.baseFaithful.finds text name hRead) with
    ⟨other, hFind⟩
  have hOther := hCovers.faithful.exact text other hFind
  have hSame : rename name = other :=
    hFaithful.name_unique hLater
      (hExtends.reads _ _ hOther)
  rw [hSame]
  exact hOther

/- A string that both tables intern has one translation. -/
theorem Covers.intern_eq
    (hCovers : base.Covers interner)
    {text : String}
    (hTranslates :
      Translates rename (base.intern text).2
        (interner.intern text).2) :
    (interner.intern text).1 =
      rename (base.intern text).1 := by
  have hNext := hCovers.intern text
  have hName := hNext.baseFaithful.exact text _
    ((find?_intern base text text).trans (if_pos rfl))
  have hOther := hNext.faithful.exact text _
    ((find?_intern interner text text).trans (if_pos rfl))
  exact hNext.faithful.name_unique hOther
    (hTranslates _ text hName)

end Interner

/-
  A renaming of all names that keeps them apart, and under
  which every name reads as it did.
-/
structure Translation (base interner : Interner) where
  rename : Name → Name
  injective : Function.Injective rename
  lookup :
    ∀ name,
      interner.lookup (rename name) = base.lookup name
  translates : Interner.Translates rename base interner

namespace Interner

/-
  The counterpart of a name, if its text is found. All other
  names go beyond the end of the table.
-/
def counterpart
    (base interner : Interner)
    (name : Name) :
    Name :=
  (base.strings[name.index]?.bind interner.find?).getD
    ⟨interner.strings.size + name.index⟩

variable {base interner : Interner}

/- A name that reads as nothing goes beyond the end. -/
theorem counterpart_of_unread
    {name : Name}
    (hUnread : base.strings[name.index]? = none) :
    base.counterpart interner name =
      ⟨interner.strings.size + name.index⟩ := by
  simp [counterpart, hUnread]

/- Counterparts have the texts of their names. -/
theorem Covers.read_counterpart
    (hCovers : base.Covers interner)
    (name : Name) :
    interner.strings[(base.counterpart interner
        name).index]? =
      base.strings[name.index]? := by
  cases hRead : base.strings[name.index]? with
  | some text =>
      rcases hCovers.found text name
          (hCovers.baseFaithful.finds text name hRead) with
        ⟨other, hFind⟩
      have hSame :
          base.counterpart interner name = other := by
        simp [counterpart, hRead, hFind]
      rw [hSame]
      exact hCovers.faithful.exact text other hFind
  | none =>
      rw [counterpart_of_unread hRead]
      exact Array.getElem?_eq_none (Nat.le_add_right _ _)

theorem Covers.counterpart_injective
    (hCovers : base.Covers interner) :
    Function.Injective (base.counterpart interner) := by
  intro name other hSame
  have hTexts :
      base.strings[name.index]? =
        base.strings[other.index]? := by
    rw [← hCovers.read_counterpart name, hSame,
      hCovers.read_counterpart other]
  cases hRead : base.strings[other.index]? with
  | some text =>
      rw [hRead] at hTexts
      exact hCovers.baseFaithful.name_unique hTexts hRead
  | none =>
      -- Beyond the tables the distance is kept.
      rw [hRead] at hTexts
      rw [counterpart_of_unread hTexts,
        counterpart_of_unread hRead] at hSame
      have hIndex := Nat.add_left_cancel
        (Name.mk.inj hSame)
      cases name
      cases other
      exact congrArg Name.mk hIndex

/- A covering table has a translation. -/
def Covers.translation
    (hCovers : base.Covers interner) :
    Translation base interner where
  rename := base.counterpart interner
  injective := hCovers.counterpart_injective
  lookup name := by
    unfold lookup
    rw [hCovers.read_counterpart name]
  translates name text hRead :=
    (hCovers.read_counterpart name).trans hRead

end Interner

end Scriptlet
