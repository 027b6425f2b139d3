import Scriptlet.Cache.Link
import Scriptlet.Proofs.Machine.Sound

/-
  What linking gives.

  Linking only appends sites that were never used, and what
  it gives is the program it was given, with a site at every
  call that is for as many arguments as the call passes.

  Key definitions include:
    * `LinkM.Appends`
    * `LinkM.Gives`
    * `Expr.IsLinkOf`

  Key theorems include:
    * `Expr.gives_link`
    * `Script.gives_link`
    * `Machine.Sound.linked`
-/

------------------------------------------------------------
-- Appending Sites
------------------------------------------------------------

namespace Scriptlet

namespace LinkM

/- Whether sites are followed by sites without entries. -/
def Appends (before after : Array CallSite) : Prop :=
  ∃ added : Array CallSite,
    after = before ++ added ∧
      ∀ site ∈ added, site.state = .uninitialized

namespace Appends

variable {before after later : Array CallSite}

theorem refl (sites : Array CallSite) :
    Appends sites sites :=
  ⟨#[], by simp, by simp⟩

theorem trans
    (hFirst : Appends before after)
    (hSecond : Appends after later) :
    Appends before later := by
  rcases hFirst with ⟨first, rfl, hNewFirst⟩
  rcases hSecond with ⟨second, rfl, hNewSecond⟩
  refine ⟨first ++ second, by simp, ?_⟩
  intro site hSite
  rcases Array.mem_append.mp hSite with hSite | hSite
  · exact hNewFirst site hSite
  · exact hNewSecond site hSite

/- A site that serves calls keeps serving them. -/
theorem serves
    (hAppends : Appends before after)
    (site : SiteId)
    (argc : Nat)
    (hServes : Serves (before.map CallSite.argc) site argc) :
    Serves (after.map CallSite.argc) site argc := by
  rcases hAppends with ⟨added, rfl, _⟩
  unfold Serves at *
  have hBound := (Array.getElem?_eq_some_iff.mp hServes).1
  rw [Array.map_append, Array.getElem?_append_left hBound]
  exact hServes

/- Sites that were appended have no entries. -/
theorem unused
    {added : Array CallSite}
    (hAppends : Appends before (before ++ added)) :
    ∀ site ∈ added, site.state = .uninitialized := by
  rcases hAppends with ⟨new, hNew, hUnused⟩
  rw [Array.append_right_inj] at hNew
  rw [hNew]
  exact hUnused

/- A site is an old one, or one without entries. -/
theorem mem_cases
    (hAppends : Appends before after)
    {id : Nat}
    {site : CallSite}
    (hSite : after[id]? = some site) :
    before[id]? = some site ∨
      site.state = .uninitialized := by
  rcases hAppends with ⟨added, rfl, hNew⟩
  rw [Array.getElem?_append] at hSite
  split at hSite
  · exact .inl hSite
  · exact .inr (hNew site (Array.mem_of_getElem? hSite))

end Appends

end LinkM

end Scriptlet

------------------------------------------------------------
-- Linking Computations
------------------------------------------------------------

namespace Scriptlet

namespace LinkM

variable {A B : Type}

/-
  A computation that appends sites, and whose answer is good
  for the numbers of arguments of all sites.
-/
def Gives
    (link : LinkM A)
    (good : Array Nat → A → Prop) : Prop :=
  ∀ sites : Array CallSite,
    Appends sites (link.run sites).2 ∧
      good ((link.run sites).2.map CallSite.argc)
        (link.run sites).1

/- What stays good when sites are appended. -/
def Lasting (good : Array Nat → A → Prop) : Prop :=
  ∀ (before after : Array CallSite) (answer : A),
    Appends before after →
      good (before.map CallSite.argc) answer →
        good (after.map CallSite.argc) answer

namespace Gives

variable {good : Array Nat → A → Prop}
variable {further : Array Nat → B → Prop}

theorem pure
    {answer : A}
    (hGood : ∀ argcs, good argcs answer) :
    Gives (pure answer) good :=
  fun sites => ⟨.refl sites, hGood _⟩

/- The rest may rely on what the first part gave. -/
theorem bind
    {first : LinkM A}
    {rest : A → LinkM B}
    (hLasting : Lasting good)
    (hFirst : Gives first good)
    (hRest :
      ∀ answer,
        Gives (rest answer) fun argcs result =>
          good argcs answer → further argcs result) :
    Gives (first >>= rest) further := by
  intro sites
  rcases hFirst sites with ⟨hAppends, hGood⟩
  rcases hRest (first.run sites).1 (first.run sites).2 with
    ⟨hMore, hFurther⟩
  exact ⟨hAppends.trans hMore,
    hFurther (hLasting _ _ _ hMore hGood)⟩

end Gives

/- A fresh site serves the calls that it was made for. -/
theorem gives_newSite
    (line : Line)
    (argc room : Nat) :
    Gives (newSite line argc room) fun argcs site =>
      Serves argcs site argc := by
  intro sites
  refine ⟨⟨#[CallSite.new line argc room], ?_, ?_⟩, ?_⟩
  · exact Array.push_eq_append
  · simp [CallSite.new]
  · change
      ((sites.push (CallSite.new line argc room)).map
        CallSite.argc)[sites.size]? = some argc
    rw [Array.getElem?_map, Array.getElem?_push_size]
    rfl

theorem lasting_serves (argc : Nat) :
    Lasting fun argcs site => Serves argcs site argc :=
  fun _ _ site hAppends hServes =>
    hAppends.serves site argc hServes

end LinkM

end Scriptlet

------------------------------------------------------------
-- Linking Trees
------------------------------------------------------------

namespace Scriptlet

namespace Expr

open LinkM

/- The same tree, with a serving site at every call. -/
def IsLinkOf
    (expr : Expr Unit)
    (argcs : Array Nat)
    (linked : Expr SiteId) : Prop :=
  linked.mapSites (fun _ => ()) = expr ∧
    linked.EveryCall (Serves argcs)

/- The same trees, one after another. -/
def AreLinksOf
    (exprs : List (Expr Unit))
    (argcs : Array Nat)
    (linked : List (Expr SiteId)) : Prop :=
  mapSitesAll (fun _ => ()) linked = exprs ∧
    EveryCallAll (Serves argcs) linked

/- The same fields. -/
def FieldsLinkOf
    (fields : List (Name × Expr Unit))
    (argcs : Array Nat)
    (linked : List (Name × Expr SiteId)) : Prop :=
  mapSitesFields (fun _ => ()) linked = fields ∧
    EveryCallFields (Serves argcs) linked

theorem lasting_isLinkOf (expr : Expr Unit) :
    Lasting expr.IsLinkOf :=
  fun _ _ linked hAppends hLinked =>
    ⟨hLinked.1, hLinked.2.mono hAppends.serves linked⟩

theorem lasting_areLinksOf (exprs : List (Expr Unit)) :
    Lasting (AreLinksOf exprs) :=
  fun _ _ linked hAppends hLinked =>
    ⟨hLinked.1, hLinked.2.mono hAppends.serves linked⟩

theorem lasting_fieldsLinkOf
    (fields : List (Name × Expr Unit)) :
    Lasting (FieldsLinkOf fields) :=
  fun _ _ linked hAppends hLinked =>
    ⟨hLinked.1, hLinked.2.mono hAppends.serves linked⟩

variable (room : Nat)

mutual

/- Linking keeps the tree and serves its calls. -/
theorem gives_link
    (expr : Expr Unit) :
    Gives (expr.link room) expr.IsLinkOf := by
  cases expr with
  | block line body =>
      rw [link]
      refine .bind (lasting_areLinksOf body)
        (gives_linkAll body) fun linked => .pure ?_
      rintro argcs ⟨rfl, hServed⟩
      exact ⟨rfl, hServed⟩
  | literal line value =>
      rw [link]
      exact .pure fun _ => ⟨rfl, trivial⟩
  | var line name =>
      rw [link]
      exact .pure fun _ => ⟨rfl, trivial⟩
  | assign line declares name value =>
      rw [link]
      refine .bind (lasting_isLinkOf value)
        (gives_link value) fun linked => .pure ?_
      rintro argcs ⟨rfl, hServed⟩
      exact ⟨rfl, hServed⟩
  | function line name params body writtenAt =>
      rw [link]
      refine .bind (lasting_areLinksOf body)
        (gives_linkAll body) fun linked => .pure ?_
      rintro argcs ⟨rfl, hServed⟩
      exact ⟨rfl, hServed⟩
  | call line site callee args =>
      rw [link]
      refine .bind (lasting_serves args.length)
        (gives_newSite line args.length room)
        fun site => ?_
      refine .bind (lasting_isLinkOf callee)
        (gives_link callee) fun linkedCallee => ?_
      refine .bind (lasting_areLinksOf args)
        (gives_linkAll args) fun linkedArgs => .pure ?_
      rintro argcs ⟨rfl, hArgs⟩ ⟨rfl, hCallee⟩ hSite
      rw [length_mapSitesAll] at hSite
      exact ⟨rfl, hSite, hCallee, hArgs⟩
  | ret line value =>
      rw [link]
      refine .bind (lasting_isLinkOf value)
        (gives_link value) fun linked => .pure ?_
      rintro argcs ⟨rfl, hServed⟩
      exact ⟨rfl, hServed⟩
  | branch line test thenBody elseBody =>
      rw [link]
      refine .bind (lasting_isLinkOf test)
        (gives_link test) fun linkedTest => ?_
      refine .bind (lasting_areLinksOf thenBody)
        (gives_linkAll thenBody) fun linkedThen => ?_
      refine .bind (lasting_areLinksOf elseBody)
        (gives_linkAll elseBody) fun linkedElse => .pure ?_
      rintro argcs ⟨rfl, hElse⟩ ⟨rfl, hThen⟩ ⟨rfl, hTest⟩
      exact ⟨rfl, hTest, hThen, hElse⟩
  | record line fields =>
      rw [link]
      refine .bind (lasting_fieldsLinkOf fields)
        (gives_linkFields fields) fun linked => .pure ?_
      rintro argcs ⟨rfl, hServed⟩
      exact ⟨rfl, hServed⟩
  | getField line receiver name =>
      rw [link]
      refine .bind (lasting_isLinkOf receiver)
        (gives_link receiver) fun linked => .pure ?_
      rintro argcs ⟨rfl, hServed⟩
      exact ⟨rfl, hServed⟩
  | setField line receiver name value =>
      rw [link]
      refine .bind (lasting_isLinkOf receiver)
        (gives_link receiver) fun linkedReceiver => ?_
      refine .bind (lasting_isLinkOf value)
        (gives_link value) fun linkedValue => .pure ?_
      rintro argcs ⟨rfl, hValue⟩ ⟨rfl, hReceiver⟩
      exact ⟨rfl, hReceiver, hValue⟩
  | method line site receiver name args =>
      rw [link]
      refine .bind (lasting_serves args.length)
        (gives_newSite line args.length room)
        fun site => ?_
      refine .bind (lasting_isLinkOf receiver)
        (gives_link receiver) fun linkedReceiver => ?_
      refine .bind (lasting_areLinksOf args)
        (gives_linkAll args) fun linkedArgs => .pure ?_
      rintro argcs ⟨rfl, hArgs⟩ ⟨rfl, hReceiver⟩ hSite
      rw [length_mapSitesAll] at hSite
      exact ⟨rfl, hSite, hReceiver, hArgs⟩

theorem gives_linkAll
    (exprs : List (Expr Unit)) :
    Gives (linkAll room exprs) (AreLinksOf exprs) := by
  cases exprs with
  | nil =>
      rw [linkAll]
      exact .pure fun _ => ⟨rfl, trivial⟩
  | cons expr exprs =>
      rw [linkAll]
      refine .bind (lasting_isLinkOf expr)
        (gives_link expr) fun linkedExpr => ?_
      refine .bind (lasting_areLinksOf exprs)
        (gives_linkAll exprs) fun linkedExprs => .pure ?_
      rintro argcs ⟨rfl, hExprs⟩ ⟨rfl, hExpr⟩
      exact ⟨rfl, hExpr, hExprs⟩

theorem gives_linkFields
    (fields : List (Name × Expr Unit)) :
    Gives (linkFields room fields) (FieldsLinkOf fields) := by
  cases fields with
  | nil =>
      rw [linkFields]
      exact .pure fun _ => ⟨rfl, trivial⟩
  | cons field fields =>
      rcases field with ⟨name, value⟩
      rw [linkFields]
      refine .bind (lasting_isLinkOf value)
        (gives_link value) fun linkedValue => ?_
      refine .bind (lasting_fieldsLinkOf fields)
        (gives_linkFields fields)
        fun linkedFields => .pure ?_
      rintro argcs ⟨rfl, hFields⟩ ⟨rfl, hValue⟩
      exact ⟨rfl, hValue, hFields⟩

end

end Expr

end Scriptlet

------------------------------------------------------------
-- Linking Scripts
------------------------------------------------------------

namespace Scriptlet

open LinkM

/- Linking a script links its statements. -/
theorem Script.gives_link
    (script : Script)
    (room : Nat) :
    Gives (script.link room) fun argcs linked =>
      Expr.AreLinksOf script.body argcs linked.body := by
  have hGet :
      Gives (get : LinkM (Array CallSite)) fun _ _ => True :=
    fun sites => ⟨.refl sites, trivial⟩
  refine .bind (fun _ _ _ _ _ => trivial) hGet
    fun first => ?_
  refine .bind (Expr.lasting_areLinksOf script.body)
    (Expr.gives_linkAll room script.body) fun body => ?_
  refine .bind (fun _ _ _ _ _ => trivial) hGet
    fun next => .pure ?_
  intro argcs _ hBody _
  exact hBody

/- A function stays sound when more sites serve calls. -/
theorem Function.Sound.serves_mono
    {argcs more : Array Nat}
    {objects : Nat}
    {function : Function}
    (hMore :
      ∀ site argc,
        Serves argcs site argc → Serves more site argc)
    (hFunction : function.Sound argcs objects) :
    function.Sound more objects := by
  unfold Function.Sound at *
  split at hFunction
  · exact hFunction
  · exact hFunction
  · exact hFunction
  · exact hFunction
  · exact ⟨hFunction.1, hFunction.2.1,
      hFunction.2.2.mono hMore _⟩

namespace Machine.Sound

variable {argcs : Array Nat}
variable {machine : Machine}

/- The sites of a sound machine are as many as it serves. -/
theorem serves_of_appends
    {sites : Array CallSite}
    (hSound : machine.Sound argcs)
    (hAppends : Appends machine.sites sites)
    (site : SiteId)
    (argc : Nat)
    (hServes : Serves argcs site argc) :
    Serves (sites.map CallSite.argc) site argc := by
  rw [← hSound.served] at hServes
  exact hAppends.serves site argc hServes

/- Appending sites keeps a machine sound. -/
theorem linked
    {sites : Array CallSite}
    (hSound : machine.Sound argcs)
    (hAppends : Appends machine.sites sites) :
    Sound (sites.map CallSite.argc)
      { machine with sites } where
  layered := hSound.layered
  functions := by
    intro id function hFunction
    exact (hSound.functions id function hFunction).serves_mono
      (hSound.serves_of_appends hAppends)
  served := rfl
  coherent := by
    intro id site hSite
    rcases hAppends.mem_cases hSite with hOld | hNew
    · exact hSound.coherent id site hOld
    · exact CallSite.coherent_of_uninitialized hNew

end Machine.Sound

end Scriptlet
