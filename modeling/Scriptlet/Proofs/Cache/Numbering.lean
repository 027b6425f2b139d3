import Scriptlet.Proofs.Cache.Linking
import Scriptlet.Proofs.Syntax.Nodes
import Scriptlet.Value.Basic

/-
  The numbers of call sites.

  Linking numbers the calls of a script in the order in
  which their nodes begin: a node comes before the nodes
  inside of it, and those come from left to right, through
  the bodies of function literals as well. Each call gets
  one site, which no other call has, and apart from these
  numbers the tree stays what it was.

  Key definitions include:
    * `Expr.nodes`
    * `Expr.owned?`
    * `Expr.freshSite?`
    * `LinkM.Adds`

  Key theorems include:
    * `Expr.adds_link`
    * `Script.run_link`
    * `Owns.call`
    * `link_numbers_calls`
-/

------------------------------------------------------------
-- Nodes in Order
------------------------------------------------------------

namespace Scriptlet

namespace Expr

variable {S : Type}

mutual

/-
  The nodes of an expression in the order they begin in: a
  node, what it calls or reads from, and then the rest from
  left to right.
-/
def nodes : Expr S → List (Expr S)
  | .block line body =>
      .block line body :: nodesAll body
  | .literal line value => [.literal line value]
  | .var line name => [.var line name]
  | .assign line declares name value =>
      .assign line declares name value :: value.nodes
  | .function line name params body writtenAt =>
      .function line name params body writtenAt ::
        nodesAll body
  | .call line site callee args =>
      .call line site callee args ::
        (callee.nodes ++ nodesAll args)
  | .ret line value => .ret line value :: value.nodes
  | .branch line test thenBody elseBody =>
      .branch line test thenBody elseBody ::
        (test.nodes ++
          (nodesAll thenBody ++ nodesAll elseBody))
  | .record line fields =>
      .record line fields :: nodesFields fields
  | .getField line receiver name =>
      .getField line receiver name :: receiver.nodes
  | .setField line receiver name value =>
      .setField line receiver name value ::
        (receiver.nodes ++ value.nodes)
  | .method line site receiver name args =>
      .method line site receiver name args ::
        (receiver.nodes ++ nodesAll args)

/- The nodes of expressions, one after another. -/
def nodesAll : List (Expr S) → List (Expr S)
  | [] => []
  | expr :: exprs => expr.nodes ++ nodesAll exprs

/- The nodes of record fields, one after another. -/
def nodesFields : List (Name × Expr S) → List (Expr S)
  | [] => []
  | (_, expr) :: fields => expr.nodes ++ nodesFields fields

end

/- The annotation of a node, if the node calls something. -/
def owned? (expr : Expr S) : Option S :=
  expr.site?.map Prod.fst

/- The site that a node is given, if it calls something. -/
def freshSite?
    (room : Nat)
    (expr : Expr S) :
    Option CallSite :=
  expr.site?.map fun (_, argc) =>
    CallSite.new expr.line argc room

end Expr

end Scriptlet

------------------------------------------------------------
-- Numbers in Order
------------------------------------------------------------

namespace Scriptlet

/- So many numbers of sites, from a first one on. -/
def SiteId.range
    (first count : Nat) :
    List SiteId :=
  (List.range' first count).map SiteId.mk

theorem SiteId.range_append
    (first count more : Nat) :
    range first (count + more) =
      range first count ++ range (first + count) more := by
  unfold range
  rw [← List.map_append, List.range'_append_1]

@[simp] theorem SiteId.length_range
    (first count : Nat) :
    (range first count).length = count := by
  simp [range]

theorem SiteId.nodup_range
    (first count : Nat) :
    (range first count).Nodup := by
  refine List.pairwise_map.mpr
    (List.Pairwise.imp ?_ (List.nodup_range' 1))
  intro left right hNe hEqual
  exact hNe (SiteId.mk.inj hEqual)

theorem SiteId.lt_of_mem_range
    {first count : Nat}
    {id : SiteId}
    (hId : id ∈ range first count) :
    id.index < first + count := by
  rcases List.mem_map.mp hId with ⟨index, hIndex, rfl⟩
  exact (List.mem_range'_1.mp hIndex).2

theorem SiteId.getElem?_range
    {first count index : Nat}
    (hIndex : index < count) :
    (range first count)[index]? = some ⟨first + index⟩ := by
  unfold range
  rw [List.getElem?_map, List.getElem?_range' hIndex]
  simp

/- Whether nodes own the numbers of added sites, in order. -/
def Owns
    (first : Nat)
    (added : List CallSite)
    (nodes : List (Expr SiteId)) : Prop :=
  nodes.filterMap Expr.owned? =
    SiteId.range first added.length

namespace Owns

variable {first : Nat}
variable {added more : List CallSite}
variable {nodes others : List (Expr SiteId)}

theorem append
    (hFirst : Owns first added nodes)
    (hMore : Owns (first + added.length) more others) :
    Owns first (added ++ more) (nodes ++ others) := by
  unfold Owns at *
  rw [List.filterMap_append, hFirst, hMore,
    List.length_append, SiteId.range_append]

/- A node that does not call owns nothing. -/
theorem cons
    {node : Expr SiteId}
    (hNode : node.owned? = none)
    (hNodes : Owns first added nodes) :
    Owns first added (node :: nodes) := by
  unfold Owns at *
  rw [List.filterMap_cons_none hNode]
  exact hNodes

/- A node that calls owns the first number. -/
theorem cons_call
    {node : Expr SiteId}
    {site : CallSite}
    (hNode : node.owned? = some ⟨first⟩)
    (hNodes : Owns (first + 1) added nodes) :
    Owns first (site :: added) (node :: nodes) := by
  unfold Owns at *
  rw [List.filterMap_cons_some hNode, hNodes]
  rfl

end Owns

namespace LinkM

variable {A B : Type}

/-
  A computation that appends certain sites, and whose answer
  is right for the place where they begin.
-/
def Adds
    (link : LinkM A)
    (added : List CallSite)
    (right : Nat → A → Prop) : Prop :=
  ∀ sites : Array CallSite,
    (link.run sites).2 = sites ++ added.toArray ∧
      right sites.size (link.run sites).1

namespace Adds

variable {added more : List CallSite}
variable {right : Nat → A → Prop}
variable {further : Nat → B → Prop}

theorem pure
    {answer : A}
    (hRight : ∀ first, right first answer) :
    Adds (pure answer) [] right :=
  fun _ => ⟨Array.append_empty.symm, hRight _⟩

/- The rest begins where the first part ended. -/
theorem bind
    {link : LinkM A}
    {rest : A → LinkM B}
    (hLink : Adds link added right)
    (hRest :
      ∀ answer,
        Adds (rest answer) more fun next result =>
          ∀ first, next = first + added.length →
            right first answer → further first result) :
    Adds (link >>= rest) (added ++ more) further := by
  intro sites
  rcases hLink sites with ⟨hSites, hRight⟩
  rcases hRest (link.run sites).1 (link.run sites).2 with
    ⟨hMore, hFurther⟩
  constructor
  · change ((rest (link.run sites).1).run
      (link.run sites).2).2 = _
    rw [hMore, hSites]
    simp
  · refine hFurther sites.size ?_ hRight
    rw [hSites]
    simp

/- Only the answer changes. -/
theorem bind_pure
    {link : LinkM A}
    {change : A → B}
    (hLink : Adds link added right)
    (hChange :
      ∀ first answer,
        right first answer →
          further first (change answer)) :
    Adds (link >>= fun answer => Pure.pure (change answer))
      added further := by
  intro sites
  rcases hLink sites with ⟨hSites, hRight⟩
  exact ⟨hSites, hChange _ _ hRight⟩

end Adds

/- A fresh site has the next number. -/
theorem adds_newSite
    (line : Line)
    (argc room : Nat) :
    Adds (newSite line argc room)
      [CallSite.new line argc room]
      fun first site => site = ⟨first⟩ :=
  fun _ => ⟨Array.push_eq_append, rfl⟩

end LinkM

end Scriptlet

------------------------------------------------------------
-- Linking Trees
------------------------------------------------------------

namespace Scriptlet

namespace Expr

open LinkM

variable (room : Nat)

/- The sites that expressions are given. -/
def freshSites
    {S : Type}
    (nodes : List (Expr S)) :
    List CallSite :=
  nodes.filterMap (freshSite? room)

theorem freshSites_append
    {S : Type}
    (nodes others : List (Expr S)) :
    freshSites room (nodes ++ others) =
      freshSites room nodes ++ freshSites room others :=
  List.filterMap_append

mutual

/- Linking gives each call of an expression its own site. -/
theorem adds_link
    (expr : Expr Unit) :
    Adds (expr.link room) (freshSites room expr.nodes)
      fun first linked =>
        Owns first (freshSites room expr.nodes)
          linked.nodes := by
  cases expr with
  | block line body =>
      rw [link]
      exact .bind_pure (adds_linkAll body)
        fun _ _ hBody => .cons rfl hBody
  | literal line value =>
      rw [link]
      exact .pure fun _ => rfl
  | var line name =>
      rw [link]
      exact .pure fun _ => rfl
  | assign line declares name value =>
      rw [link]
      exact .bind_pure (adds_link value)
        fun _ _ hValue => .cons rfl hValue
  | function line name params body writtenAt =>
      rw [link]
      exact .bind_pure (adds_linkAll body)
        fun _ _ hBody => .cons rfl hBody
  | call line site callee args =>
      have hSites :
          freshSites room
              (nodes (.call line site callee args)) =
            [CallSite.new line args.length room] ++
              (freshSites room callee.nodes ++
                freshSites room (nodesAll args)) := by
        rw [nodes, ← freshSites_append]
        rfl
      rw [link, hSites]
      refine .bind (adds_newSite line args.length room)
        fun site => ?_
      refine .bind (adds_link callee) fun linkedCallee => ?_
      refine .bind_pure (adds_linkAll args) ?_
      rintro last linkedArgs hArgs next rfl hCallee first
        rfl rfl
      have hParts := hCallee.append hArgs
      exact .cons_call rfl hParts
  | ret line value =>
      rw [link]
      exact .bind_pure (adds_link value)
        fun _ _ hValue => .cons rfl hValue
  | branch line test thenBody elseBody =>
      have hSites :
          freshSites room
              (nodes (.branch line test thenBody elseBody)) =
            freshSites room test.nodes ++
              (freshSites room (nodesAll thenBody) ++
                freshSites room (nodesAll elseBody)) := by
        rw [nodes, ← freshSites_append, ← freshSites_append]
        rfl
      rw [link, hSites]
      refine .bind (adds_link test) fun linkedTest => ?_
      refine .bind (adds_linkAll thenBody)
        fun linkedThen => ?_
      refine .bind_pure (adds_linkAll elseBody) ?_
      rintro last linkedElse hElse next rfl hThen first rfl
        hTest
      exact .cons rfl (.append hTest (.append hThen hElse))
  | record line fields =>
      rw [link]
      exact .bind_pure (adds_linkFields fields)
        fun _ _ hFields => .cons rfl hFields
  | getField line receiver name =>
      rw [link]
      exact .bind_pure (adds_link receiver)
        fun _ _ hReceiver => .cons rfl hReceiver
  | setField line receiver name value =>
      have hSites :
          freshSites room
              (nodes (.setField line receiver name value)) =
            freshSites room receiver.nodes ++
              freshSites room value.nodes := by
        rw [nodes, ← freshSites_append]
        rfl
      rw [link, hSites]
      refine .bind (adds_link receiver)
        fun linkedReceiver => ?_
      refine .bind_pure (adds_link value) ?_
      rintro last linkedValue hValue first rfl hReceiver
      exact .cons rfl (.append hReceiver hValue)
  | method line site receiver name args =>
      have hSites :
          freshSites room
              (nodes
                (.method line site receiver name args)) =
            [CallSite.new line args.length room] ++
              (freshSites room receiver.nodes ++
                freshSites room (nodesAll args)) := by
        rw [nodes, ← freshSites_append]
        rfl
      rw [link, hSites]
      refine .bind (adds_newSite line args.length room)
        fun site => ?_
      refine .bind (adds_link receiver)
        fun linkedReceiver => ?_
      refine .bind_pure (adds_linkAll args) ?_
      rintro last linkedArgs hArgs next rfl hReceiver first
        rfl rfl
      have hParts := hReceiver.append hArgs
      exact .cons_call rfl hParts

theorem adds_linkAll
    (exprs : List (Expr Unit)) :
    Adds (linkAll room exprs)
      (freshSites room (nodesAll exprs))
      fun first linked =>
        Owns first (freshSites room (nodesAll exprs))
          (nodesAll linked) := by
  cases exprs with
  | nil =>
      rw [linkAll]
      exact .pure fun _ => rfl
  | cons expr exprs =>
      rw [linkAll, nodesAll, freshSites_append]
      refine .bind (adds_link expr) fun linkedExpr => ?_
      refine .bind_pure (adds_linkAll exprs) ?_
      rintro last linkedExprs hExprs first rfl hExpr
      exact hExpr.append hExprs

theorem adds_linkFields
    (fields : List (Name × Expr Unit)) :
    Adds (linkFields room fields)
      (freshSites room (nodesFields fields))
      fun first linked =>
        Owns first (freshSites room (nodesFields fields))
          (nodesFields linked) := by
  cases fields with
  | nil =>
      rw [linkFields]
      exact .pure fun _ => rfl
  | cons field fields =>
      rcases field with ⟨name, value⟩
      rw [linkFields, nodesFields, freshSites_append]
      refine .bind (adds_link value) fun linkedValue => ?_
      refine .bind_pure (adds_linkFields fields) ?_
      rintro last linkedFields hFields first rfl hValue
      exact hValue.append hFields

end

end Expr

end Scriptlet

------------------------------------------------------------
-- Nodes Without Numbers
------------------------------------------------------------

namespace Scriptlet

namespace Expr

variable {S T : Type}
variable (mark : S → T)

mutual

/- Annotations do not change which nodes there are. -/
theorem nodes_mapSites
    (expr : Expr S) :
    (expr.mapSites mark).nodes =
      expr.nodes.map (mapSites mark) := by
  cases expr with
  | block line body =>
      simp [mapSites, nodes, nodesAll_mapSites body]
  | literal line value => simp [mapSites, nodes]
  | var line name => simp [mapSites, nodes]
  | assign line declares name value =>
      simp [mapSites, nodes, nodes_mapSites value]
  | function line name params body writtenAt =>
      simp [mapSites, nodes, nodesAll_mapSites body]
  | call line site callee args =>
      simp [mapSites, nodes, nodes_mapSites callee,
        nodesAll_mapSites args]
  | ret line value =>
      simp [mapSites, nodes, nodes_mapSites value]
  | branch line test thenBody elseBody =>
      simp [mapSites, nodes, nodes_mapSites test,
        nodesAll_mapSites thenBody,
        nodesAll_mapSites elseBody]
  | record line fields =>
      simp [mapSites, nodes, nodesFields_mapSites fields]
  | getField line receiver name =>
      simp [mapSites, nodes, nodes_mapSites receiver]
  | setField line receiver name value =>
      simp [mapSites, nodes, nodes_mapSites receiver,
        nodes_mapSites value]
  | method line site receiver name args =>
      simp [mapSites, nodes, nodes_mapSites receiver,
        nodesAll_mapSites args]

theorem nodesAll_mapSites
    (exprs : List (Expr S)) :
    nodesAll (mapSitesAll mark exprs) =
      (nodesAll exprs).map (mapSites mark) := by
  cases exprs with
  | nil => rfl
  | cons expr exprs =>
      simp [mapSitesAll, nodesAll, nodes_mapSites expr,
        nodesAll_mapSites exprs]

theorem nodesFields_mapSites
    (fields : List (Name × Expr S)) :
    nodesFields (mapSitesFields mark fields) =
      (nodesFields fields).map (mapSites mark) := by
  cases fields with
  | nil => rfl
  | cons field fields =>
      rcases field with ⟨name, expr⟩
      simp [mapSitesFields, nodesFields, nodes_mapSites expr,
        nodesFields_mapSites fields]

end

/- A site is made from a node without its annotation. -/
theorem freshSite?_mapSites
    (room : Nat)
    (expr : Expr S) :
    (expr.mapSites mark).freshSite? room =
      expr.freshSite? room := by
  cases expr <;>
    simp [mapSites, freshSite?, site?, line]

/-
  What only calls are given is as long as the list of the
  calls, and stands in their order.
-/
theorem map_some_filterMap
    {A : Type}
    {given : Expr S → Option A}
    (hGiven : ∀ node, (given node).isSome = node.isCall)
    (nodes : List (Expr S)) :
    (nodes.filterMap given).map some =
      (nodes.filter isCall).map given := by
  rw [List.map_filterMap_some_eq_filter_map_isSome,
    List.filter_map]
  congr 2
  funext node
  exact hGiven node

theorem isSome_owned? (node : Expr S) :
    node.owned?.isSome = node.isCall :=
  Option.isSome_map

theorem isSome_freshSite?
    (room : Nat)
    (node : Expr S) :
    (node.freshSite? room).isSome = node.isCall :=
  Option.isSome_map

end Expr

end Scriptlet

------------------------------------------------------------
-- Linking Scripts
------------------------------------------------------------

namespace Scriptlet

namespace Owns

variable {first room : Nat}
variable {nodes : List (Expr SiteId)}

/- The numbers are those of the calls, in order. -/
theorem map_some_range
    {added : List CallSite}
    (hOwns : Owns first added nodes) :
    (SiteId.range first added.length).map some =
      (nodes.filter Expr.isCall).map Expr.owned? := by
  rw [← hOwns]
  exact Expr.map_some_filterMap Expr.isSome_owned? nodes

/- There are as many sites as calls. -/
theorem length_eq
    {added : List CallSite}
    (hOwns : Owns first added nodes) :
    added.length = (nodes.filter Expr.isCall).length := by
  have hLength := congrArg List.length hOwns.map_some_range
  rw [List.length_map, List.length_map,
    SiteId.length_range] at hLength
  exact hLength

/- A call owns the number of the site it was given. -/
theorem call
    {index : Nat}
    {call : Expr SiteId}
    (hOwns : Owns first (Expr.freshSites room nodes) nodes)
    (hCall :
      (nodes.filter Expr.isCall)[index]? = some call) :
    ∃ argc : Nat,
      call.site? = some (⟨first + index⟩, argc) ∧
        (Expr.freshSites room nodes)[index]? =
          some (CallSite.mk call.line argc room
            .uninitialized 0 0) := by
  have hSites := Expr.map_some_filterMap
    (Expr.isSome_freshSite? room) nodes
  have hIndex :
      index < (Expr.freshSites room nodes).length := by
    rw [hOwns.length_eq]
    exact (List.getElem?_eq_some_iff.mp hCall).1
  have hOwned := congrArg (·[index]?) hOwns.map_some_range
  have hSite := congrArg (·[index]?) hSites
  simp only [List.getElem?_map, hCall, Option.map_some,
    SiteId.getElem?_range hIndex,
    Option.some.injEq] at hOwned
  simp only [List.getElem?_map, hCall,
    Option.map_some] at hSite
  rcases Option.map_eq_some_iff.mp hOwned.symm with
    ⟨⟨id, argc⟩, hCallSite, hId⟩
  cases hId
  refine ⟨argc, hCallSite, ?_⟩
  rw [Expr.freshSite?, hCallSite] at hSite
  rcases Option.map_eq_some_iff.mp hSite with
    ⟨site, hAdded, hEqual⟩
  cases hEqual
  exact hAdded

end Owns

/- The constant that a value is written as, if any. -/
def Value.literal? : Value → Option Literal
  | .undefined => some .undefined
  | .int value => some (.int value)
  | .bool value => some (.bool value)
  | .str value => some (.str value)
  | .object _ => none
  | .function _ => none

namespace Script

/- The calls of a linked script are those of the script. -/
theorem freshSites_eq_link
    (script : Script)
    (room : Nat)
    (sites : Array CallSite) :
    Expr.freshSites room (Expr.nodesAll script.body) =
      Expr.freshSites room
        (Expr.nodesAll
          ((script.link room).run sites).1.body) := by
  have hErased := (script.gives_link room sites).2.1
  unfold Expr.freshSites
  rw [← hErased, Expr.nodesAll_mapSites,
    List.filterMap_map]
  congr 1
  funext node
  exact node.freshSite?_mapSites (fun _ => ()) room

/- Linking a script appends the sites of its calls. -/
theorem run_link
    (script : Script)
    (room : Nat)
    (sites : Array CallSite) :
    let linked := ((script.link room).run sites).1
    let added :=
      Expr.freshSites room (Expr.nodesAll linked.body)
    ((script.link room).run sites).2 =
        sites ++ added.toArray ∧
      linked.sites = SiteId.range sites.size added.length ∧
        Owns sites.size added
          (Expr.nodesAll linked.body) := by
  intro linked added
  have hAdded :
      Expr.freshSites room (Expr.nodesAll script.body) =
        added :=
    script.freshSites_eq_link room sites
  rcases Expr.adds_linkAll room script.body sites with
    ⟨hSites, hOwns⟩
  rw [hAdded] at hSites hOwns
  refine ⟨hSites, ?_, hOwns⟩
  change SiteId.range sites.size
    (((Expr.linkAll room script.body).run sites).2.size -
      sites.size) = _
  rw [hSites]
  simp

end Script

/-
  A linked script is the script with numbers at its calls,
  and what its constants evaluate to reads back as them. Its
  sites are those of its calls, in the order of the nodes,
  and no two calls share one. They stand behind the sites
  that were there before, each for the line and the
  arguments of its call, and none of them was used yet.
-/
theorem link_numbers_calls
    (script : Script)
    (room : Nat)
    (before : Array CallSite) :
    let linked := ((script.link room).run before).1
    let after := ((script.link room).run before).2
    let calls :=
      (Expr.nodesAll linked.body).filter Expr.isCall
    Expr.mapSitesAll (fun _ => ()) linked.body =
        script.body ∧
      (∀ literal,
          (Value.ofLiteral literal).literal? =
            some literal) ∧
        linked.sites.map some = calls.map Expr.owned? ∧
          linked.sites.Nodup ∧
            after.size = before.size + calls.length ∧
              (∀ index, index < before.size →
                  after[index]? = before[index]?) ∧
                ∀ (index : Nat) (call : Expr SiteId),
                  calls[index]? = some call →
                    ∃ (id : SiteId) (argc : Nat),
                      call.site? = some (id, argc) ∧
                        linked.sites[index]? = some id ∧
                          after[id.index]? =
                            some (CallSite.mk call.line argc
                              room .uninitialized 0 0) := by
  intro linked after calls
  let added :=
    Expr.freshSites room (Expr.nodesAll linked.body)
  have hErased := (script.gives_link room before).2.1
  have hAfter : after = before ++ added.toArray :=
    (script.run_link room before).1
  have hSites :
      linked.sites =
        SiteId.range before.size added.length :=
    (script.run_link room before).2.1
  have hOwns :
      Owns before.size added (Expr.nodesAll linked.body) :=
    (script.run_link room before).2.2
  have hOwned :
      linked.sites.map some = calls.map Expr.owned? := by
    rw [hSites]
    exact hOwns.map_some_range
  refine ⟨hErased, ?_, hOwned, ?_, ?_, ?_, ?_⟩
  · intro literal
    cases literal <;> rfl
  · rw [hSites]
    exact SiteId.nodup_range _ _
  · rw [hAfter, Array.size_append]
    exact congrArg (before.size + ·) hOwns.length_eq
  · intro index hIndex
    rw [hAfter, Array.getElem?_append_left hIndex]
  · intro index call hCall
    rcases hOwns.call hCall with ⟨argc, hSite, hAdded⟩
    have hIndex : index < added.length :=
      (List.getElem?_eq_some_iff.mp hAdded).1
    refine ⟨⟨before.size + index⟩, argc, hSite, ?_, ?_⟩
    · rw [hSites]
      exact SiteId.getElem?_range hIndex
    · rw [hAfter, Array.getElem?_append_right (by simp)]
      simpa using hAdded

end Scriptlet
