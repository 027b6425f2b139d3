import Scriptlet.Proofs.Syntax.Renaming

/-
  What becomes of a draft.

  A tree says what its draft says. Each name in it reads as
  the draft spells it, in the place where the draft has it,
  however many strings the table holds and whatever the rest
  of the draft adds to it. Each node is on the line that the
  writing position was on when the node was made, that is
  when its children were done.

  Key definitions include:
    * `Draft.Written`
    * `Draft.WrittenAll`
    * `Draft.WrittenFields`
    * `Builder.Yields`

  Key theorems include:
    * `Builder.Yields.bind`
    * `Draft.yields_build`
    * `drafts_written_out`
-/

------------------------------------------------------------
-- Trees That Say What Drafts Say
------------------------------------------------------------

namespace Scriptlet

namespace Draft

mutual

/-
  A draft, the node that it becomes, and the lines that the
  writing position is on before and after. Names are read in
  `table`, and a node made by name is a call of a variable
  on the same line.
-/
inductive Written
    (table : Interner) :
    Line → Draft → Expr Unit → Line → Prop where
  | literal
      (line : Line)
      (value : Literal) :
      Written table line (.literal value)
        (.literal line value) line
  | var
      {text : String}
      {name : Name}
      (line : Line)
      (hName : table.lookup name = text) :
      Written table line (.var text) (.var line name) line
  | declare
      {start line : Line}
      {text : String}
      {name : Name}
      {value : Draft}
      {node : Expr Unit}
      (hValue : Written table start value node line)
      (hName : table.lookup name = text) :
      Written table start (.declare text value)
        (.assign line true name node) line
  | assign
      {start line : Line}
      {text : String}
      {name : Name}
      {value : Draft}
      {node : Expr Unit}
      (hValue : Written table start value node line)
      (hName : table.lookup name = text) :
      Written table start (.assign text value)
        (.assign line false name node) line
  | call
      {start middle line : Line}
      {callee : Draft}
      {args : List Draft}
      {node : Expr Unit}
      {nodes : List (Expr Unit)}
      (hCallee : Written table start callee node middle)
      (hArgs : WrittenAll table middle args nodes line) :
      Written table start (.call callee args)
        (.call line () node nodes) line
  | callName
      {start line : Line}
      {text : String}
      {name : Name}
      {args : List Draft}
      {nodes : List (Expr Unit)}
      (hArgs : WrittenAll table start args nodes line)
      (hName : table.lookup name = text) :
      Written table start (.callName text args)
        (.call line () (.var line name) nodes) line
  | binary
      {start middle line : Line}
      {symbol : String}
      {name : Name}
      {left right : Draft}
      {leftNode rightNode : Expr Unit}
      (hLeft : Written table start left leftNode middle)
      (hRight : Written table middle right rightNode line)
      (hName : table.lookup name = symbol) :
      Written table start (.binary symbol left right)
        (.call line () (.var line name)
          [leftNode, rightNode]) line
  | function
      {start line : Line}
      {text : Option String}
      {name : Option Name}
      {params : List String}
      {names : List Name}
      {body : List Draft}
      {nodes : List (Expr Unit)}
      (hBody : WrittenAll table start body nodes line)
      (hName : name.map table.lookup = text)
      (hParams : names.map table.lookup = params) :
      Written table start (.function text params body)
        (.function line name names nodes line) line
  | ret
      {start line : Line}
      {value : Draft}
      {node : Expr Unit}
      (hValue : Written table start value node line) :
      Written table start (.ret value) (.ret line node) line
  | branch
      {start middle later line : Line}
      {test : Draft}
      {thenBody elseBody : List Draft}
      {node : Expr Unit}
      {thenNodes elseNodes : List (Expr Unit)}
      (hTest : Written table start test node middle)
      (hThen :
        WrittenAll table middle thenBody thenNodes later)
      (hElse :
        WrittenAll table later elseBody elseNodes line) :
      Written table start (.branch test thenBody elseBody)
        (.branch line node thenNodes elseNodes) line
  | record
      {start line : Line}
      {fields : List (String × Draft)}
      {nodes : List (Name × Expr Unit)}
      (hFields :
        WrittenFields table start fields nodes line) :
      Written table start (.record fields)
        (.record line nodes) line
  | getField
      {start line : Line}
      {text : String}
      {name : Name}
      {receiver : Draft}
      {node : Expr Unit}
      (hReceiver : Written table start receiver node line)
      (hName : table.lookup name = text) :
      Written table start (.getField receiver text)
        (.getField line node name) line
  | setField
      {start middle line : Line}
      {text : String}
      {name : Name}
      {receiver value : Draft}
      {node valueNode : Expr Unit}
      (hReceiver : Written table start receiver node middle)
      (hValue : Written table middle value valueNode line)
      (hName : table.lookup name = text) :
      Written table start (.setField receiver text value)
        (.setField line node name valueNode) line
  | method
      {start middle line : Line}
      {text : String}
      {name : Name}
      {receiver : Draft}
      {args : List Draft}
      {node : Expr Unit}
      {nodes : List (Expr Unit)}
      (hReceiver : Written table start receiver node middle)
      (hArgs : WrittenAll table middle args nodes line)
      (hName : table.lookup name = text) :
      Written table start (.method receiver text args)
        (.method line () node name nodes) line
  | block
      {start line : Line}
      {body : List Draft}
      {nodes : List (Expr Unit)}
      (hBody : WrittenAll table start body nodes line) :
      Written table start (.block body) (.block line nodes)
        line
  | moveTo
      {line finish : Line}
      {draft : Draft}
      {node : Expr Unit}
      (start : Line)
      (hNode : Written table line draft node finish) :
      Written table start (.moveTo line draft) node finish
  | leaving
      {start finish : Line}
      {draft : Draft}
      {node : Expr Unit}
      (hNode : Written table start draft node finish)
      (line : Line) :
      Written table start (.leaving draft line) node line
  | stamped
      {start finish : Line}
      {draft : Draft}
      {node : Expr Unit}
      (hNode : Written table start draft node finish)
      (line : Line) :
      Written table start (.stamped line draft)
        (node.withLine line) finish

/- Drafts and their nodes, from left to right. -/
inductive WrittenAll
    (table : Interner) :
    Line → List Draft → List (Expr Unit) → Line → Prop where
  | nil (line : Line) : WrittenAll table line [] [] line
  | cons
      {start middle finish : Line}
      {draft : Draft}
      {drafts : List Draft}
      {node : Expr Unit}
      {nodes : List (Expr Unit)}
      (hNode : Written table start draft node middle)
      (hRest : WrittenAll table middle drafts nodes finish) :
      WrittenAll table start (draft :: drafts)
        (node :: nodes) finish

/- Record fields with their names, from left to right. -/
inductive WrittenFields
    (table : Interner) :
    Line → List (String × Draft) →
      List (Name × Expr Unit) → Line → Prop where
  | nil (line : Line) : WrittenFields table line [] [] line
  | cons
      {start middle finish : Line}
      {text : String}
      {name : Name}
      {draft : Draft}
      {fields : List (String × Draft)}
      {node : Expr Unit}
      {nodes : List (Name × Expr Unit)}
      (hName : table.lookup name = text)
      (hNode : Written table start draft node middle)
      (hRest :
        WrittenFields table middle fields nodes finish) :
      WrittenFields table start ((text, draft) :: fields)
        ((name, node) :: nodes) finish

end

end Draft

end Scriptlet

------------------------------------------------------------
-- Building Steps
------------------------------------------------------------

namespace Scriptlet

namespace Builder

variable {A B : Type}

/-
  A step of building. The table goes on reading what it did,
  and in all later tables the answer is as `gives` says, for
  the lines that the writing position is on before and after
  the step.
-/
structure Yields
    (step : BuildM A)
    (gives : Interner → Line → A → Line → Prop) : Prop where
  grows :
    ∀ builder : Builder,
      builder.interner.Exact →
        builder.interner.Extends
          (step.run builder).2.interner
  holds :
    ∀ (builder : Builder) (later : Interner),
      builder.interner.Exact →
        (step.run builder).2.interner.Extends later →
          gives later builder.line (step.run builder).1
            (step.run builder).2.line

namespace Yields

variable {first : BuildM A} {rest : A → BuildM B}
variable {gives : Interner → Line → A → Line → Prop}
variable {givesLast : Interner → Line → B → Line → Prop}

/- The rest of the steps may rely on what the first gave. -/
theorem bind
    (hFirst : Yields first gives)
    (hRest :
      ∀ answer,
        Yields (rest answer) fun table middle last finish =>
          ∀ start,
            gives table start answer middle →
              givesLast table start last finish) :
    Yields (first >>= rest) givesLast where
  grows builder hExact :=
    have hMiddle := hFirst.grows builder hExact
    hMiddle.trans ((hRest _).grows _ hMiddle.exact)
  holds builder later hExact hLater := by
    have hMiddle := hFirst.grows builder hExact
    have hGrows :=
      (hRest (first.run builder).1).grows _ hMiddle.exact
    exact (hRest _).holds _ later hMiddle.exact hLater _
      (hFirst.holds builder later hExact
        (hGrows.trans hLater))

/- What a step gives holds in the table that it leaves. -/
theorem holds_last
    (hYields : Yields first gives)
    (builder : Builder)
    (hExact : builder.interner.Exact) :
    gives (first.run builder).2.interner builder.line
      (first.run builder).1 (first.run builder).2.line :=
  hYields.holds builder _ hExact
    (hYields.grows builder hExact).exact.extends

theorem mono
    {other : Interner → Line → A → Line → Prop}
    (hYields : Yields first gives)
    (hGives :
      ∀ table start answer finish,
        gives table start answer finish →
          other table start answer finish) :
    Yields first other where
  grows := hYields.grows
  holds builder later hExact hLater :=
    hGives _ _ _ _ (hYields.holds builder later hExact hLater)

theorem pure
    {answer : A}
    (hGives : ∀ table line, gives table line answer line) :
    Yields (pure answer) gives where
  grows _ hExact := hExact.extends
  holds _ later _ _ := hGives later _

end Yields

theorem yields_position :
    Yields position fun _ start line finish =>
      line = start ∧ finish = start where
  grows _ hExact := hExact.extends
  holds _ _ _ _ := ⟨rfl, rfl⟩

theorem yields_moveTo (line : Line) :
    Yields (moveTo line) fun _ _ _ finish =>
      finish = line where
  grows _ hExact := hExact.extends
  holds _ _ _ _ := rfl

/- A name reads as its string from now on. -/
theorem yields_name (text : String) :
    Yields (name text) fun table start name finish =>
      table.lookup name = text ∧ finish = start where
  grows _ hExact := hExact.extends.intern text
  holds builder later hExact hLater := by
    refine ⟨?_, rfl⟩
    let interner := builder.interner
    have hFind :
        (interner.intern text).2.find? text =
          some (interner.intern text).1 := by
      rw [Interner.find?_intern, if_pos rfl]
    have hRead := hExact.intern text text _ hFind
    exact congrArg (·.getD "") (hLater.reads _ text hRead)

theorem yields_names (texts : List String) :
    Yields (names texts) fun table start names finish =>
      names.map table.lookup = texts ∧ finish = start := by
  induction texts with
  | nil => exact .pure fun _ _ => ⟨rfl, rfl⟩
  | cons text texts ih =>
      rw [names_cons]
      refine (yields_name text).bind fun name => ?_
      refine ih.bind fun names => ?_
      refine .pure ?_
      rintro table line _ ⟨hNames, rfl⟩ _ ⟨hName, rfl⟩
      rw [List.map_cons, hName, hNames]
      exact ⟨rfl, rfl⟩

theorem yields_name? (text : Option String) :
    Yields (name? text) fun table start name finish =>
      name.map table.lookup = text ∧ finish = start := by
  cases text with
  | none => exact .pure fun _ _ => ⟨rfl, rfl⟩
  | some text =>
      refine (yields_name text).bind fun name => ?_
      refine .pure ?_
      rintro table line _ ⟨hName, rfl⟩
      rw [Option.map_some, hName]
      exact ⟨rfl, rfl⟩

/- A node is finished where the writing position is. -/
theorem yields_node
    {node : Line → Expr Unit}
    {gives : Interner → Line → Expr Unit → Line → Prop}
    (hGives :
      ∀ table line, gives table line (node line) line) :
    Yields (do return node (← position)) gives := by
  refine yields_position.bind fun line => ?_
  refine .pure ?_
  rintro table _ _ ⟨rfl, rfl⟩
  exact hGives table _

/- A call by name has its callee on its own line. -/
theorem yields_callName
    (text : String)
    (args : List (Expr Unit)) :
    Yields (callName text args)
      fun table line node finish =>
        finish = line ∧
          ∃ name,
            table.lookup name = text ∧
              node = .call line () (.var line name)
                args := by
  refine yields_position.bind fun line => ?_
  refine (yields_name text).bind fun name => ?_
  refine yields_node ?_
  rintro table _ _ ⟨hName, rfl⟩ _ ⟨rfl, rfl⟩
  exact ⟨rfl, name, hName, rfl⟩

end Builder

end Scriptlet

------------------------------------------------------------
-- Building
------------------------------------------------------------

namespace Scriptlet

namespace Draft

open Builder

mutual

/- A draft becomes a tree that says what it says. -/
theorem yields_build (draft : Draft) :
    Yields draft.build fun table start node finish =>
      Written table start draft node finish := by
  cases draft with
  | literal value =>
      rw [build]
      refine yields_node ?_
      intro table line
      exact .literal line value
  | var text =>
      rw [build]
      refine (yields_name text).bind fun name => ?_
      refine yields_node ?_
      rintro table line _ ⟨hName, rfl⟩
      exact .var _ hName
  | declare text value =>
      rw [build]
      refine (yields_build value).bind fun node => ?_
      refine (yields_name text).bind fun name => ?_
      refine yields_node ?_
      rintro table line _ ⟨hName, rfl⟩ start hValue
      exact .declare hValue hName
  | assign text value =>
      rw [build]
      refine (yields_build value).bind fun node => ?_
      refine (yields_name text).bind fun name => ?_
      refine yields_node ?_
      rintro table line _ ⟨hName, rfl⟩ start hValue
      exact .assign hValue hName
  | call callee args =>
      rw [build]
      refine (yields_build callee).bind fun node => ?_
      refine (yields_buildAll args).bind fun nodes => ?_
      refine yields_node ?_
      intro table line middle hArgs start hCallee
      exact .call hCallee hArgs
  | callName text args =>
      rw [build]
      refine (yields_buildAll args).bind fun nodes => ?_
      refine (yields_callName text nodes).mono ?_
      rintro table line _ _ ⟨rfl, name, hName, rfl⟩ start
        hArgs
      exact .callName hArgs hName
  | binary symbol left right =>
      rw [build]
      refine (yields_build left).bind fun leftNode => ?_
      refine (yields_build right).bind fun rightNode => ?_
      refine (yields_callName symbol _).mono ?_
      rintro table line _ _ ⟨rfl, name, hName, rfl⟩ middle
        hRight start hLeft
      exact .binary hLeft hRight hName
  | function text params body =>
      rw [build]
      refine (yields_buildAll body).bind fun nodes => ?_
      refine (yields_name? text).bind fun name => ?_
      refine (yields_names params).bind fun names => ?_
      refine yields_node ?_
      rintro table line _ ⟨hParams, rfl⟩ _ ⟨hName, rfl⟩
        start hBody
      exact .function hBody hName hParams
  | ret value =>
      rw [build]
      refine (yields_build value).bind fun node => ?_
      refine yields_node ?_
      intro table line start hValue
      exact .ret hValue
  | branch test thenBody elseBody =>
      rw [build]
      refine (yields_build test).bind fun node => ?_
      refine (yields_buildAll thenBody).bind
        fun thenNodes => ?_
      refine (yields_buildAll elseBody).bind
        fun elseNodes => ?_
      refine yields_node ?_
      intro table line later hElse middle hThen start hTest
      exact .branch hTest hThen hElse
  | record fields =>
      rw [build]
      refine (yields_buildFields fields).bind
        fun nodes => ?_
      refine (yields_names (fields.map Prod.fst)).bind
        fun names => ?_
      refine yields_node ?_
      rintro table line _ ⟨hNames, rfl⟩ start hFields
      exact .record (hFields names hNames)
  | getField receiver text =>
      rw [build]
      refine (yields_build receiver).bind fun node => ?_
      refine (yields_name text).bind fun name => ?_
      refine yields_node ?_
      rintro table line _ ⟨hName, rfl⟩ start hReceiver
      exact .getField hReceiver hName
  | setField receiver text value =>
      rw [build]
      refine (yields_build receiver).bind fun node => ?_
      refine (yields_build value).bind fun valueNode => ?_
      refine (yields_name text).bind fun name => ?_
      refine yields_node ?_
      rintro table line _ ⟨hName, rfl⟩ middle hValue start
        hReceiver
      exact .setField hReceiver hValue hName
  | method receiver text args =>
      rw [build]
      refine (yields_build receiver).bind fun node => ?_
      refine (yields_buildAll args).bind fun nodes => ?_
      refine (yields_name text).bind fun name => ?_
      refine yields_node ?_
      rintro table line _ ⟨hName, rfl⟩ middle hArgs start
        hReceiver
      exact .method hReceiver hArgs hName
  | block body =>
      rw [build]
      refine (yields_buildAll body).bind fun nodes => ?_
      refine yields_node ?_
      intro table line start hBody
      exact .block hBody
  | moveTo line node =>
      rw [build]
      refine (yields_moveTo line).bind fun _ => ?_
      refine (yields_build node).mono ?_
      rintro table _ expr finish hNode start rfl
      exact .moveTo start hNode
  | leaving node line =>
      rw [build]
      refine (yields_build node).bind fun node => ?_
      refine (yields_moveTo line).bind fun _ => ?_
      refine .pure ?_
      rintro table _ _ rfl start hNode
      exact .leaving hNode _
  | stamped line node =>
      rw [build]
      refine (yields_build node).bind fun node => ?_
      refine .pure ?_
      intro table _ start hNode
      exact .stamped hNode line

theorem yields_buildAll (drafts : List Draft) :
    Yields (buildAll drafts)
      fun table start nodes finish =>
        WrittenAll table start drafts nodes finish := by
  cases drafts with
  | nil =>
      rw [buildAll]
      exact .pure fun _ line => .nil line
  | cons draft drafts =>
      rw [buildAll]
      refine (yields_build draft).bind fun node => ?_
      refine (yields_buildAll drafts).bind fun nodes => ?_
      refine .pure ?_
      intro table line middle hRest start hNode
      exact .cons hNode hRest

/- The values come first, and get their names later. -/
theorem yields_buildFields
    (fields : List (String × Draft)) :
    Yields (buildFields fields)
      fun table start nodes finish =>
        ∀ names : List Name,
          names.map table.lookup = fields.map Prod.fst →
            WrittenFields table start fields
              (names.zip nodes) finish := by
  cases fields with
  | nil =>
      rw [buildFields]
      refine .pure ?_
      intro table line names hNames
      rw [List.zip_nil_right]
      exact .nil line
  | cons field fields =>
      rcases field with ⟨text, draft⟩
      rw [buildFields]
      refine (yields_build draft).bind fun node => ?_
      refine (yields_buildFields fields).bind
        fun nodes => ?_
      refine .pure ?_
      intro table line middle hRest start hNode names hNames
      cases names with
      | nil => cases hNames
      | cons name names =>
          rcases List.cons.inj hNames with ⟨hName, hNames⟩
          exact .cons hName hNode (hRest names hNames)

end

end Draft

end Scriptlet

------------------------------------------------------------
-- The Building Contract
------------------------------------------------------------

namespace Scriptlet

/-
  Whatever a table holds, and wherever writing starts, a
  draft becomes a tree that says what the draft says, in the
  names of the last table. So does a list of drafts when it
  becomes a script, which is written from line one on.
-/
theorem drafts_written_out
    (builder : Builder)
    (hReachable : builder.interner.Reachable) :
    (∀ draft : Draft,
      let built := draft.build.run builder
      Draft.Written built.2.interner builder.line draft
        built.1 built.2.line) ∧
      ∀ body : List Draft,
        let built := Builder.script builder.interner body
        Draft.WrittenAll built.2.interner 1 body
          built.1.body built.2.line := by
  have hExact := hReachable.faithful.exact
  constructor
  · intro draft
    exact draft.yields_build.holds_last builder hExact
  · intro body
    exact (Draft.yields_buildAll body).holds_last
      { interner := builder.interner } hExact

/- A function that is finished two lines after its body. -/
theorem drafts_written_out_function :
    let draft : Draft :=
      .function (some "f") ["x", "y"]
        [.leaving
          (.ret (.binary "+" (.var "x") (.var "y"))) 9]
    let builder : Builder :=
      { interner := Interner.new, line := 7 }
    let tree : Expr Unit :=
      .function 9 (some ⟨4⟩) [⟨1⟩, ⟨2⟩]
        [.ret 7 (.call 7 () (.var 7 ⟨3⟩)
          [.var 7 ⟨1⟩, .var 7 ⟨2⟩])] 9
    builder.interner.Reachable ∧
      (draft.build.run builder).1 = tree ∧
        Draft.Written (draft.build.run builder).2.interner 7
          draft tree 9 := by
  intro draft builder tree
  have hReachable : builder.interner.Reachable := .new
  have hTree : (draft.build.run builder).1 = tree := by
    rfl
  have hLine : (draft.build.run builder).2.line = 9 := by
    rfl
  refine ⟨hReachable, hTree, ?_⟩
  rw [← hTree, ← hLine]
  exact (drafts_written_out builder hReachable).1 draft

end Scriptlet
