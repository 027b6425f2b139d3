import Scriptlet.Fault.Failure

/-
  How failures are written.

  A failure is one line of text. Its active calls follow
  either as a list of their own, under a heading, or as the
  tail of a report; both number the calls from zero, the
  innermost first.

  Key definitions include:
    * `Failure.message`
    * `Backtrace.render`
    * `Failure.report`
-/

------------------------------------------------------------
-- Texts
------------------------------------------------------------

namespace Scriptlet

/- A failure in one line, with its line if that is known. -/
def Failure.message
    (failure : Failure) :
    String :=
  match failure.line with
  | some line =>
      "at line " ++ toString line ++ ", "
        ++ failure.cause.message
  | none => failure.cause.message

namespace Backtrace

/- Active calls, one to a line, numbered from `first`. -/
def renderFrom
    (first : Nat) :
    Backtrace → String
  | [] => ""
  | active :: rest =>
      "  " ++ toString first ++ ": " ++ active.name
        ++ " called at line " ++ toString active.line
        ++ "\n" ++ renderFrom (first + 1) rest

/-
  The active calls under a heading, each on a line of its
  own. Without active calls there is no heading either.
-/
def render : Backtrace → String
  | [] => ""
  | calls => "stack backtrace:\n" ++ renderFrom 0 calls

end Backtrace

/- A failure and its active calls, without a last newline. -/
def Failure.report
    (failure : Failure) :
    String :=
  failure.backtrace.zipIdx.foldl
    (fun text (active, index) =>
      text ++ "\n  " ++ toString index ++ ": "
        ++ active.name ++ " called at line "
        ++ toString active.line)
    ("error: " ++ failure.message)

end Scriptlet
