import Scriptlet.Fault.Report

/-
  Listings of active calls.

  The active calls of a failure are listed under a heading
  or at the end of a report. Either way they come one to a
  line, from the innermost on, and are numbered from zero.

  Key definitions include:
    * `Backtrace.entry`
    * `Backtrace.listing`
    * `afterFirstLine`

  Key theorems include:
    * `Backtrace.renderFrom_eq_listing`
    * `Backtrace.foldl_newline_entry`
    * `afterFirstLine_append`
    * `listings_agree`
-/

------------------------------------------------------------
-- Entries
------------------------------------------------------------

namespace Scriptlet

namespace Backtrace

/- What is said of an active call with a number. -/
def entry
    (active : ActiveCall)
    (index : Nat) :
    String :=
  "  " ++ toString index ++ ": " ++ active.name
    ++ " called at line " ++ toString active.line

/- Active calls, one to a line, numbered from `first`. -/
def listing
    (calls : Backtrace)
    (first : Nat) :
    String :=
  String.join
    ((calls.zipIdx first).map fun (active, index) =>
      entry active index ++ "\n")

theorem listing_cons
    (active : ActiveCall)
    (calls : Backtrace)
    (first : Nat) :
    listing (active :: calls) first =
      entry active first ++ "\n" ++
        listing calls (first + 1) := by
  rw [listing, List.zipIdx_cons, List.map_cons,
    String.join_cons]
  rfl

/- Each line may be ended by a newline. -/
theorem renderFrom_eq_listing
    (first : Nat)
    (calls : Backtrace) :
    renderFrom first calls = listing calls first := by
  induction calls generalizing first with
  | nil => rfl
  | cons active calls ih =>
      rw [renderFrom, listing_cons, ih, entry]

/- Or each may be begun by one, with one more at the end. -/
theorem foldl_newline_entry
    (text : String)
    (first : Nat)
    (calls : Backtrace) :
    (calls.zipIdx first).foldl
          (fun text (active, index) =>
            text ++ "\n" ++ entry active index)
          text ++ "\n" =
      text ++ "\n" ++ listing calls first := by
  induction calls generalizing text first with
  | nil =>
      rw [listing, List.zipIdx_nil, List.map_nil,
        String.join_nil, String.append_empty]
      rfl
  | cons active calls ih =>
      rw [List.zipIdx_cons, List.foldl_cons, ih,
        listing_cons]
      simp only [String.append_assoc]

end Backtrace

end Scriptlet

------------------------------------------------------------
-- Headings
------------------------------------------------------------

namespace Scriptlet

/- A text without its first line. -/
def afterFirstLine
    (text : String) :
    String :=
  String.ofList ((text.toList.dropWhile (· != '\n')).drop 1)

theorem afterFirstLine_append
    {heading : String}
    (hHeading : '\n' ∉ heading.toList)
    (rest : String) :
    afterFirstLine (heading ++ "\n" ++ rest) = rest := by
  have hDrop :
      ∀ char ∈ heading.toList, (char != '\n') = true := by
    intro char hChar
    rw [bne_iff_ne]
    rintro rfl
    exact hHeading hChar
  rw [afterFirstLine, String.toList_append,
    String.toList_append, List.append_assoc,
    List.dropWhile_append_of_pos hDrop]
  exact String.ofList_toList

theorem render_of_ne_nil
    {calls : Backtrace}
    (hCalls : calls ≠ []) :
    calls.render =
      "stack backtrace:" ++ "\n" ++ calls.listing 0 := by
  rw [Backtrace.render, Backtrace.renderFrom_eq_listing]
  · rfl
  · exact hCalls

theorem afterFirstLine_render (calls : Backtrace) :
    afterFirstLine calls.render = calls.listing 0 := by
  have hHeading : '\n' ∉ "stack backtrace:".toList := by
    decide
  by_cases hCalls : calls = []
  · rw [hCalls]
    rfl
  · rw [render_of_ne_nil hCalls]
    exact afterFirstLine_append hHeading _

/- A report puts the entries below its message. -/
theorem report_newline (failure : Failure) :
    failure.report ++ "\n" =
      "error: " ++ failure.message ++ "\n" ++
        failure.backtrace.listing 0 := by
  rw [← Backtrace.foldl_newline_entry, Failure.report]
  congr 2
  funext text ⟨active, index⟩
  have hBreak : "\n  " = "\n" ++ "  " := rfl
  simp only [Backtrace.entry, hBreak, String.append_assoc]

end Scriptlet

------------------------------------------------------------
-- Agreement
------------------------------------------------------------

namespace Scriptlet

/-
  A report and the list of active calls agree. The report,
  with a newline, is the message with the list below it but
  for the heading of the list. What is left of the list has
  one line for every active call in turn, with numbers from
  zero on, and is nothing if there are no calls.
-/
theorem listings_agree (failure : Failure) :
    failure.report ++ "\n" =
        "error: " ++ failure.message ++ "\n" ++
          afterFirstLine failure.backtrace.render ∧
      failure.backtrace.render =
        (if failure.backtrace = [] then ""
          else "stack backtrace:\n") ++
          afterFirstLine failure.backtrace.render ∧
      afterFirstLine failure.backtrace.render =
        String.join
          (failure.backtrace.zipIdx.map
            fun (active, index) =>
              "  " ++ toString index ++ ": " ++ active.name
                ++ " called at line "
                ++ toString active.line ++ "\n") := by
  rw [afterFirstLine_render]
  refine ⟨report_newline failure, ?_, rfl⟩
  split
  case isTrue hCalls =>
      rw [hCalls]
      rfl
  case isFalse hCalls => exact render_of_ne_nil hCalls

end Scriptlet
