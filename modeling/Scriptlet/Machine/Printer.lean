/-
  Where printed text goes.

  A sink takes text or refuses it with a reason, and it may
  change its mind after every text. A printer keeps its text
  in a buffer, hands it to a sink, or drops it; a refusal is
  noted and the program goes on.

  Key definitions include:
    * `Sink`
    * `Sink.write`
    * `Printer`
    * `Printer.write`
    * `Printer.captured`
    * `Printer.output`

  Key theorems include:
    * `Printer.write_buffer`
    * `Printer.write_memory`
-/

------------------------------------------------------------
-- Sinks
------------------------------------------------------------

namespace Scriptlet

/-
  A place that text is written to, with the text that has
  reached it. `takes` says, for each text to come and those
  that come before it, how much of it is going to reach the
  sink, and why that is not all, if the sink complains.
-/
structure Sink where
  received : String
  takes : List String → String → String × Option String

namespace Sink

/- A sink that takes every text. -/
def memory (text : String) : Sink where
  received := text
  takes _ text := (text, none)

/-
  A sink that refuses every text but the empty one, for
  which there is nothing to write.
-/
def failing (reason : String) : Sink where
  received := ""
  takes _ text :=
    if text.isEmpty then
      ("", none)
    else
      ("", some reason)

/-
  Write to a sink. The second part is the reason, if the
  sink refused the text.
-/
def write
    (sink : Sink)
    (text : String) :
    Sink × Option String :=
  let (taken, refusal) := sink.takes [] text
  ({ received := sink.received ++ taken
     takes := fun earlier => sink.takes (text :: earlier) },
    refusal)

/- A sink may begin to refuse once it took some texts. -/
example :
    let sink : Sink :=
      { received := ""
        takes := fun earlier text =>
          if earlier.length < 1 then
            (text, none)
          else
            ("", some "full") }
    (sink.write "a").2 = none ∧
      ((sink.write "a").1.write "b").2 = some "full" ∧
        ((sink.write "a").1.write "b").1.received = "a" := by
  decide

end Sink

end Scriptlet

------------------------------------------------------------
-- Printers
------------------------------------------------------------

namespace Scriptlet

/- What becomes of printed text. -/
inductive Printer where
  | buffer (text : String)
  | writer (sink : Sink)
  | silent

namespace Printer

/-
  Print a text. The second part is the reason, if a sink
  refused the text.
-/
def write
    (printer : Printer)
    (text : String) :
    Printer × Option String :=
  match printer with
  | .buffer held => (.buffer (held ++ text), none)
  | .writer sink =>
      let (sink, refusal) := sink.write text
      (.writer sink, refusal)
  | .silent => (.silent, none)

/- Print a text and end the line. -/
def writeLine
    (printer : Printer)
    (text : String) :
    Printer × Option String :=
  printer.write (text ++ "\n")

/- The text that a buffer holds. -/
def captured : Printer → String
  | .buffer text => text
  | .writer _ => ""
  | .silent => ""

/- The text that reached a printer's sink. -/
def delivered : Printer → String
  | .buffer _ => ""
  | .writer sink => sink.received
  | .silent => ""

/- The text that a printer did not drop. -/
def output (printer : Printer) : String :=
  printer.captured ++ printer.delivered

/- Empty the buffer. A sink keeps what it was given. -/
def clear : Printer → Printer
  | .buffer _ => .buffer ""
  | .writer sink => .writer sink
  | .silent => .silent

/- Collect the text so far, leaving none behind. -/
def drain : Printer → String × Printer
  | .buffer text => (text, .buffer "")
  | .writer sink =>
      (sink.received, .writer { sink with received := "" })
  | .silent => ("", .silent)

end Printer

end Scriptlet

------------------------------------------------------------
-- Printers That Keep Everything
------------------------------------------------------------

namespace Scriptlet

namespace Printer

/- A buffer takes every text at its end. -/
@[simp] theorem write_buffer
    (held text : String) :
    (Printer.buffer held).write text =
      (.buffer (held ++ text), none) := by
  rfl

/- A sink in memory takes every text at its end. -/
@[simp] theorem write_memory
    (written text : String) :
    (Printer.writer (.memory written)).write text =
      (.writer (.memory (written ++ text)), none) := by
  rfl

end Printer

end Scriptlet
