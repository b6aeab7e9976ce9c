import Bookmarklet.Proofs.Preview.Window
import Bookmarklet.Proofs.Text.Lines

/-!
# The exported log

An exported log has a line for each entry, but an entry that holds line feeds has a line more for each of them
(`Log.lines_exportText`, `Log.length_lines_exportText`). A page can put any text into an entry, and so lines of its own
making, with any level, into the exported text (`Session.not_forall_lines_exportText`). The lines and their levels are
those of the entries exactly if no message of them holds a line feed (`Session.lines_exportText_run`).
-/

namespace Bookmarklet.Preview

/-- The level that a line shows at its start. -/
def lineLevel? (line : List Char) : Option Level :=
  Level.all.find? fun level => ("[" ++ level.name ++ "] ").toList.isPrefixOf line

/-! ## Entries -/

namespace Entry

variable (e : Entry)

/-- What stands before the message of an entry. -/
def mark : List Char := ("[" ++ e.level.name ++ "] ").toList

theorem toList_line : e.line.toList = e.mark ++ e.message.toList := by
  rw [line, String.toList_append, ← mark]

theorem newline_notMem_mark : '\n' ∉ e.mark := by
  rw [mark]
  cases e.level <;> decide +kernel

/-- The line feeds in the line of an entry are those of its message. -/
theorem count_line : e.line.toList.count '\n' = e.message.toList.count '\n' := by
  rw [toList_line, List.count_append, List.count_eq_zero.2 e.newline_notMem_mark, Nat.zero_add]

/-- The line of an entry shows its level, whatever its message is. -/
theorem lineLevel?_line : lineLevel? e.line.toList = some e.level := by
  rw [toList_line, mark]
  cases e.level <;> rfl

end Entry

/-! ## Logs -/

namespace Log

section Export

variable {log : Log} {level? : Option Level}

/-- The exported text has the lines of each entry, in order. -/
theorem lines_exportText (h : log.filtered level? ≠ []) :
    Text.lines (log.exportText level?).toList = (log.filtered level?).flatMap fun e => Text.lines e.line.toList := by
  have hnewline : "\n".toList = ['\n'] := String.toList_ofList
  have hparts : ((log.filtered level?).map (·.line)).map String.toList ≠ [] := by simpa using h
  rw [exportText, String.toList_intercalate, hnewline, Text.lines_intercalate hparts, List.flatMap_map,
    List.flatMap_map]

/-- There is one line for each entry, and one for each line feed in their messages. -/
theorem length_lines_exportText (h : log.filtered level? ≠ []) :
    (Text.lines (log.exportText level?).toList).length
      = (log.filtered level?).length + ((log.filtered level?).flatMap (·.message.toList)).count '\n' := by
  rw [lines_exportText h]
  induction log.filtered level? with
  | nil => rfl
  | cons e entries ih =>
    rw [List.flatMap_cons, List.length_append, ih, Text.length_lines, e.count_line, List.flatMap_cons,
      List.count_append, List.length_cons]
    omega

/-- Without line feeds in their messages, the lines are those of the entries. -/
theorem lines_exportText_eq_map (h : log.filtered level? ≠ [])
    (hmessages : ∀ e ∈ log.filtered level?, '\n' ∉ e.message.toList) :
    Text.lines (log.exportText level?).toList = (log.filtered level?).map (·.line.toList) := by
  rw [lines_exportText h, List.map_eq_flatMap]
  refine List.flatMap_congr fun e he => Text.lines_of_notMem ?_
  rw [← List.count_eq_zero, e.count_line, List.count_eq_zero]
  exact hmessages e he

/-- There are as many lines as entries only if no message has a line feed. -/
theorem newline_notMem_of_length (h : log.filtered level? ≠ [])
    (hlength : (Text.lines (log.exportText level?).toList).length = (log.filtered level?).length) :
    ∀ e ∈ log.filtered level?, '\n' ∉ e.message.toList := by
  intro e he
  rw [length_lines_exportText h] at hlength
  have hcount : ((log.filtered level?).flatMap (·.message.toList)).count '\n' = 0 := by omega
  have hnone := List.count_eq_zero.1 hcount
  exact fun hmem => hnone (List.mem_flatMap.2 ⟨e, he, hmem⟩)

end Export

end Log

/-! ## Sessions -/

namespace Session

/-- The log of a session has the last entries that were written, as many as it holds. The exported text has a line for
each entry of a level, and one more for each line feed in their messages; so its lines are those of the entries, and
show their levels, exactly if no message has a line feed. -/
theorem lines_exportText_run (capacity : Nat) (clear : Bool) (acts : List Act) (level? : Option Level) :
    let log := ((start (.empty capacity) clear).performAll acts).log
    let written := (Chronicle.ofActs clear acts).written
    let entries := log.filtered level?
    let lines := Text.lines (log.exportText level?).toList
    log.entries = written.drop (written.length - max capacity 1)
      ∧ (entries ≠ [] →
        lines.length = entries.length + (entries.flatMap (·.message.toList)).count '\n'
          ∧ (lines = entries.map (·.line.toList) ↔ ∀ e ∈ entries, '\n' ∉ e.message.toList)
          ∧ (lines.map lineLevel? = entries.map (some ·.level) ↔ ∀ e ∈ entries, '\n' ∉ e.message.toList)) := by
  intro log written entries lines
  have hroom : 0 < max capacity 1 := Nat.le_max_right _ _
  have hwindow := ((Follows.start capacity clear).performAll hroom acts).window
  refine ⟨hwindow.entries_eq_drop, fun h => ⟨Log.length_lines_exportText h, ⟨?_, ?_⟩, ⟨?_, ?_⟩⟩⟩
  · intro hlines
    have hlength := congrArg List.length hlines
    rw [List.length_map] at hlength
    exact Log.newline_notMem_of_length h hlength
  · exact Log.lines_exportText_eq_map h
  · intro hlevels
    -- lines that a page makes up may show the levels of other entries, but there are too many of them
    have hlength := congrArg List.length hlevels
    rw [List.length_map, List.length_map] at hlength
    exact Log.newline_notMem_of_length h hlength
  · intro hmessages
    have hlines : lines = entries.map (·.line.toList) := Log.lines_exportText_eq_map h hmessages
    rw [hlines, List.map_map]
    exact List.map_congr_left fun e _ => e.lineLevel?_line

/-- A page that posts a line feed writes two lines, the second with a level of its choice. -/
theorem not_forall_lines_exportText :
    ¬∀ (capacity : Nat) (clear : Bool) (acts : List Act) (level? : Option Level),
      let log := ((start (.empty capacity) clear).performAll acts).log
      log.filtered level? ≠ [] →
        Text.lines (log.exportText level?).toList = (log.filtered level?).map (·.line.toList) := by
  intro h
  have hposted := h 1 false [.move (.load 0 "f()"), .move (.receive ⟨0, Event.toJson ⟨.log, "a\n[error] b"⟩⟩)] none
  revert hposted
  decide +kernel

end Session

end Bookmarklet.Preview
