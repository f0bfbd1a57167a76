/-
# Sentential.Proofs.Journal.Shown -- what of a run can be seen

A run leaves entries behind, and a threshold decides which of them are seen: text that was printed
always is, a record if it is as serious as the threshold. What is seen is the list of the entries
with some left out, so raising the threshold only leaves out more of them, and the text of a run is
the text of the entries seen, in their order.
-/
import Sentential.Proofs.Journal.Channels

namespace Sentential

namespace Entry

/-- The entry is seen at a threshold. -/
def shownAt (threshold : Level) : Entry → Bool
  | .record level _ => level.passes threshold
  | .printed _ => true

/-- An entry as it is written. -/
def line : Entry → String
  | .record level message => recordText level.severity message ++ "\n"
  | .printed text => text ++ "\n"

/-- The entries that are seen at a threshold. -/
def shown (threshold : Level) (entries : List Entry) : List Entry :=
  entries.filter (shownAt threshold)

/-- Entries as they are written, one after another. -/
def text (entries : List Entry) : String := .join (entries.map line)

@[simp]
theorem text_nil : text [] = "" := rfl

@[simp]
theorem text_append (us vs : List Entry) : text (us ++ vs) = text us ++ text vs := by
  rw [text, List.map_append, String.join_append]
  rfl

@[simp]
theorem shown_append (threshold : Level) (us vs : List Entry) :
    shown threshold (us ++ vs) = shown threshold us ++ shown threshold vs :=
  List.filter_append ..

/-- What is seen at a higher threshold is what is seen of what is seen at a lower one. -/
theorem shown_shown {low high : Level} (h : low.severity ≤ high.severity) (entries : List Entry) :
    shown high (shown low entries) = shown high entries := by
  rw [shown, shown, shown, List.filter_filter]
  refine List.filter_congr ?_
  intro entry _
  cases entry with
  | printed text => rfl
  | record level message =>
      have hmono : level.passes high → level.passes low := by
        simp only [Level.passes, decide_eq_true_eq]
        omega
      simpa [shownAt] using hmono

end Entry

/-! ## Output -/

/-- A channel with its one handler writes an entry once if it is seen at its level. -/
theorem Channel.writeEntry_reopened (threshold : Level) (entry : Entry) :
    (Channel.reopened threshold).writeEntry entry =
      if entry.shownAt threshold then entry.line else "" := by
  cases entry with
  | printed text => rfl
  | record level message =>
      rw [Channel.writeEntry, Channel.write_reopened]
      simp [Entry.shownAt, Level.passes, Entry.line]

/-- What such a channel writes of a run is the text of the entries seen at its level. -/
theorem Channel.transcript_reopened (threshold : Level) (entries : List Entry) :
    (Channel.reopened threshold).transcript entries =
      Entry.text (Entry.shown threshold entries) := by
  rw [Channel.transcript, Entry.text, Entry.shown]
  induction entries with
  | nil => rfl
  | cons entry rest ih =>
      rw [List.map_cons, String.join_cons, ih, Channel.writeEntry_reopened, List.filter_cons]
      split
      · rw [List.map_cons, String.join_cons]
      · exact String.empty_append

/-- Once the verbosity has been chosen, a run writes the entries that are seen at its level. -/
theorem Journal.transcript_setMainLevel (threshold : Level) (entries : List Entry) :
    (start.setMainLevel threshold).transcript entries =
      Entry.text (Entry.shown threshold entries) := by
  have hmain : (start.setMainLevel threshold).main = some usualName :=
    main_after [.setMainLevel threshold]
  have hchannel : (start.setMainLevel threshold).channel? usualName = some (.reopened threshold) :=
    channel?_after [.setMainLevel threshold] (.inl rfl)
  rw [transcript, obtain_eq hmain]
  simp only [hchannel]
  exact Channel.transcript_reopened threshold entries

end Sentential
