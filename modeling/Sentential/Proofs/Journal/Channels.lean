/-
# Sentential.Proofs.Journal.Channels -- one handler for a channel, whatever was asked before

A name has one channel, and whoever opened it, or opened it again, holds the same one. Every
command that says anything about the level of a channel says it of the channel and of its handlers
alike, and opening a channel again replaces its handlers by one. So a channel that was ever opened
has a single handler, both are at the level that the latest such command gave, and a record is
written once or not at all. Which command was the latest is read off the history alone:
`Journal.levelAfter`.
-/
import Mathlib.Data.List.Induction
import Sentential.Journal.Basic

namespace Sentential

/-- With one handler in step a record is written once or not at all. -/
theorem Channel.write_reopened (threshold level : Level) (message : String) :
    (Channel.reopened threshold).write level message =
      if threshold.severity ≤ level.severity then recordText level.severity message ++ "\n"
      else "" := by
  by_cases h : threshold.severity ≤ level.severity <;>
    simp [Channel.write, Channel.reopened, Level.passes, h, String.join]

namespace Journal

/-! ## Histories -/

/-- The level that a command gives to the channel of a name. -/
def Command.level? (name : String) : Command → Option Level
  | .create other level => if key other = key name then some level else none
  | .setLevel other level => if key other = key name then some level else none
  | .setMainLevel level => if key usualName = key name then some level else none
  | .configure verbose debug =>
    if key usualName = key name then some (levelFor verbose debug) else none
  | .obtain _ => none
  | .write .. => none

/-- The level that the latest command of a history gave to the channel of a name; without any it is
information, at which the main channel starts. -/
def levelAfter (history : List Command) (name : String) : Level :=
  (history.reverse.findSome? (Command.level? name)).getD .info

/-- The name is that of the main channel, or of one that the history has opened. -/
def Opened (history : List Command) (name : String) : Prop :=
  key usualName = key name ∨ ∃ other level, .create other level ∈ history ∧ key other = key name

/-- The journal after a history. -/
def after (journal : Journal) (history : List Command) : Journal :=
  history.foldl (fun journal command => (journal.run command).1) journal

theorem levelAfter_concat (history : List Command) (command : Command) (name : String) :
    levelAfter (history ++ [command]) name =
      (command.level? name).getD (levelAfter history name) := by
  rw [levelAfter, List.reverse_append, List.reverse_singleton, List.singleton_append,
    List.findSome?_cons]
  cases command.level? name <;> rfl

theorem after_concat (journal : Journal) (history : List Command) (command : Command) :
    journal.after (history ++ [command]) = ((journal.after history).run command).1 := by
  rw [after, List.foldl_append]
  rfl

/-! ## Single channels -/

theorem channel?_put (journal : Journal) (name other : String) (channel : Channel) :
    (journal.put name channel).channel? other =
      if key name = key other then some channel else journal.channel? other := by
  by_cases h : key name = key other
  · simp [channel?, put, h]
  · have hne : (key other == key name) = false := by simpa using Ne.symm h
    rw [if_neg h, channel?, put, List.lookup_cons, hne]
    show List.lookup (key other) (journal.channels.filter (·.1 != key name)) = _
    rw [channel?]
    -- what was kept under other names is still there
    induction journal.channels with
    | nil => rfl
    | cons entry rest ih =>
        obtain ⟨kept, channel'⟩ := entry
        by_cases hkept : kept = key name
        · subst hkept
          rw [List.filter_cons_of_neg (by simp), ih, List.lookup_cons, hne]
        · rw [List.filter_cons_of_pos (by simpa using hkept), List.lookup_cons, List.lookup_cons,
            ih]

@[simp]
theorem main_put (journal : Journal) (name : String) (channel : Channel) :
    (journal.put name channel).main = journal.main := rfl

theorem main_setLevel (journal : Journal) (name : String) (level : Level) :
    (journal.setLevel name level).main = journal.main := by
  unfold setLevel
  cases journal.channel? name <;> rfl

/-- A channel with its one handler is moved to another level as a whole. -/
theorem channel?_setLevel {journal : Journal} {name : String} {old : Level}
    (h : journal.channel? name = some (.reopened old)) (other : String) (level : Level) :
    (journal.setLevel other level).channel? name =
      some (.reopened (if key other = key name then level else old)) := by
  by_cases hkey : key other = key name
  · have hother : journal.channel? other = some (.reopened old) := by
      rw [channel?, hkey]
      exact h
    rw [setLevel, hother, if_pos hkey]
    simp only [channel?_put, if_pos hkey]
    rfl
  · rw [setLevel, if_neg hkey]
    cases journal.channel? other with
    | none => exact h
    | some channel =>
        simp only [channel?_put, if_neg hkey]
        exact h

/-! ## Commands -/

section Commands

variable {journal : Journal} (hmain : journal.main = some usualName)

include hmain

/-- Everyone who asks for a channel gets the main one. -/
theorem obtain_eq (name : String) : journal.obtain name = (journal, usualName) := by
  rw [obtain, hmain]

theorem setMainLevel_eq (level : Level) :
    journal.setMainLevel level = journal.setLevel usualName level := by
  rw [setMainLevel, obtain_eq hmain]

/-- No command replaces the main channel by another. -/
theorem main_run (command : Command) : (journal.run command).1.main = some usualName := by
  cases command with
  | create name level => exact hmain
  | setLevel name level => rw [run, main_setLevel, hmain]
  | setMainLevel level => rw [run, setMainLevel_eq hmain, main_setLevel, hmain]
  | configure verbose debug => rw [run, setMainLevel_eq hmain, main_setLevel, hmain]
  | obtain name => rw [run, obtain_eq hmain, hmain]
  | write name level message => exact hmain

/-- An open channel keeps its one handler, and both go to the level that the command gives. -/
theorem channel?_run {name : String} {old : Level}
    (h : journal.channel? name = some (.reopened old)) (command : Command) :
    (journal.run command).1.channel? name =
      some (.reopened ((command.level? name).getD old)) := by
  cases command with
  | create other level =>
      rw [run, channel?_put, Command.level?]
      split
      · rfl
      · exact h
  | setLevel other level =>
      rw [run, channel?_setLevel h, Command.level?]
      split <;> rfl
  | setMainLevel level =>
      rw [run, setMainLevel_eq hmain, channel?_setLevel h, Command.level?]
      split <;> rfl
  | configure verbose debug =>
      rw [run, setMainLevel_eq hmain, channel?_setLevel h, Command.level?]
      split <;> rfl
  | obtain other =>
      rw [run, obtain_eq hmain]
      exact h
  | write other level message => exact h

end Commands

/-- A channel that a command opens has one handler, whatever it had before. -/
theorem channel?_create (journal : Journal) {name other : String} (level : Level)
    (h : key other = key name) :
    (journal.run (.create other level)).1.channel? name = some (.reopened level) := by
  rw [run, channel?_put, if_pos h]

/-! ## Whole histories -/

/-- The main channel stays the one it was from the start. -/
theorem main_after (history : List Command) : (start.after history).main = some usualName := by
  induction history using List.reverseRecOn with
  | nil => rfl
  | append_singleton history command ih =>
      rw [after_concat]
      exact main_run ih command

/-- A channel that was ever opened has one handler, and both are at the level of the latest
command. -/
theorem channel?_after (history : List Command) {name : String} (h : Opened history name) :
    (start.after history).channel? name = some (.reopened (levelAfter history name)) := by
  -- on the latest command: it finds the channel in this state or opens it
  induction history using List.reverseRecOn with
  | nil =>
      rcases h with hmain | ⟨other, level, hmem, -⟩
      · rw [channel?, ← hmain]
        rfl
      · exact absurd hmem List.not_mem_nil
  | append_singleton history command ih =>
      rw [after_concat, levelAfter_concat]
      by_cases hbefore : Opened history name
      · exact channel?_run (main_after history) (ih hbefore) command
      · have hcreate : ∃ other level, command = .create other level ∧ key other = key name := by
          rcases h with hmain | ⟨other, level, hmem, hkey⟩
          · exact absurd (.inl hmain) hbefore
          · rcases List.mem_append.mp hmem with hmem | hmem
            · exact absurd (.inr ⟨other, level, hmem, hkey⟩) hbefore
            · exact ⟨other, level, (List.mem_singleton.mp hmem).symm, hkey⟩
        obtain ⟨other, level, rfl, hkey⟩ := hcreate
        rw [channel?_create _ level hkey, Command.level?, if_pos hkey]
        rfl

/-- Whatever has been asked of a journal, every channel that was ever opened has exactly one
handler, at the level of the channel, which is the level that the latest command gave; so a record
is written once, if it is as serious as that level, and otherwise not at all. Nothing else writes
anything, and everyone who asks for a channel gets the main one, whatever the name. -/
theorem every_channel_keeps_one_handler_in_step (history : List Command) :
    let journal := start.after history
    (∀ name, Opened history name → ∃ channel, journal.channel? name = some channel ∧
      channel.handlers = [channel.level] ∧ channel.level = levelAfter history name ∧
      ∀ level message, (journal.run (.write name level message)).2 =
        if channel.level.severity ≤ level.severity then recordText level.severity message ++ "\n"
        else "") ∧
    (∀ name, journal.obtain name = (journal, usualName)) ∧
    ∀ command, (∀ name level message, command ≠ .write name level message) →
      (journal.run command).2 = "" := by
  intro journal
  refine ⟨?_, obtain_eq (main_after history), ?_⟩
  · intro name hopened
    have hchannel : journal.channel? name = _ := channel?_after history hopened
    refine ⟨_, hchannel, rfl, rfl, ?_⟩
    intro level message
    rw [run, write, hchannel]
    exact Channel.write_reopened _ level message
  · intro command hcommand
    cases command with
    | write name level message => exact absurd rfl (hcommand name level message)
    | _ => rfl

/-- Opening a channel again leaves one handler to those who hold it from before. -/
theorem reopened_channel_is_moved_once :
    let history : List Command :=
      [.create "parts" .warning, .create "tabula" .error, .create "parts" .debug,
        .setLevel "parts" .error, .obtain "others", .configure true true]
    Opened history "parts" ∧ Opened history "tabula" ∧
    (start.after history).channel? "parts" = some ⟨.error, [.error]⟩ ∧
    ((start.after history).run (.write "parts" .warning "late")).2 = "" ∧
    ((start.after history).run (.write "tabula" .debug "early")).2 = "[DEBUG] early\n" ∧
    ((start.after history).run (.create "tabula" .info)).2 = "" := by
  intro history
  have hparts : Opened history "parts" :=
    .inr ⟨"parts", .warning, List.mem_cons_self .., rfl⟩
  have hmain : Opened history "tabula" := .inl rfl
  obtain ⟨hchannels, -, hsilent⟩ := every_channel_keeps_one_handler_in_step history
  obtain ⟨⟨level, handlers⟩, hchannel, hhandlers, hlevel, hwrite⟩ := hchannels "parts" hparts
  obtain rfl : level = .error := hlevel
  obtain rfl : handlers = [.error] := hhandlers
  obtain ⟨⟨level, handlers⟩, -, -, hlevel, hwrite'⟩ := hchannels "tabula" hmain
  obtain rfl : level = .debug := hlevel
  exact ⟨hparts, hmain, hchannel, hwrite .warning "late", hwrite' .debug "early",
    hsilent _ (by simp)⟩

end Journal

end Sentential
