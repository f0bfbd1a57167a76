/-
# Sentential.Journal.Basic -- channels, their levels, and what reaches the output

A journal has channels by name. A channel has a level of its own and handlers with theirs; a
record is written once by every handler whose level it passes, provided that it passes the level
of the channel. A name has one channel, however often it is opened: opening it again sets its
level and leaves it with one handler. All computations of this library write to the main channel,
the first that anyone asked for.
-/
import Sentential.Journal.Script

namespace Sentential

/-- Where records of one name go. -/
structure Channel where
  level : Level
  handlers : List Level
  deriving DecidableEq, Repr

namespace Channel

/-- The channel with one handler, both at `level`, whatever it was before. -/
def reopened (level : Level) : Channel := ⟨level, [level]⟩

/-- The channel and every handler at `level`. -/
def adjusted (channel : Channel) (level : Level) : Channel :=
  ⟨level, channel.handlers.map fun _ => level⟩

/-- What one record makes the channel write: a line from each handler it reaches. -/
def write (channel : Channel) (level : Level) (message : String) : String :=
  if level.passes channel.level then
    .join ((channel.handlers.filter level.passes).map fun _ =>
      recordText level.severity message ++ "\n")
  else ""

/-- What one entry of a script makes the channel write; printed text ends with its own line. -/
def writeEntry (channel : Channel) : Entry → String
  | .record level message => channel.write level message
  | .printed text => text ++ "\n"

/-- What a script writes through the channel. -/
def transcript (channel : Channel) (entries : List Entry) : String :=
  .join (entries.map channel.writeEntry)

end Channel

/-- Channels by name, the most recently changed first, and the name of the main one, which is the
first that was asked for. -/
structure Journal where
  channels : List (String × Channel)
  main : Option String
  deriving Repr

namespace Journal

/-- The name that computations ask for. -/
def usualName : String := "tabula"

/-- The name a channel is kept under: the empty name is that of the root. -/
def key (name : String) : String := if name = "" then "root" else name

/-- The channel of a name. -/
def channel? (journal : Journal) (name : String) : Option Channel :=
  journal.channels.lookup (key name)

/-- The journal with another channel under a name. -/
def put (journal : Journal) (name : String) (channel : Channel) : Journal :=
  { journal with
    channels := (key name, channel) :: journal.channels.filter (·.1 != key name) }

/-- Asks for a channel by name. The first to ask gets a new channel of that name, at information,
which becomes the main one; everyone after gets the main one, whatever the name. -/
def obtain (journal : Journal) (name : String) : Journal × String :=
  match journal.main with
  | some main => (journal, main)
  | none => ({ journal.put name (.reopened .info) with main := some name }, name)

/-- No channels. -/
def empty : Journal := ⟨[], none⟩

/-- The main channel under its usual name, and no other. -/
def start : Journal := (empty.obtain usualName).1

/-! ## Commands -/

/-- What can be asked of a journal. -/
inductive Command where
  /-- Makes a channel of that name, or makes the one there is new. -/
  | create (name : String) (level : Level)
  /-- Sets the level of a channel and its handlers. -/
  | setLevel (name : String) (level : Level)
  /-- Sets the level of the main channel and its handlers. -/
  | setMainLevel (level : Level)
  /-- Chooses the level of the main channel: debugging before verbosity, warnings otherwise. -/
  | configure (verbose debug : Bool)
  /-- Asks for a channel by name. -/
  | obtain (name : String)
  /-- Writes a record to a channel. -/
  | write (name : String) (level : Level) (message : String)
  deriving Repr

/-- The level that the two verbosity flags choose. -/
def levelFor (verbose debug : Bool) : Level :=
  if debug then .debug else if verbose then .info else .warning

/-- The journal with the channel of a name at another level; a name without a channel is left
without one. -/
def setLevel (journal : Journal) (name : String) (level : Level) : Journal :=
  match journal.channel? name with
  | some channel => journal.put name (channel.adjusted level)
  | none => journal

/-- The journal with its main channel at another level. -/
def setMainLevel (journal : Journal) (level : Level) : Journal :=
  let (journal, main) := journal.obtain usualName
  journal.setLevel main level

/-- What a record makes the channel of a name write; a name without a channel writes nothing. -/
def write (journal : Journal) (name : String) (level : Level) (message : String) : String :=
  match journal.channel? name with
  | some channel => channel.write level message
  | none => ""

/-- The journal after a command, and what the command writes. -/
def run (journal : Journal) : Command → Journal × String
  | .create name level => (journal.put name (.reopened level), "")
  | .setLevel name level => (journal.setLevel name level, "")
  | .setMainLevel level => (journal.setMainLevel level, "")
  | .configure verbose debug => (journal.setMainLevel (levelFor verbose debug), "")
  | .obtain name => ((journal.obtain name).1, "")
  | .write name level message => (journal, journal.write name level message)

/-- What a script writes through the main channel. -/
def transcript (journal : Journal) (entries : List Entry) : String :=
  let (journal, main) := journal.obtain usualName
  match journal.channel? main with
  | some channel => channel.transcript entries
  | none => ""

end Journal

end Sentential
