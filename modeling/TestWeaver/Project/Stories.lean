import TestWeaver.Project.Basic
import TestWeaver.Story.Library
import TestWeaver.Tracker.Source

/-!
Where the stories of a project come from: its tracker, or its directory of story files.
-/
namespace TestWeaver

inductive StorySource where
  | tracker (s : Tracker.Source)
  | files (l : Library)
  deriving Repr

namespace StorySource

def platform : StorySource → Platform
  | tracker _ => .tracker
  | files _ => .files

def ticket (source : StorySource) (key : Text) : Work (Option Ticket) :=
  match source with
  | files l => l.ticket key
  | tracker s => do
    let (result, _) ← s.ask key
    Work.ofExcept result

end StorySource

namespace Project

def trackerWithoutAccount : Failure :=
  .invalid ("Jira configuration required when source_platform='jira'. "
    ++ "Add 'jira' section to your project config.")

def storiesAt (p : Project) : Platform → Except Failure StorySource
  | .tracker => do
    match p.account with
    | none => throw trackerWithoutAccount
    | some a => return .tracker (← Tracker.Source.ofAccount a)
  | .files => return .files (← Library.ofValue p.storiesDir)

def stories (p : Project) : Except Failure StorySource := p.storiesAt p.platform

def storiesOn (p : Project) (platform : Value) : Except Failure StorySource := do
  let name := (← platform.textFor "lower").lower
  match Platform.ofName? name with
  | some known => p.storiesAt known
  | none => throw (Platform.unsupported name (Text.join ", " (Platform.all.map fun p => p.name.quoted)))

end Project

end TestWeaver
