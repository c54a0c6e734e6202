import TestWeaver.Generation.Result

/-!
Artifacts from a recording: its calls become actions, which get their names, and the three documents are built from
them in one context.
-/
namespace TestWeaver.Generation

structure RecordingInput where
  recording : Value
  featureName : Value
  storyKey : Value
  pageUrl : Value := .null
  outputDir : Value := .text "output"
  deriving Repr

def recordingText (v : Value) : Except Failure Text := (v.orElse (.text [])).textFor "splitlines"

def RecordingInput.needed (i : RecordingInput) : Except Failure (Text × Text) := do
  match i.recording with
  | .null => throw (.missingInput "recording")
  | _ => return (← need i.featureName "feature name", (← need i.storyKey "story key").trim)

def fromRecording (s : Settings) (i : RecordingInput) : Work Result := do
  let (featureName, storyKey) ← Work.ofExcept i.needed
  let recording ← Work.ofExcept (recordingText i.recording)
  let transcript := Recording.Transcript.ofText Recording.defaultShapes recording
  Work.log (Record.ofTranscript transcript)
  let actions := transcript.actions.map Action.resolve
  let className := Naming.className featureName
  let (page, c) ← buildPage s actions className (.text storyKey) i.pageUrl
  let (specification, c') := Feature.Document.ofActions c actions className (.text storyKey)
  logNotes c' c.notes.length
  let layout ← Work.ofExcept (s.layout className)
  let (steps, c'') := Steps.Module.ofActions c' actions layout
  logNotes c'' c'.notes.length
  finish s c'' i.outputDir { page, specification, steps } .recording (.text storyKey) transcript.warnings

end TestWeaver.Generation
