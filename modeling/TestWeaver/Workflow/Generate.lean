import TestWeaver.Generation.FromRecording
import TestWeaver.Generation.FromTicket
import TestWeaver.Project.Stories
import TestWeaver.Workflow.Basic

/-!
The two workflows that generate artifacts. A failure that is foreseen ends in an outcome; the others are passed on.
-/
namespace TestWeaver

def Project.settings (p : Project) (working : List Text) : Generation.Settings :=
  { baseUrl := p.application.baseUrl, pagesDir := p.output.pages, featuresDir := p.output.features
    stepsDir := p.output.steps, working }

def Project.outputDir (p : Project) (i : Inputs) : Value := i.outputDir.orElse p.output.directory

def Project.announced (p : Project) : Except LongNumeral Text :=
  return "Project: " ++ (← p.id.written) ++ " (" ++ (← p.application.name.written) ++ ")"

namespace Workflow

def sayAll (lines : List Text) : Work Unit := lines.forM Work.say

def sayEach (lines : List (Except LongNumeral Text)) : Work Unit :=
  lines.forM fun line => do Work.say (← Work.ofExcept (line.mapError .longNumeral))

def summary (r : Generation.Result) : List Text :=
  [([] : Text), "Generation complete", "  Class: " ++ r.className, "  Constants: " ++ Text.ofNat r.constants.length,
    "  Methods: " ++ Text.ofNat r.methods.length, "  Step handlers: " ++ Text.ofNat r.steps.length,
    "  Skipped duplicates: " ++ Text.ofNat r.skippedDuplicates]
  ++ r.files.map (fun (artifact, path) => ("  " : Text) ++ artifact.name ++ ": " ++ path)
  ++ r.warnings.map (fun warning => ("  Warning: " : Text) ++ warning)

def generated (r : Generation.Result) : Outcome :=
  let message := "Generated " ++ Text.ofNat r.files.length ++ " artifacts for " ++ r.className
  if r.warnings.isEmpty then { status := .success, message, findings := .generation r }
  else
    { status := .incomplete, message := message ++ " with " ++ Text.ofNat r.warnings.length ++ " warning(s)"
      findings := .generation r }

def conclude (work : Work Generation.Result) : Work Outcome := do
  match ← Work.attempt work with
  | .ok r =>
    sayAll ([([] : Text), "[3/3] Artifacts written"] ++ summary r)
    return generated r
  | .error f =>
    match f.stage? with
    | some stage => return .failure ("[" ++ stage ++ "] " ++ f.message)
    | none => Work.fail f

def readRecording (source : Value) : Work Text := do
  let source ← Work.ofExcept (source.path)
  if source = "-" then return (← Work.readInput).withLineFeeds
  let content ← Work.ofExcept (((← Work.files).read source).mapError .ofPath)
  let t ← Work.ofExcept ((Utf8.decode content).mapError .undecodable)
  return t.withLineFeeds

def runRecord (p : Project) (i : Inputs) : Work Outcome := do
  sayEach [.ok "", .ok "Workflow: Generate From Recording", p.announced]
  sayAll ["Feature: " ++ i.featureName.shown, "Story: " ++ i.story.shown, "", "[1/3] Reading recording..."]
  match ← Work.attempt (readRecording i.recording) with
  | .error (.file e) => return .failure ("Failed to read recording " ++ i.recording.shown ++ ": " ++ e.message)
  | .error f => Work.fail f
  | .ok recording =>
    sayAll ["  Lines: " ++ Text.ofNat recording.lines.length, "", "[2/3] Generating artifacts..."]
    conclude (Generation.fromRecording (p.settings (← Work.files).working)
      { recording := .text recording, featureName := i.featureName, storyKey := i.story, pageUrl := i.url
        outputDir := p.outputDir i })

def runTicket (p : Project) (i : Inputs) : Work Outcome := do
  let platform := p.platform.name.upper
  sayEach [.ok "", .ok "Workflow: Generate From Ticket", p.announced]
  sayAll ["Source Platform: " ++ platform, "Ticket: " ++ i.key.shown, "", "[1/3] Connecting to " ++ platform ++ "..."]
  match p.stories with
  | .error f =>
    if f.isRefusedValue then return .failure ("Invalid project configuration: " ++ f.message) else Work.fail f
  | .ok source =>
    sayAll ["", "[2/3] Fetching story and generating artifacts..."]
    conclude (Generation.fromTicket (p.settings (← Work.files).working) source.ticket
      { key := i.key, outputDir := p.outputDir i, pageUrl := i.url.orElse (.text []) })

end Workflow

end TestWeaver
