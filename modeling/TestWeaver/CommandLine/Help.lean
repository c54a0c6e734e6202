import TestWeaver.Workflow.Basic

/-!
The usage and help texts of the command line, for itself and for each of its commands.
-/
namespace TestWeaver.CommandLine

def programName : Text := "workflows.py"

abbrev Place := Option Workflow

namespace Place

def title : Place → Text
  | none => programName
  | some w => programName ++ " " ++ w.name

def usageLines : Place → List Text
  | none => [
    "usage: workflows.py [-h] [--project PROJECT_ID]",
    "                    \x7brecord,ticket,validate,list-projects\x7d ..."]
  | some .record => [
    "usage: workflows.py record [-h] --recording RECORDING --feature-name",
    "                           FEATURE_NAME --story STORY [--url URL]",
    "                           [--output-dir OUTPUT_DIR]"]
  | some .ticket => [
    "usage: workflows.py ticket [-h] --key KEY [--url URL]",
    "                           [--output-dir OUTPUT_DIR]"]
  | some .validate => ["usage: workflows.py validate [-h] --name TEST_NAME [--output-dir OUTPUT_DIR]"]
  | some .listProjects => ["usage: workflows.py list-projects [-h]"]

def usage (place : Place) : Text := Text.unlines place.usageLines

def outputDirLines : List Text := [
  "  --output-dir OUTPUT_DIR",
  "                        Output directory"]

def helpLine : Text := "  -h, --help            show this help message and exit"

def programLines : List Text := [
  "",
  "Test Artifact Workflows - Multi-Project Support",
  "",
  "positional arguments:",
  "  \x7brecord,ticket,validate,list-projects\x7d",
  "                        Workflow to execute",
  "    record              Generate from a recording",
  "    ticket              Generate from a ticket",
  "    validate            Validate generated structure",
  "    list-projects       List all projects",
  "",
  "options:",
  helpLine,
  "  --project PROJECT_ID, -p PROJECT_ID",
  "                        Project configuration to use",
  ""]

def exampleLines : List Text := [
  "Workflows:",
  "  record          Generate artifacts from a recorded browser session",
  "  ticket          Generate artifacts from a ticket in the project's story source",
  "  validate        Check that the page, feature and steps files of a test exist",
  "  list-projects   List all available project configurations",
  "",
  "Examples:",
  "  # Recording from a file (or '-' for stdin)",
  "  python3 workflows.py record --recording login.txt --feature-name \"Login\" --story PORTAL-101",
  "",
  "  # Recording with an explicit page URL and output directory",
  "  python3 workflows.py record --recording login.txt --feature-name \"Login\" --story PORTAL-101 \\",
  "      --url https://portal.example.com/login --output-dir generated",
  "",
  "  # Ticket from Jira or local story files, depending on the project",
  "  python3 workflows.py ticket --key PORTAL-101 --project example-portal",
  "",
  "  # Validate",
  "  python3 workflows.py validate --name \"Login\"",
  "",
  "  # List projects",
  "  python3 workflows.py list-projects",
  "        "]

def optionLines : Workflow → List Text
  | .record => [
    helpLine,
    "  --recording RECORDING",
    "                        Recording file, or '-' for stdin",
    "  --feature-name FEATURE_NAME",
    "                        Feature name (class name source)",
    "  --story STORY         Story key the artifacts are tagged with",
    "  --url URL             Page URL (defaults to the first recorded navigation)"] ++ outputDirLines
  | .ticket => [
    helpLine,
    "  --key KEY             Ticket key (e.g. PROJ-123)",
    "  --url URL             Page URL for the navigation entry point"] ++ outputDirLines
  | .validate => [helpLine, "  --name TEST_NAME      Feature or class name"] ++ outputDirLines
  | .listProjects => ["  -h, --help  show this help message and exit"]

def help (place : Place) : Text :=
  Text.unlines (place.usageLines ++ match place with
    | none => programLines ++ exampleLines
    | some w => ([] : Text) :: "options:" :: optionLines w)

end Place

end TestWeaver.CommandLine
