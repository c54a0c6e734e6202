import TestWeaver.Files.Error
import TestWeaver.Context
import TestWeaver.Markup.Token
import TestWeaver.Text.Utf8

/-!
Why a run ends without a result. The first three are foreseen and end a generation in an orderly way; the others
come from values, files and answers that are not as they should be.
-/
namespace TestWeaver

inductive RequestProblem where
  | status
  | connection
  | timeout
  | undecodable
  deriving DecidableEq, Repr

inductive Failure where
  | missingInput (field : Text)
  | ticketFetch (key reason : Text)
  | artifactWrite (artifact : Artifact) (path reason : Text)
  | invalid (message : Text)
  | undecodable (e : Utf8.DecodeError)
  | unencodable (e : Utf8.EncodeError)
  | missingKey (key : Text)
  | wrongType (message : Text)
  | lacks (kind member : Text)
  | file (e : Files.FileError)
  | malformedYaml
  | malformedJson
  | request (problem : RequestProblem) (message : Text)
  | rejectedMarkup (r : Markup.Rejection)
  | longNumeral (e : LongNumeral)
  | endless
  | overflow (message : Text)
  | outOfRange (message : Text)
  | unexpected (message : Text)
  deriving DecidableEq, Repr

namespace Failure

def stage? : Failure → Option Text
  | missingInput _ => some "parse"
  | ticketFetch .. => some "ticket-fetch"
  | artifactWrite .. => some "write"
  | _ => none

def message : Failure → Text
  | missingInput field => "Missing required input: " ++ field
  | ticketFetch key reason =>
    "Could not fetch ticket " ++ key ++ (if reason.isEmpty then ([] : Text) else ": " ++ reason)
  | artifactWrite artifact path reason =>
    "Failed to write " ++ artifact.name ++ " artifact to " ++ path ++ ": " ++ reason
  | invalid message => message
  | undecodable e => e.message
  | unencodable e => e.message
  | missingKey key => key.quoted
  | wrongType message => message
  | lacks kind member => kind.quoted ++ " object has no attribute " ++ member.quoted
  | file e => e.message
  | malformedYaml => "<yaml error>"
  | malformedJson => "<json error>"
  | request _ message => message
  | rejectedMarkup r =>
    "The markup you provided was rejected by the parser. Trying a different parser or a different encoding may help."
      ++ "\n\nOriginal error(s) from parser:\n  AssertionError: " ++ r.message
  | longNumeral e => e.message
  | endless => "maximum recursion depth exceeded"
  | overflow message => message
  | outOfRange message => message
  | unexpected message => message

def ofMarkup : Markup.MarkupError → Failure
  | .rejected r => rejectedMarkup r
  | .number e => longNumeral e

def isRefusedValue : Failure → Bool
  | invalid _ | undecodable _ | unencodable _ | malformedJson | longNumeral _ => true
  | _ => false

end Failure

end TestWeaver
