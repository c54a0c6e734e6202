import TestWeaver.Text.Blank
import TestWeaver.Url.Split
import TestWeaver.Value.Access

/-!
The path of a page under the base address of the application. A recorded address that starts with the base
address loses it; any other web address keeps its path and query; anything else is kept as it is.
-/
namespace TestWeaver.Page

def schemes : List Text := ["http:", "https:"]

def baseOf (base : Text) : Text := Text.dropTail (· == .char '/') base.trim

def ownPath (url : Text) : Except Url.UrlError Text := do
  let parts ← Url.split ((schemes.findSome? fun s => url.afterLead? s).getD url)
  return if parts.query.isEmpty then parts.path else parts.path ++ "?" ++ parts.query

def isWebAddress (url : Text) : Bool := url.startsWith "http://" || url.startsWith "https://"

def pathOf (url base : Text) : Except Url.UrlError Text :=
  let url := url.trim
  if url.startsWith "/" then .ok url
  else if !isWebAddress url then .ok url
  else if !base.isBlank && url.startsWith (baseOf base) then .ok (url.drop (baseOf base).length)
  else ownPath url

def baseText (base : Value) : Except Failure Text :=
  match base with
  | .text t => .ok t
  | .bytes b => if b.isBlank then .ok [] else .error (.wrongType "a bytes-like object is required, not 'str'")
  | v => if v.isGiven then .error (.lacks v.kindName "strip") else .ok []

def pathFor (address base : Value) : Except Failure Text := do
  if !address.isGiven then return []
  let url ← address.textFor "strip"
  let base ← if isWebAddress url.trim then baseText base else pure []
  (pathOf url base).mapError fun e => .invalid e.message

end TestWeaver.Page
