import TestWeaver.Json.Reader
import TestWeaver.Session
import TestWeaver.Text.Base64
import TestWeaver.Tracker.Account

/-!
A tracker's read-only interface: requests are authorised by an account, and each is one exchange. A response that is no
success, or holds no JSON value, is a failure.
-/
namespace TestWeaver.Tracker

structure Client where
  baseUrl : Text
  authorization : Text
  isCloud : Bool
  timeout : Value := .int 30
  deriving Repr

namespace Client

def authorizationOf (email token : Value) : Except Failure Text := do
  let email ← email.written.mapError .longNumeral
  match Utf8.encode (email ++ ":" ++ token.shown) with
  | .ok credentials => return "Basic " ++ Base64.encode credentials
  | .error e => throw (.unencodable e)

def addressOf (v : Value) : Except Failure Text :=
  match v with
  | .bytes _ => .error (.wrongType "a bytes-like object is required, not 'str'")
  | v => v.textFor "rstrip"

def ofAccount (a : Account) : Except Failure Client := do
  if !a.token.isGiven then throw (.invalid "API token is required")
  if !a.baseUrl.isGiven then throw (.invalid "Base URL is required")
  if !a.email.isGiven then throw (.invalid "Email is required")
  let baseUrl ← addressOf a.baseUrl
  let authorization ← authorizationOf a.email a.token
  return { baseUrl := Text.dropTail (· == .char '/') baseUrl, authorization, isCloud := a.isCloud.isGiven }

def headers (c : Client) : List (Text × Text) := [("Authorization", c.authorization), ("Accept", "application/json")]

def apiBase (c : Client) : Text := c.baseUrl ++ "/rest/api/" ++ (if c.isCloud then ("3" : Text) else "2")

def fault? (status : Int) : Option Text :=
  if 400 ≤ status ∧ status < 500 then some "Client" else if 500 ≤ status ∧ status < 600 then some "Server" else none

def failureOf (b : Breakdown) (message : Text) : Failure :=
  match b with
  | .connection => .request .connection message
  | .timeout => .request .timeout message
  | .status => .request .status message
  | .refused => .invalid message
  | .unexpected => .unexpected message

def valueOf (url : Text) : Response → Except Failure Value
  | .broken b message => .error (failureOf b message)
  | .answered status reason body =>
    match fault? status with
    | some whose =>
      .error (.request .status (Text.ofInt status ++ " " ++ whose ++ " Error: " ++ reason.getD "None" ++ " for url: " ++ url))
    | none =>
      match body with
      | .value v => .ok v
      | .text t => (Json.ofText t).mapError fun
        | .malformed => .request .undecodable "<json error>"
        | .number e => .longNumeral e

def get (c : Client) (endpoint : Text) (parameters : Value) : Work Value := fun session =>
  let url := c.apiBase ++ "/" ++ endpoint
  (valueOf url (session.tracker.answer endpoint),
    { session with exchanges := session.exchanges ++ [{ url, parameters, timeout := c.timeout }] })

def fields (c : Client) : Work Value := c.get "field" .null

def issue (c : Client) (key : Text) (fields expansions : List Text) : Work Value :=
  let chosen := [(("fields" : Text), fields), ("expand", expansions)].filter fun (_, names) => !names.isEmpty
  c.get ("issue/" ++ key) (if chosen.isEmpty then .null
    else .object (chosen.map fun (name, names) => (name, .text (Text.join "," names))))

end Client

end TestWeaver.Tracker
