import TestWeaver.Requirement.Basic
import TestWeaver.Text.Word
import TestWeaver.Text.Case

/-!
Page elements and verification intents that a text suggests. Keywords are looked for in small letters, some of them
as whole words only.
-/
namespace TestWeaver.Requirement

inductive Trigger where
  | part (t : Text)
  | word (t : Text)
  deriving DecidableEq, Repr

def Trigger.fires (text : Text) : Trigger → Bool
  | .part t => text.contains t
  | .word t => text.hasWord t

def parts (ts : List Text) : List Trigger := ts.map .part

def catalogue : List (List Trigger × Element) := [
  (parts ["username", "user name", "userid", "user id"], ⟨"Username Field", .type, "Enter username"⟩),
  (parts ["password", "pwd"], ⟨"Password Field", .type, "Enter password"⟩),
  (parts ["email", "e-mail"], ⟨"Email Field", .type, "Enter email address"⟩),
  (parts ["first name", "firstname"], ⟨"First Name Field", .type, "Enter first name"⟩),
  (parts ["last name", "lastname"], ⟨"Last Name Field", .type, "Enter last name"⟩),
  (parts ["phone", "telephone", "mobile"], ⟨"Phone Field", .type, "Enter phone number"⟩),
  (parts ["address"], ⟨"Address Field", .type, "Enter address"⟩),
  (parts ["search"], ⟨"Search Field", .type, "Enter search query"⟩),
  (parts ["login button", "log in button", "sign in", "signin"], ⟨"Login Button", .click, "Click login button"⟩),
  (parts ["submit button", "submit form"], ⟨"Submit Button", .click, "Submit form"⟩),
  ([.part "save button", .word "save"], ⟨"Save Button", .click, "Save changes"⟩),
  ([.part "cancel button", .word "cancel"], ⟨"Cancel Button", .click, "Cancel action"⟩),
  ([.part "delete button", .word "remove"], ⟨"Delete Button", .click, "Delete item"⟩),
  (parts ["register button", "signup", "sign up"], ⟨"Register Button", .click, "Register account"⟩),
  (parts ["checkbox", "check box", "remember me"], ⟨"Checkbox", .check, "Toggle checkbox"⟩),
  ([.part "dropdown", .part "drop down", .word "select", .part "combo"], ⟨"Dropdown", .select, "Select from dropdown"⟩)]

def fallbackElements : List Element := [
  ⟨"Main Action Button", .click, "Primary action button"⟩,
  ⟨"Input Field", .type, "Primary input field"⟩]

def detect (text : Text) : List Element :=
  let lower := text.lower
  let found := (catalogue.filter fun (triggers, _) => triggers.any (·.fires lower)).map (·.2)
  if found.isEmpty then fallbackElements else found

def uiWords : List Text := ["ui", "user interface", "layout", "design", "button", "field", "form"]

def performanceTriggers : List Trigger :=
  parts ["performance", "speed"] ++ [.word "fast", .word "slow"] ++ parts ["timeout", "load time"]

def mentions (words : List String) (t : Option Text) : Bool :=
  words.any fun w => Text.containsCaselessly w (t.getD [])

def isFeature (issueType : Option Text) : Bool := mentions ["story", "feature"] issueType

def isBug (issueType : Option Text) : Bool := mentions ["bug", "defect"] issueType

def verificationOf (issueType priority : Option Text) (text : Text) : Verification :=
  let lower := text.lower
  let severe := mentions ["critical", "blocker"] priority
  let urgent := mentions ["high"] priority || severe
  let performance := urgent || performanceTriggers.any (·.fires lower)
  { ui := uiWords.any lower.hasWord || isFeature issueType
    performance
    thresholdMs := if performance && severe then 2000 else 3000
    logging := isBug issueType || urgent }

end TestWeaver.Requirement
