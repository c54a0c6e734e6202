import TestWeaver.Value.Access

/-!
Accounts at a tracker: where it is, who asks, and what proves it.
-/
namespace TestWeaver.Tracker

structure Account where
  baseUrl : Value
  email : Value
  token : Value
  projectKey : Value := .text []
  criteriaField : Value := .null
  isCloud : Value := .bool true
  deriving Repr

namespace Account

def afterProtocol? (t : Text) : Option Text :=
  (t.afterLead? "http").bind fun rest => ((rest.afterLead? "s").getD rest).afterLead? "://"

def organizationIn (t : Text) : Text :=
  (Text.search (fun _ t => ((afterProtocol? t).map fun rest => rest.takeWhile (· != .char '.')).filter
    fun name => !name.isEmpty) none t).getD []

def organization (a : Account) : Except Failure Text := a.baseUrl.matched.map organizationIn

end Account

end TestWeaver.Tracker
