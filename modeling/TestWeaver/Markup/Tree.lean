import TestWeaver.Markup.Token

/-!
The tree of a marked-up text. An end tag closes the innermost element of its name with everything inside; without such
an element it means nothing. What is still open at the end closes there.
-/
namespace TestWeaver.Markup

inductive Node where
  | text (t : Text)
  | element (name : Text) (children : List Node)
  deriving Repr, Inhabited

def voidElements : List Text := [
  "area", "base", "br", "col", "embed", "hr", "img", "input", "keygen", "link", "menuitem", "meta", "param", "source",
  "track", "wbr", "basefont", "bgsound", "command", "frame", "image", "isindex", "nextid", "spacer"]

def silentElements : List Text := ["rt", "rp", "style", "script", "template"]

structure Frame where
  name : Text
  children : List Node

structure Build where
  /-- The open elements, innermost first. -/
  «open» : List Frame := []
  top : List Node := []
  running : Option Text := none
  /-- The void elements so far that no end tag has been seen for. -/
  unclosed : List Text := []

namespace Build

def add (b : Build) (n : Node) : Build :=
  match b.open with
  | [] => { b with top := n :: b.top }
  | f :: rest => { b with «open» := { f with children := n :: f.children } :: rest }

def isSilent (b : Build) : Bool := b.open.any fun f => silentElements.contains f.name

def settle (b : Build) : Build :=
  match b.running with
  | none => b
  | some t =>
    let b := { b with running := none }
    if b.isSilent then b else b.add (.text t)

def closeOne (b : Build) : Build :=
  match b.open with
  | [] => b
  | f :: rest => { b with «open» := rest }.add (.element f.name f.children.reverse)

def closeMany (b : Build) : Nat → Build
  | 0 => b
  | n + 1 => b.closeOne.closeMany n

def closeElement (b : Build) (name : Text) : Build :=
  let b := b.settle
  match b.open.findIdx? fun f => f.name = name with
  | some n => b.closeMany (n + 1)
  | none => b

def start (b : Build) (name : Text) : Build :=
  let b := b.settle
  { b with «open» := ⟨name, []⟩ :: b.open }

def endTag (b : Build) (name : Text) : Build :=
  if b.unclosed.contains name then { b with unclosed := b.unclosed.erase name } else b.closeElement name

def token (b : Build) : Token → Build
  | .text t => { b with running := some (b.running.getD [] ++ t) }
  | .start name =>
    if voidElements.contains name then
      let b := (b.start name).closeElement name
      { b with unclosed := name :: b.unclosed }
    else b.start name
  | .empty name => (b.start name).endTag name
  | .close name => b.endTag name
  | .aside => b.settle
  | .verbatim t => b.settle.add (.text t)

def finish (b : Build) : List Node :=
  let b := b.settle
  (b.closeMany b.open.length).top.reverse

end Build

def nodes (tokens : List Token) : List Node := (tokens.foldl Build.token {}).finish

end TestWeaver.Markup
