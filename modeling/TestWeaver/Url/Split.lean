import TestWeaver.Url.Host

/-!
The parts of an absolute address. Control code points that line-wrapped addresses carry are removed first. An
authority is refused when its brackets do not match, when what they hold is no address, or when one of its code
points is a compatibility form of a separator.
-/
namespace TestWeaver.Url

structure Parts where
  authority : Text
  path : Text
  query : Text
  deriving DecidableEq, Repr

def isWrap : CodePoint → Bool
  | .char '\t' | .char '\n' | .char '\r' => true
  | _ => false

def endsAuthority : CodePoint → Bool
  | .char '/' | .char '?' | .char '#' => true
  | _ => false

/-- Code points whose compatibility form holds one of `/ ? # @ :`. -/
def separatorForms : List Nat := [0x2047, 0x2048, 0x2049, 0x2100, 0x2101, 0x2105, 0x2106, 0x2A74, 0xFE13, 0xFE16,
  0xFE55, 0xFE56, 0xFE5F, 0xFE6B, 0xFF03, 0xFF0F, 0xFF1A, 0xFF1F, 0xFF20]

def before (stop : CodePoint) (t : Text) : Text := t.takeWhile (· != stop)

def afterLast (stop : CodePoint) (t : Text) : Text := (t.reverse.takeWhile (· != stop)).reverse

def hostIn (hostAndPort : Text) : Except UrlError Text :=
  match hostAndPort.cut? "[" with
  | none => .ok (before (.char ':') hostAndPort)
  | some (_ :: _, _) => .error .brackets
  | some ([], bracketed) =>
    -- nothing but a port may stand behind the closing bracket
    match Text.cut? bracketed "]" with
    | some (host, .char ':' :: _) | some (host, []) => .ok host
    | some _ => .error .brackets
    | none => .ok bracketed

def checkAuthority (authority : Text) : Except UrlError Unit := do
  match authority.contains "[", authority.contains "]" with
  | true, true => checkBracketed (← hostIn (afterLast (.char '@') authority))
  | false, false => pure ()
  | _, _ => .error .brackets

def withoutParameters (path : Text) : Text :=
  let back := path.reverse
  let last := (back.takeWhile (· != .char '/')).reverse
  path.take (path.length - last.length) ++ before (.char ';') last

def split (afterScheme : Text) : Except UrlError Parts := do
  let t := afterScheme.filter fun p => !isWrap p
  let (authority, rest) := match Text.afterLead? t "//" with
    | some t => (t.takeWhile fun p => !endsAuthority p, t.dropWhile fun p => !endsAuthority p)
    | none => ([], t)
  checkAuthority authority
  let rest := before (.char '#') rest
  let query := (rest.dropWhile (· != .char '?')).drop 1
  if authority.any fun p => p.value ∈ separatorForms then throw (.compatibility authority)
  return { authority, path := withoutParameters (before (.char '?') rest), query }

end TestWeaver.Url
