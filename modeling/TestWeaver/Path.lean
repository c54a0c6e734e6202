import TestWeaver.Text.Basic

/-!
Paths of files, with slashes between segments. A path that does not start with a slash starts from a working
directory; a normal path has neither empty segments nor dots, and steps up only where it must.
-/
namespace TestWeaver.Path

def slash : CodePoint := .char '/'

def isAbsolute (path : Text) : Bool := path.startsWith "/"

def join (base path : Text) : Text :=
  if isAbsolute path then path
  else if base.isEmpty || base.endsWith "/" then base ++ path
  else base ++ "/" ++ path

def segments (path : Text) : List Text := (Text.splitOn path slash).filter fun s => !s.isEmpty && s != "."

def step (place : List Text) (segment : Text) : List Text := if segment = ".." then place.drop 1 else segment :: place

def resolve (working : List Text) (path : Text) : List Text :=
  ((segments path).foldl step (if isAbsolute path then [] else working.reverse)).reverse

def commonLength : List Text → List Text → Nat
  | a :: s, b :: t => if a = b then commonLength s t + 1 else 0
  | _, _ => 0

def between (start target : List Text) : List Text :=
  let shared := commonLength start target
  List.replicate (start.length - shared) ([.char '.', .char '.'] : Text) ++ target.drop shared

def relative (working : List Text) (path start : Text) : Text :=
  match between (resolve working start) (resolve working path) with
  | [] => "."
  | parts => Text.join "/" parts

def parent (path : Text) : Text :=
  let head := (path.reverse.dropWhile (· != slash)).reverse
  if head.all (· == slash) then head else Text.dropTail (· == slash) head

def name (path : Text) : Text := (path.reverse.takeWhile (· != slash)).reverse

def settle (absolute : Bool) (settled : List Text) (segment : Text) : List Text :=
  if segment = ".." then
    match settled with
    | [] => if absolute then [] else [segment]
    | last :: rest => if last = ".." then segment :: last :: rest else rest
  else segment :: settled

def root (path : Text) : Text :=
  -- two slashes are more than one, and three are not
  if path.startsWith "//" && !path.startsWith "///" then "//" else if isAbsolute path then "/" else []

def normal (path : Text) : Text :=
  let settled := root path ++ Text.join "/" ((segments path).foldl (settle (isAbsolute path)) []).reverse
  if settled.isEmpty then "." else settled

def tidy (path : Text) : Text :=
  let tidied := root path ++ Text.join "/" (segments path)
  if tidied.isEmpty then "." else tidied

def above (path : Text) : Text := tidy (root path ++ Text.join "/" (segments path).dropLast)

def extension (path : Text) : Text :=
  let tail := ((name path).reverse.takeWhile (· != .char '.')).reverse
  if !tail.isEmpty && tail.length + 1 < (name path).length then .char '.' :: tail else []

end TestWeaver.Path
