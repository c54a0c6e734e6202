import TestWeaver.Number.Limit
import TestWeaver.Value.Basic

/-!
Values as texts. A shown value is the text itself when it is a text; inside other values, and in messages that
quote what they got, texts stand between quotation marks. Inside itself a value is only hinted at.
-/
namespace TestWeaver

def Text.padded (width n : Nat) : Text :=
  let digits := ofNat n
  List.replicate (width - digits.length) (.char '0') ++ digits

def Date.text (d : Date) : Text := Text.padded 4 d.year ++ "-" ++ Text.padded 2 d.month ++ "-" ++ Text.padded 2 d.day

def Moment.offsetText (offset : Int) : Text :=
  let n := offset.natAbs
  (if offset < 0 then ("-" : Text) else "+") ++ Text.padded 2 (n / 3600) ++ ":" ++ Text.padded 2 (n / 60 % 60)
    ++ (if n % 60 = 0 then ([] : Text) else ":" ++ Text.padded 2 (n % 60))

def Moment.text (m : Moment) : Text :=
  m.date.text ++ " " ++ Text.padded 2 m.hour ++ ":" ++ Text.padded 2 m.minute ++ ":" ++ Text.padded 2 m.second
    ++ (if m.microsecond = 0 then ([] : Text) else "." ++ Text.padded 6 m.microsecond)
    ++ (m.offset.map Moment.offsetText).getD []

def Date.fields (d : Date) : List Text := [Text.ofNat d.year, Text.ofNat d.month, Text.ofNat d.day]

def Date.quoted (d : Date) : Text := "datetime.date(" ++ Text.join ", " d.fields ++ ")"

def Moment.quotedSpan (seconds : Int) : Text :=
  let days := Int.fdiv seconds 86400
  let rest := Int.fmod seconds 86400
  "datetime.timedelta(" ++ Text.join ", " ((if days = 0 then [] else ["days=" ++ Text.ofInt days])
    ++ (if rest = 0 then [] else ["seconds=" ++ Text.ofInt rest])) ++ ")"

def Moment.quotedOffset (offset : Int) : Text :=
  if offset = 0 then "datetime.timezone.utc" else "datetime.timezone(" ++ Moment.quotedSpan offset ++ ")"

def Moment.quoted (m : Moment) : Text :=
  "datetime.datetime(" ++ Text.join ", " (m.date.fields ++ [Text.ofNat m.hour, Text.ofNat m.minute]
    ++ (if m.second = 0 ∧ m.microsecond = 0 then [] else [Text.ofNat m.second])
    ++ (if m.microsecond = 0 then [] else [Text.ofNat m.microsecond])
    ++ (m.offset.map fun o => "tzinfo=" ++ Moment.quotedOffset o).toList) ++ ")"

def Bytes.quoted (b : Bytes) : Text :=
  let chars : Text := b.map fun x => .char (Char.ofNat x.toNat)
  let quote := Text.quoteMark chars
  "b" ++ [quote] ++ chars.flatMap (fun p =>
    if p.value < 0x80 then CodePoint.quotedIn quote p else p.numericEscape) ++ [quote]

namespace Value

def hint : Value → Text
  | mapping _ => "\x7b...\x7d"
  | _ => "[...]"

mutual

def quotedIn (around : List (Nat × Text)) : Value → Text
  | null => "None"
  | bool b => if b then "True" else "False"
  | int n => Text.ofInt n
  | real x => x.text
  | text t => t.quoted
  | bytes b => b.quoted
  | date d => d.quoted
  | moment m => m.quoted
  | list items => "[" ++ Text.join ", " (quotedItems around items) ++ "]"
  | pair a b => "(" ++ quotedIn around a ++ ", " ++ quotedIn around b ++ ")"
  | mapping entries => "\x7b" ++ Text.join ", " (quotedEntries around entries) ++ "\x7d"
  | members [] => "set()"
  | members (m :: ms) => "\x7b" ++ Text.join ", " (quotedIn around m :: quotedItems around ms) ++ "\x7d"
  | shared label v =>
    match around.lookup label with
    | some hint => hint
    | none => quotedIn ((label, v.hint) :: around) v
  | again label => (around.lookup label).getD []

def quotedItems (around : List (Nat × Text)) : List Value → List Text
  | [] => []
  | v :: vs => quotedIn around v :: quotedItems around vs

def quotedEntries (around : List (Nat × Text)) : List (Value × Value) → List Text
  | [] => []
  | (k, v) :: rest => (quotedIn around k ++ ": " ++ quotedIn around v) :: quotedEntries around rest

end

def quoted (v : Value) : Text := quotedIn [] v

def shown (v : Value) : Text :=
  match v.bare with
  | text t => t
  | date d => d.text
  | moment m => m.text
  | _ => v.quoted

mutual

def isTooLong : Value → Bool
  | int n => LongNumeral.isNeededFor n
  | list items | members items => isAnyTooLong items
  | pair a b => isTooLong a || isTooLong b
  | mapping entries => hasTooLong entries
  | shared _ v => isTooLong v
  | _ => false

def isAnyTooLong : List Value → Bool
  | [] => false
  | v :: vs => isTooLong v || isAnyTooLong vs

def hasTooLong : List (Value × Value) → Bool
  | [] => false
  | (k, v) :: rest => isTooLong k || isTooLong v || hasTooLong rest

end

def written (v : Value) : Except LongNumeral Text := if v.isTooLong then .error .needed else .ok v.shown

end Value

end TestWeaver
