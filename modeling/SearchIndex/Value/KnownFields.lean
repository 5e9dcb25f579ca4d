import SearchIndex.Value.Reader

/-! Reading known fields of a record straight from its text. Values of other fields are passed over:
only their form has to be right, so a number of any size, a string with half of a pair of code units
and nesting of any depth are no faults there. A known field may stand once. -/
namespace SearchIndex.Reader

/-- What follows the closing quote of a string. -/
def passString : List Char → Option (List Char)
  | '"' :: rest => some rest
  | '\\' :: 'u' :: a :: b :: c :: d :: rest =>
    if (hexUnit? a b c d).isSome then passString rest else none
  | '\\' :: c :: rest => if (escaped? c).isSome then passString rest else none
  | c :: rest => if c.toNat < 32 then none else passString rest
  | [] => none

mutual

/-- What follows a value. -/
def passValue : Nat → List Char → Option (List Char)
  | 0, _ => none
  | fuel + 1, text =>
    match skipBlanks text with
    | 'n' :: 'u' :: 'l' :: 'l' :: rest => some rest
    | 't' :: 'r' :: 'u' :: 'e' :: rest => some rest
    | 'f' :: 'a' :: 'l' :: 's' :: 'e' :: rest => some rest
    | '"' :: rest => passString rest
    | '[' :: rest =>
      match skipBlanks rest with
      | ']' :: rest => some rest
      | _ => passItems fuel rest
    | '{' :: rest =>
      match skipBlanks rest with
      | '}' :: rest => some rest
      | _ => passEntries fuel rest
    | text => (Numeral.read? text).map Prod.snd

/-- What follows the items of a list, at least one, and its closing bracket. -/
def passItems : Nat → List Char → Option (List Char)
  | 0, _ => none
  | fuel + 1, text => do
    match skipBlanks (← passValue fuel text) with
    | ',' :: rest => passItems fuel rest
    | ']' :: rest => some rest
    | _ => none

/-- What follows the entries of a record, at least one, and its closing bracket. -/
def passEntries : Nat → List Char → Option (List Char)
  | 0, _ => none
  | fuel + 1, text =>
    match skipBlanks text with
    | '"' :: rest => do
      match skipBlanks (← passString rest) with
      | ':' :: rest =>
        match skipBlanks (← passValue fuel rest) with
        | ',' :: rest => passEntries fuel rest
        | '}' :: rest => some rest
        | _ => none
      | _ => none
    | _ => none

end

/-- The known fields of a record, at least one entry of which is left, after the fields `read`. -/
def knownEntries? (names : List String) : Nat → List Char → Fields → Option (Fields × List Char)
  | 0, _, _ => none
  | fuel + 1, text, read =>
    match skipBlanks text with
    | '"' :: rest => do
      let (key, rest) ← stringRest rest []
      match skipBlanks rest with
      | ':' :: rest => do
        let (read, rest) ←
          if !names.contains key then (passValue (fuel + 1) rest).map fun rest => (read, rest)
          else if (Fields.get? read key).isSome then none
          else (value? (fuel + 1) 0 rest).map fun (value, rest) =>
            (Fields.insert read key value, rest)
        match skipBlanks rest with
        | ',' :: rest => knownEntries? names fuel rest read
        | '}' :: rest => some (read, rest)
        | _ => none
      | _ => none
    | _ => none

end SearchIndex.Reader

namespace SearchIndex.Record

/-- A record from its text, blanks around it allowed, with its known fields, which hold neither
lists nor records. Written as a list it has no other fields. -/
def ofText? (names : List String) (text : String) : Option Value :=
  let chars := text.toList
  match Reader.skipBlanks chars with
  | '{' :: rest =>
    let read := match Reader.skipBlanks rest with
      | '}' :: rest => some ([], rest)
      | _ => Reader.knownEntries? names (chars.length + 1) rest []
    match read with
    | some (entries, rest) =>
      if (Reader.skipBlanks rest).isEmpty then some (.object entries) else none
    | none => none
  | _ => Value.read? 1 text

end SearchIndex.Record
