import RuleOrder.Store.Lexer

namespace RuleOrder.Store

def quotedName (n : String) : String :=
  "\"" ++ String.join (n.toList.map fun c => if c = '"' then "\"\"" else String.singleton c) ++ "\""

def Token.spells (t : Token) (n : String) : Bool :=
  match t.tok with
  | .word w | .quoted w => w.toLower = n.toLower
  | _ => false

def Token.isSymbol (t : Token) (p : String) : Bool := t.tok == .punct p

def Token.isWord (t : Token) (w : String) : Bool :=
  match t.tok with
  | .word x => x.toUpper = w
  | _ => false

def spliceText (text : String) (edits : List (Nat × Nat × String)) : String :=
  let bytes := Utf8.encode text
  let (out, last) := edits.foldl (fun (acc : String × Nat) (start, stop, s) =>
    (acc.1 ++ Utf8.lossy ((bytes.take start).drop acc.2) ++ s, stop)) ("", 0)
  out ++ Utf8.lossy (bytes.drop last)

def columnsEnd (text : String) : Option Nat :=
  let rec go : List Token → Nat → Option Nat
    | [], _ => none
    | t :: rest, depth =>
      if t.isSymbol "(" then go rest (depth + 1)
      else if t.isSymbol ")" then
        if depth = 0 then some t.offset else go rest (depth - 1)
      else if t.isSymbol "," && depth = 0 &&
          (rest.head?.map fun n => ["CONSTRAINT", "PRIMARY", "UNIQUE", "CHECK", "FOREIGN"].any n.isWord).getD false
        then some t.offset
      else go rest depth
  match (tokenize text).dropWhile (fun t => !t.isSymbol "(") with
  | _ :: rest => go rest 0
  | [] => none

def withColumnAdded (text column : String) : String :=
  match columnsEnd text with
  | some at_ => spliceText text [(at_, at_, ", " ++ column)]
  | none => text

def withTableName (text new : String) : String :=
  match tokenize text with
  | _ :: _ :: name :: _ => spliceText text [(name.offset, name.stop, quotedName new)]
  | _ => text

def columnMentions (text column : String) : List Token :=
  let rec go : Nat → List Token → List Token
    | 0, _ => []
    | _, [] => []
    | fuel + 1, t :: rest =>
      if t.isWord "REFERENCES" then
        match rest with
        | _ :: after =>
          match after with
          | p :: inner =>
            if p.isSymbol "(" then go fuel ((inner.dropWhile fun x => !x.isSymbol ")").drop 1)
            else go fuel after
          | [] => []
        | [] => []
      else if t.spells column then t :: go fuel rest
      else go fuel rest
  let toks := tokenize text
  go (toks.length + 1) (toks.drop 3)

def withColumnRenamed (text old new : String) (newQuoted : Bool) : String :=
  spliceText text ((columnMentions text old).map fun t =>
    let quoted := match t.tok with
      | .quoted _ => true
      | _ => false
    (t.offset, t.stop, if quoted || newQuoted then quotedName new else new))

end RuleOrder.Store
