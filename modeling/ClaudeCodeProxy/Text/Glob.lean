import Mathlib.Data.List.Basic

-- Shell patterns as `fnmatch.fnmatchcase` reads them.

namespace Text

inductive Piece
  | Star
  | AnyChar
  | Literal (c : Char)
  | OneOf (negated : Bool) (ranges : List (Char × Char))
  deriving DecidableEq

namespace Glob

inductive Member
  | One (c : Char)
  | Range (first last : Char)
  deriving DecidableEq

def Member.bounds : Member → Char × Char
  | .One c => (c, c)
  | .Range first last => (first, last)

-- What stands between brackets. A hyphen makes a range of its neighbours when it has
-- two that belong to no range yet; elsewhere it stands for itself.
def members : List Char → List Member
  | first :: '-' :: last :: rest => .Range first last :: members rest
  | first :: rest => .One first :: members rest
  | [] => []

-- What follows an opening bracket, cut at the bracket that closes it: a closing
-- bracket that comes first, or right after the `!`, is a member.
def splitClass (chars : List Char) : Option (List Char × List Char) :=
  let (bang, body) := match chars with
    | '!' :: rest => (['!'], rest)
    | rest => ([], rest)
  let (bracket, body) := match body with
    | ']' :: rest => ([']'], rest)
    | rest => ([], rest)
  match body.dropWhile (· ≠ ']') with
  | [] => none
  | _ :: after => some (bang ++ bracket ++ body.takeWhile (· ≠ ']'), after)

def negatedClass (kept : List Member) : Piece := .OneOf true (kept.map Member.bounds)

-- Empty ranges are dropped before the class is read, so that a `!` behind them comes first.
def readClass (chars : List Char) : Piece :=
  match (members chars).filter fun member => decide (member.bounds.1 ≤ member.bounds.2) with
  | .One '!' :: kept => negatedClass kept
  | .Range '!' last :: kept => negatedClass (.One '-' :: .One last :: kept)
  | kept => .OneOf false (kept.map Member.bounds)

def oneOf : List Char → Piece
  | '!' :: chars => negatedClass (members chars)
  | chars => readClass chars

-- The fuel is the length of the pattern, of which each step takes one character or more.
def pieces : Nat → List Char → List Piece
  | 0, _ => []
  | _ + 1, [] => []
  | fuel + 1, '*' :: rest => .Star :: pieces fuel rest
  | fuel + 1, '?' :: rest => .AnyChar :: pieces fuel rest
  | fuel + 1, '[' :: rest =>
      match splitClass rest with
      | some (members, after) => oneOf members :: pieces fuel after
      | none => .Literal '[' :: pieces fuel rest
  | fuel + 1, c :: rest => .Literal c :: pieces fuel rest

def accepts : List Piece → List Char → Bool
  | [], name => name.isEmpty
  | .Star :: rest, name => name.tails.any fun tail => accepts rest tail
  | .AnyChar :: rest, _ :: name => accepts rest name
  | .Literal c :: rest, c' :: name => c == c' && accepts rest name
  | .OneOf negated ranges :: rest, c :: name =>
      (negated != ranges.any fun range => decide (range.1 ≤ c ∧ c ≤ range.2)) && accepts rest name
  | _ :: _, [] => false

end Glob

def fnmatchcase (name pattern : String) : Bool :=
  Glob.accepts (Glob.pieces pattern.toList.length pattern.toList) name.toList

example : fnmatchcase "claude-opus-4" "claude-[!a-n]*-?" = true := by decide

example : fnmatchcase "claude" "[b-a!d]laude" = true := by decide

end Text
