/-!
Shell patterns: `*`, `?` and sets in brackets. Characters that were quoted stand for themselves.
-/

namespace ImageGateway.Shell

/-- A character of a word and whether it was quoted. -/
abbrev Marked := Char × Bool

inductive Glob where
  | char (c : Char)
  | any
  | star
  | set (negated : Bool) (ranges : List (Char × Char))
  deriving DecidableEq, Repr

namespace Glob

/-- The ranges of a set up to its bracket; a bracket right at the start belongs to the set. -/
def ranges : Nat → Bool → List (Char × Char) → List Marked → Option (List (Char × Char) × List Marked)
  | 0, _, _, _ => none
  | _ + 1, _, _, [] => none
  | fuel + 1, start, acc, (c, q) :: s =>
    if c = ']' && !q && !start then some (acc.reverse, s)
    else
      match s with
      | ('-', false) :: (d, qd) :: r =>
        if d = ']' && !qd then ranges fuel false ((c, c) :: acc) s
        else ranges fuel false ((c, d) :: acc) r
      | _ => ranges fuel false ((c, c) :: acc) s

/-- The pattern that a word spells; a bracket that is not closed stands for itself. -/
def parse : Nat → List Marked → List Glob
  | 0, _ => []
  | _ + 1, [] => []
  | fuel + 1, (c, true) :: s => char c :: parse fuel s
  | fuel + 1, (c, false) :: s =>
    if c = '*' then star :: parse fuel s
    else if c = '?' then any :: parse fuel s
    else if c = '[' then
      let (negated, r) := match s with
        | ('!', false) :: r => (true, r)
        | ('^', false) :: r => (true, r)
        | _ => (false, s)
      match ranges (r.length + 1) true [] r with
      | some (rs, r) => set negated rs :: parse fuel r
      | none => char c :: parse fuel s
    else char c :: parse fuel s

def ofMarked (s : List Marked) : List Glob := parse (s.length + 1) s

/-- The pattern takes the whole text. -/
def fits : List Glob → List Char → Bool
  | [], s => s.isEmpty
  | char c :: g, d :: s => c = d && fits g s
  | any :: g, _ :: s => fits g s
  | set negated rs :: g, d :: s => (rs.any fun r => r.1 ≤ d && d ≤ r.2) != negated && fits g s
  | star :: g, [] => fits g []
  | star :: g, d :: s => fits g (d :: s) || fits (star :: g) s
  | _ :: _, [] => false
  termination_by g s => g.length + s.length

/-- Something in the pattern stands for more than itself. -/
def isProper (g : List Glob) : Bool :=
  g.any fun x => match x with
    | char _ => false
    | _ => true

/-- The text without a part at its front that fits, if there is one. -/
def stripFront (longest : Bool) (g : List Glob) (s : List Char) : List Char :=
  let cuts := (List.range (s.length + 1)).filter fun n => fits g (s.take n)
  match (if longest then cuts.getLast? else cuts.head?) with
  | some n => s.drop n
  | none => s

/-- The same at its end. -/
def stripEnd (longest : Bool) (g : List Glob) (s : List Char) : List Char :=
  let cuts := (List.range (s.length + 1)).filter fun n => fits g (s.drop n)
  match (if longest then cuts.head? else cuts.getLast?) with
  | some n => s.take n
  | none => s

end Glob

end ImageGateway.Shell
