import ImageGateway.Log

/-!
Which events are shown. A filter is a list of directives with commas between them, such as
`warn,kai_demo::http=debug`. For an event the directive with the longest target that its own
target begins with decides, of several such the last one; without any the event is not shown.
-/

namespace ImageGateway.Log

/-- How much is shown; none is nothing at all. -/
abbrev Threshold := Option Level

structure Directive where
  /-- What the targets of the events begin with. -/
  target : String
  threshold : Threshold
  deriving DecidableEq, Repr

structure Filter where
  directives : List Directive
  deriving DecidableEq, Repr

namespace Threshold

def names : List (String × Threshold) :=
  [("off", none), ("error", some .error), ("warn", some .warn), ("info", some .info),
    ("debug", some .debug), ("trace", some .trace)]

def ofName? (cs : List Char) : Option Threshold :=
  names.lookup (String.ofList (cs.map Char.toLower))

/-- A threshold by its name or by one digit. -/
def parse? (cs : List Char) : Option Threshold :=
  match cs with
  | [c] => if c.isDigit then (names[c.toNat - 48]?).map (·.2) else none
  | cs => ofName? cs

/-- A text that means a threshold although zeros may stand in front of its digit. -/
def isSpelled (cs : List Char) : Bool :=
  let digits := cs.dropWhile (· = '0')
  (ofName? cs).isSome ||
    (cs ≠ [] && cs.all Char.isDigit && (digits = [] || (parse? digits).isSome))

def shows (t : Threshold) (level : Level) : Bool :=
  match t with
  | none => false
  | some shown => level.verbosity ≤ shown.verbosity

end Threshold

namespace Directive

def isTargetChar (c : Char) : Bool :=
  c.isAlphanum || c = '_' || c = ':' || c = '-' || 0x80 ≤ c.toNat

/-- The pieces that a directive is about: a target, or the name of a span in brackets. At most two
of them may stand in a row; what follows is given too. -/
def pieces (room : Nat) (cs : List Char) : List (List Char) × List Char :=
  match room, cs with
  | room + 1, '[' :: rest =>
    match rest.dropWhile (· ≠ ']') with
    | [] => ([], cs)
    | _ :: after =>
      let (more, left) := pieces room after
      (['['] :: more, left)
  | room + 1, c :: _ =>
    let target := cs.takeWhile isTargetChar
    if isTargetChar c then
      let (more, left) := pieces room (cs.dropWhile isTargetChar)
      (target :: more, left)
    else ([], cs)
  | _, cs => ([], cs)

/-- Reads one directive. What is about a span applies to no event outside of it, so it leaves no
directive behind. A target without a threshold shows everything. -/
def parse? (cs : List Char) : Option (List Directive) :=
  match Threshold.parse? cs with
  | some t => some [⟨"", t⟩]
  | none =>
    let (ps, rest) := pieces 2 cs
    let make (t : Threshold) : List Directive :=
      if ps.contains ['['] then []
      else
        let target := (ps.getLast?).getD []
        [⟨if Threshold.isSpelled target then "" else String.ofList target, t⟩]
    if ps = [] then none
    else
      match rest with
      | [] | ['='] => some (make (some .trace))
      | '=' :: level => (Threshold.parse? level).map make
      | _ => none

/-- Whether a directive is about an event. -/
def covers (d : Directive) (e : Event) : Bool :=
  d.target.toList.isPrefixOf e.target.toList

end Directive

namespace Filter

/-- What is shown if nothing else is said. -/
def standard : Filter := ⟨[⟨"kai_demo", some .debug⟩, ⟨"tower_http", some .debug⟩]⟩

/-- Nothing said at all means errors only. -/
def errorsOnly : Filter := ⟨[⟨"", some .error⟩]⟩

def splitCommas (cs : List Char) : List (List Char) :=
  cs.foldr (fun c parts =>
    match parts with
    | [] => [[c]]
    | p :: ps => if c = ',' then [] :: p :: ps else (c :: p) :: ps) [[]]

/-- Reads a filter. Empty places between commas do not matter; a directive that cannot be read
spoils the whole filter. -/
def parse? (text : String) : Option Filter :=
  match (splitCommas text.toList).filter (· ≠ []) with
  | [] => some errorsOnly
  | parts => (parts.mapM Directive.parse?).map fun ds => ⟨ds.flatten⟩

/-- The filter that the environment asks for. -/
def fromEnvironment (text : Option String) : Filter := (text.bind parse?).getD standard

/-- Of two directives the one with the longer target, of equally long ones the later. -/
def narrower (best : Option Directive) (d : Directive) : Option Directive :=
  match best with
  | none => some d
  | some b => if b.target.length ≤ d.target.length then some d else some b

def shows (f : Filter) (e : Event) : Bool :=
  match (f.directives.filter (·.covers e)).foldl narrower none with
  | none => false
  | some d => d.threshold.shows e.level

/-- The lines of the events that are shown. -/
def lines (f : Filter) (events : List Event) : List String := (events.filter f.shows).map Event.line

end Filter

end ImageGateway.Log
