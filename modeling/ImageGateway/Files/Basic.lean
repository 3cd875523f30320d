/-!
A tree of files as a value. A place in the tree is the list of names on the way to it, innermost
first; every place but the root either holds one entry or is free.
-/

namespace ImageGateway

abbrev Bytes := List UInt8

/-- Names from the entry outwards; the root is the empty list. -/
abbrev Place := List String

/-- Things that behave like files and are none on disk. -/
inductive Device where
  /-- Empty when read; swallows what is written. -/
  | null
  /-- Endless zeros. -/
  | zero
  /-- A regular file whose reading fails. -/
  | unreadable
  /-- A program of the system, known by name. -/
  | tool (name : String)
  deriving DecidableEq, Repr

inductive Entry where
  | dir
  | file (content : Bytes) (mode : Nat)
  | link (target : String)
  | device (d : Device)
  deriving DecidableEq, Repr

namespace Entry

/-- What counts as a regular file when asked for its kind. -/
def isRegular : Entry → Bool
  | file _ _ | device .unreadable | device (.tool _) => true
  | _ => false

/-- May be started as a program. -/
def isExecutable : Entry → Bool
  | file _ mode => mode / 64 % 2 = 1 || mode / 8 % 2 = 1 || mode % 2 = 1
  | device (.tool _) => true
  | _ => false

end Entry

/-- The mode of a file that is created without saying more. -/
def defaultMode : Nat := 0o644

structure Files where
  entries : List (Place × Entry)
  deriving DecidableEq, Repr

namespace Files

def empty : Files := ⟨[]⟩

/-- The entry at a place; the root is always a directory. -/
def get? (fs : Files) : Place → Option Entry
  | [] => some .dir
  | p => fs.entries.lookup p

/-- Puts an entry at a place, in place of what was there. -/
def set (fs : Files) (p : Place) (e : Entry) : Files :=
  ⟨(p, e) :: fs.entries.filter (·.1 ≠ p)⟩

/-- Frees one place. -/
def erase (fs : Files) (p : Place) : Files := ⟨fs.entries.filter (·.1 ≠ p)⟩

/-- Frees a place and everything below it. -/
def eraseBelow (fs : Files) (p : Place) : Files :=
  ⟨fs.entries.filter fun x => !p.isSuffixOf x.1⟩

/-- The names in a directory. -/
def children (fs : Files) (p : Place) : List String :=
  fs.entries.filterMap fun x =>
    match x.1 with
    | n :: q => if q = p then some n else none
    | [] => none

/-- Moves a place and everything below it. -/
def move (fs : Files) (src dst : Place) : Files :=
  ⟨fs.entries.map fun x =>
    if src.isSuffixOf x.1 then (x.1.take (x.1.length - src.length) ++ dst, x.2) else x⟩

theorem lookup_filter_ne {p q : Place} (h : q ≠ p) (l : List (Place × Entry)) :
    (l.filter (·.1 ≠ p)).lookup q = l.lookup q := by
  induction l with
  | nil => rfl
  | cons x l ih =>
    obtain ⟨r, e⟩ := x
    simp only [ne_eq, decide_not] at ih
    by_cases hr : r = p
    · subst hr
      simp [List.lookup_cons, beq_eq_false_iff_ne.mpr h, ih]
    · simp [List.lookup_cons, hr, ih]

theorem get?_set_self (fs : Files) {p : Place} (e : Entry) (h : p ≠ []) :
    (fs.set p e).get? p = some e := by
  cases p with
  | nil => exact absurd rfl h
  | cons n p => simp [get?, set]

theorem get?_set_of_ne (fs : Files) {p q : Place} (e : Entry) (h : q ≠ p) :
    (fs.set p e).get? q = fs.get? q := by
  cases q with
  | nil => rfl
  | cons n q =>
    simp only [get?, set, List.lookup_cons, beq_eq_false_iff_ne.mpr h]
    exact lookup_filter_ne h fs.entries

end Files

end ImageGateway
