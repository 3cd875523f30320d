/-!
Signals that a script may send to itself.
-/

namespace ImageGateway.Shell.Signal

def names : List (String × Nat) := [
  ("HUP", 1), ("INT", 2), ("QUIT", 3), ("ILL", 4), ("TRAP", 5), ("ABRT", 6), ("BUS", 7),
  ("FPE", 8), ("KILL", 9), ("USR1", 10), ("SEGV", 11), ("USR2", 12), ("PIPE", 13), ("ALRM", 14),
  ("TERM", 15), ("STKFLT", 16), ("CHLD", 17), ("CONT", 18), ("STOP", 19), ("TSTP", 20),
  ("TTIN", 21), ("TTOU", 22), ("URG", 23), ("XCPU", 24), ("XFSZ", 25), ("VTALRM", 26),
  ("PROF", 27), ("WINCH", 28), ("IO", 29), ("PWR", 30), ("SYS", 31)]

/-- A signal by its number or its name. -/
def ofText? (t : String) : Option Nat :=
  match t.toNat? with
  | some n => if n < 65 then some n else none
  | none =>
    let name := if t.startsWith "SIG" then (t.drop 3).toString else t
    names.lookup name.toUpper

def nameOf (n : Nat) : String := ((names.find? (·.2 = n)).map (·.1)).getD (toString n)

def usage : String :=
  "kill: Usage: kill [-s sigspec | -signum | -sigspec] [pid | job]... or\nkill -l [exitstatus]"

/-- What a signal does to a script that has not asked for anything else. -/
inductive Effect where
  | none
  | stop
  | kill
  deriving DecidableEq, Repr

def effect (n : Nat) : Effect :=
  if n = 0 ∨ n = 17 ∨ n = 18 ∨ n = 23 ∨ n = 28 then .none
  else if 19 ≤ n ∧ n ≤ 22 then .stop
  else .kill

end ImageGateway.Shell.Signal
