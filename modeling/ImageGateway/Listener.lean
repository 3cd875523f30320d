import ImageGateway.Listener.Address
import ImageGateway.Log
import ImageGateway.Uploads

/-!
The two listeners: one for the service and, if wanted, one beside it for its metrics. They are
opened together and the first failure ends both, so it matters whether an address is understood at
once or has to be looked up first.
-/

namespace ImageGateway.Listener

private def target : String := "kai_demo::http"

/-- A failure to listen on an address. -/
def refused (address : String) (e : SystemFault) : Trouble :=
  ⟨[s!"failed to bind to address: {address}"], e⟩

/-- An address and whether it is understood at once. -/
def resolve (address : String) : Bool × Except SystemFault Address :=
  match Address.literal? address with
  | some a => (true, .ok a)
  | none => (false, Address.lookUp address)

/-- Begins to listen on a resolved address. -/
def openOne (taken : List Address) (address : String) (a : Except SystemFault Address) :
    Except Trouble (List Address) :=
  (a.bind (Address.bind taken)).mapError (refused address)

def listening (address : String) : Log.Event := ⟨.info, target, "listening on " ++ address, []⟩

/-- Opens one listener, then the other. -/
def openInTurn (taken : List Address) (service metrics : String × Except SystemFault Address) :
    Except Trouble Unit × List Log.Event :=
  match openOne taken service.1 service.2 with
  | .error t => (.error t, [])
  | .ok taken =>
    ((openOne taken metrics.1 metrics.2).map fun _ => (), [listening service.1])

/-- Opens the listeners where some addresses are taken already. The one for the service comes
first, unless only the other one is understood at once. -/
def openAll (taken : List Address) (service : String) (metrics : Option String) :
    Except Trouble Unit × List Log.Event :=
  let (atOnce, a) := resolve service
  match metrics with
  | none =>
    match openOne taken service a with
    | .error t => (.error t, [])
    | .ok _ => (.ok (), [listening service])
  | some metrics =>
    let (metricsAtOnce, b) := resolve metrics
    if atOnce || !metricsAtOnce then openInTurn taken (service, a) (metrics, b)
    else
      match openOne taken metrics b with
      | .error t => (.error t, [])
      | .ok taken =>
        match openOne taken service a with
        | .error t => (.error t, [])
        | .ok _ => (.ok (), [listening service])

end ImageGateway.Listener
