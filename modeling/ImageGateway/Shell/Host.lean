import ImageGateway.Shell.Tool.Catalogue

/-!
The files that every machine is taken to have: devices, the shell, and the tools.
-/

namespace ImageGateway.Shell.Host

/-- Programs that are no tools by themselves. -/
def shells : List String := ["sh", "dash", "bash", "env", "test", "[", "echo", "printf", "pwd"]

def folders : List Place := [
  ["bin"], ["usr"], ["bin", "usr"], ["dev"], ["proc"], ["self", "proc"], ["tmp"], ["etc"], ["var"],
  ["root"], ["home"], ["srv"]]

def files : Files :=
  let tools := shells ++ Tool.all.map (·.1)
  let named := tools.flatMap fun t =>
    [([t, "bin"], Entry.device (.tool t)), ([t, "bin", "usr"], Entry.device (.tool t))]
  ⟨folders.map (·, Entry.dir) ++ [(["null", "dev"], .device .null), (["zero", "dev"], .device .zero),
    (["mem", "self", "proc"], .device .unreadable)] ++ named⟩

end ImageGateway.Shell.Host
