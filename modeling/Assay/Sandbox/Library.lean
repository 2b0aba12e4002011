import Assay.Sandbox.Kernel
import Assay.Sandbox.Shell.Start
import Assay.Sandbox.Utility.Cat
import Assay.Sandbox.Utility.Compare
import Assay.Sandbox.Utility.CopyOptions
import Assay.Sandbox.Utility.Count
import Assay.Sandbox.Utility.Diff
import Assay.Sandbox.Utility.Echo
import Assay.Sandbox.Utility.Head
import Assay.Sandbox.Utility.Link
import Assay.Sandbox.Utility.Listing
import Assay.Sandbox.Utility.MakeDir
import Assay.Sandbox.Utility.Touch
import Assay.Sandbox.Utility.Translate

/-! # The native programs of the sandbox -/

namespace Assay.Sandbox.Library

/-- The utilities whose failures have the exit code one. -/
def utilities : List (String × Utility) :=
  [("cat", Utility.cat), ("cp", Utility.cp), ("echo", Utility.echo), ("false", Utility.returnOne),
    ("head", Utility.head), ("ln", Utility.ln), ("mkdir", Utility.mkdir), ("touch", Utility.touch),
    ("tr", Utility.tr), ("true", Utility.returnZero), ("wc", Utility.wc)]

/-- The utilities whose failures have the exit code two, since one means a
difference. -/
def comparers : List (String × Utility) := [("cmp", Utility.cmp), ("diff", Utility.diff)]

/-- All programs by name: what they do with words and an environment. -/
def programs : List (String × (List String → List String → Task)) :=
  [("dash", Shell.task), ("ls", Utility.ls.task 2 false), ("sh", Shell.task)] ++
    utilities.map (fun u => (u.1, u.2.task 1 false)) ++
    comparers.map fun u => (u.1, u.2.task 2 true)

end Library

/-- The native programs. -/
def library : Library := fun name => Library.programs.lookup name

end Assay.Sandbox
