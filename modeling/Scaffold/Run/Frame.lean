import Scaffold.Document.Basic
import Scaffold.Error

/-!
# Frames

A frame says where the jobs at one place of a document write and which definitions they can run.
The chain lists the definitions that are being run, the outermost first.
-/

namespace Scaffold

structure Frame where
  base : Option Path
  definitions : Definitions
  chain : List String
deriving Repr

namespace Frame

def root (base : Option Path) (definitions : Definitions) : Frame := ⟨base, definitions, []⟩

def withBase (base : Option Path) (frame : Frame) : Frame := { frame with base }

/-- The frame within a definition; no definition is entered within itself. -/
def enter (target : String) (frame : Frame) : Except DocumentError Frame :=
  let chain := frame.chain ++ [target]
  if frame.chain.contains target then .error (.definitionCycle chain)
  else .ok { frame with chain }

end Frame
end Scaffold
