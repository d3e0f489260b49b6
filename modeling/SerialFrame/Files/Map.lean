import Mathlib.Logic.Function.Basic
import SerialFrame.Files.Access

/-!
# Maps of files

The simplest view of a file system: each path has contents of its own, and a write puts new contents
in place of the old ones or is refused. Which writes are refused is left open.
-/

namespace SerialFrame

/-- File systems in which no two paths lead to one file. -/
class FileMap (σ : Type) where
  found : σ → String → Except ReadFailure ByteArray
  write : σ → String → ByteArray → Bool × σ
  found_write (s : σ) (path : String) (contents : ByteArray) :
    found (write s path contents).2 =
      if (write s path contents).1 then Function.update (found s) path (.ok contents) else found s

instance {σ : Type} [FileMap σ] : FileAccess (StateM σ) where
  readFile path := fun s => (FileMap.found s path, s)
  writeFile path contents := fun s => FileMap.write s path contents

/-- Files in memory, and which of the next writes are refused; the ones after these succeed. -/
structure Disk where
  found : String → Except ReadFailure ByteArray
  refusals : List Bool := []

namespace Disk

def write (d : Disk) (path : String) (contents : ByteArray) : Bool × Disk :=
  if d.refusals.headD false then (false, { d with refusals := d.refusals.tail })
  else (true, ⟨Function.update d.found path (.ok contents), d.refusals.tail⟩)

instance : FileMap Disk where
  found := found
  write := write
  found_write d path contents := by
    unfold write
    split <;> rfl

end Disk

end SerialFrame
