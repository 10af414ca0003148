import CodeAtlas.Indexer.Task
import CodeAtlas.Watch.Debounce

/-!
# Changes as operations

What an index is asked to do about a change.
-/

namespace CodeAtlas
namespace Change

/-- The operation that brings an index up to date with a change. -/
def operation (c : Change) : Operation :=
  let path := Path.ofText c.path
  match c.kind with
  | .created | .changed => .update path
  | .deleted => .remove path
  | .directoryCreated => .scan path
  | .directoryDeleted => .removeDirectory path

/-- Brings an index up to date with a change, nothing else going on. -/
def handle {σ : Type} (u : Setup σ) (fs : FileSystem) (c : Change) (s : Indexer × σ) :
    Except Error Unit × (Indexer × σ) :=
  let (r, ix, x) := s.1.run u fs c.operation s.2
  (r.map fun _ => (), ix, x)

end Change
end CodeAtlas
