import Baseline.FileAccess

/-!
# File systems without link resolution

Some hosts cannot tell where a link leads.  For them every path is its own
canonical form.
-/

namespace Baseline

/-- A file system that takes every path for canonical. -/
def Unresolved (σ : Type) : Type := σ

instance {σ : Type} [base : FileAccess σ] : FileAccess (Unresolved σ) :=
  { base with canonicalPath := fun _ path => .ok path }

end Baseline
