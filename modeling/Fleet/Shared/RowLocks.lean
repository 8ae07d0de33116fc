import Mathlib.Data.List.Basic

set_option autoImplicit false

namespace Fleet.RowLocks

universe u v

variable {Task : Type u} {Lock : Type v} [DecidableEq Lock] (locks : Task → List Lock)

-- Each task keeps the locks of its open transaction; a request for one of another's waits.
def heldElsewhere (tasks : List Task) (t : Nat) (lock : Lock) : Bool :=
  (tasks.eraseIdx t).any fun task => lock ∈ locks task

def firstHeld (tasks : List Task) (t : Nat) (requests : List Lock) : Option Lock :=
  requests.find? (heldElsewhere locks tasks t)

variable {locks} {tasks : List Task} {t : Nat}

theorem heldElsewhere_iff {lock : Lock} :
    heldElsewhere locks tasks t lock = true ↔
      ∃ u task, u ≠ t ∧ tasks[u]? = some task ∧ lock ∈ locks task := by
  simp only [heldElsewhere, List.any_eq_true, decide_eq_true_eq]
  constructor
  · rintro ⟨task, member, held⟩
    obtain ⟨u, apart, found⟩ := List.mem_eraseIdx_iff_getElem?.1 member
    exact ⟨u, task, apart, found, held⟩
  · rintro ⟨u, task, apart, found, held⟩
    exact ⟨task, List.mem_eraseIdx_iff_getElem?.2 ⟨u, apart, found⟩, held⟩

theorem firstHeld_mem {requests : List Lock} {lock : Lock}
    (waits : firstHeld locks tasks t requests = some lock) : lock ∈ requests :=
  List.mem_of_find?_eq_some waits

theorem firstHeld_held {requests : List Lock} {lock : Lock}
    (waits : firstHeld locks tasks t requests = some lock) :
    ∃ u task, u ≠ t ∧ tasks[u]? = some task ∧ lock ∈ locks task :=
  heldElsewhere_iff.1 (List.find?_some waits)

end Fleet.RowLocks
