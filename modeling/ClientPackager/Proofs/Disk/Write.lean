import ClientPackager.Disk.Basic
import ClientPackager.Proofs.Lookup
import ClientPackager.Proofs.Outcome

set_option autoImplicit false

namespace ClientPackager.Disk

variable (disk : Disk) (spot : Place) (node : Node)

theorem node_put (place : Place) (below : spot ≠ []) :
    (disk.put spot node).node? place = if spot = place then some node else disk.node? place := by
  by_cases here : spot = place
  · subst here
    simp [node?, put, below, Keyed.find_inserted]
  · simp [node?, put, here, Keyed.find_inserted]

theorem node_remove (place : Place) (below : spot ≠ []) :
    (disk.remove spot).node? place = if spot = place then none else disk.node? place := by
  by_cases here : spot = place
  · subst here
    simp [node?, remove, below, Keyed.find_erased]
  · simp [node?, remove, here, Keyed.find_erased]

theorem not_root (solid : disk.node? spot ≠ some .directory) : spot ≠ [] := by
  rintro rfl
  exact solid (by simp [node?])

-- Steps are taken from directories only, so what is no directory can change
-- without a path leading elsewhere.
theorem step_put (solid : disk.node? spot ≠ some .directory) (place next : Place) (name : String)
    (taken : disk.step place name = .ok next) : (disk.put spot node).step place name = .ok next := by
  rw [step] at taken ⊢
  split at taken
  · simp at taken
  · simp at taken
  · next directory =>
      have apart : spot ≠ place := fun same => solid (same ▸ directory)
      rw [node_put disk spot node place (not_root disk spot solid), if_neg apart, directory]
      exact taken

theorem walk_put (solid : disk.node? spot ≠ some .directory) (names : List String) (start finish : Place)
    (walked : names.foldlM disk.step start = .ok finish) :
    names.foldlM (disk.put spot node).step start = .ok finish := by
  induction names generalizing start with
  | nil => exact walked
  | cons name rest ih =>
      rw [List.foldlM_cons, bind_eq_ok] at walked ⊢
      obtain ⟨next, first, later⟩ := walked
      exact ⟨next, step_put disk spot node solid start next name first, ih next later⟩

def stepsOf (path : String) : List String := (Text.splitOn '/' path).filter (· ≠ "")

def startOf (path : String) : Place := if DiskPath.isAbsolute path then [] else disk.working

theorem locate_ok (path : String) (target : Target) : disk.locate path = .ok target ↔
    path.toList.contains '\x00' = false ∧ path ≠ "" ∧ path.utf8ByteSize ≤ longestPath ∧
    ∃ place, (stepsOf path).foldlM disk.step (disk.startOf path) = .ok place ∧
      ⟨place, Text.hasTrailing "/" path,
        (stepsOf path).getLast? = some "." || (stepsOf path).getLast? = some ".."⟩ = target := by
  simp only [locate, unless_refused, bind_eq_ok, Bool.not_eq_true, Nat.not_lt, pure, Except.pure, Except.ok.injEq]
  rfl

theorem locate_put (solid : disk.node? spot ≠ some .directory) (path : String) (target : Target)
    (located : disk.locate path = .ok target) : (disk.put spot node).locate path = .ok target := by
  rw [locate_ok] at located ⊢
  obtain ⟨clean, present, short, place, walked, same⟩ := located
  exact ⟨clean, present, short, place, walk_put disk spot node solid _ _ _ walked, same⟩

theorem write_ok (path : String) (content : FileContent) (after : Disk) : disk.write path content = .ok after ↔
    ∃ target, disk.locate path = .ok target ∧ target.slashed = false ∧
      disk.node? target.place ≠ some .directory ∧ disk.put target.place (.file content) = after := by
  simp only [write, unless_refused, bind_eq_ok, Bool.or_eq_true, decide_eq_true_eq, not_or, Bool.not_eq_true, and_assoc,
    pure, Except.pure, Except.ok.injEq, ne_eq]

theorem find_written (path : String) (content : FileContent) (after : Disk)
    (written : disk.write path content = .ok after) : ∃ place, after.find path = .ok (place, .file content) := by
  obtain ⟨target, located, plain, solid, rfl⟩ := (write_ok disk path content after).mp written
  have relocated := locate_put disk target.place (.file content) solid path target located
  have held := node_put disk target.place (.file content) target.place (not_root disk target.place solid)
  rw [if_pos rfl] at held
  refine ⟨target.place, ?_⟩
  rw [find, relocated]
  simp only [bind, Except.bind, held, plain]
  rfl

end ClientPackager.Disk
