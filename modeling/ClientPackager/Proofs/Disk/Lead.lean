import ClientPackager.Proofs.Disk.Trail
import ClientPackager.Proofs.Disk.Write

set_option autoImplicit false

namespace ClientPackager.Disk

open Export (pathOf plain)

theorem steps_of_filled (path : String) : stepsOf path = (DiskPath.filledOf path.toList).map String.ofList := by
  rw [stepsOf, Text.splitOn, DiskPath.filledOf, List.filter_map]
  congr 1
  apply List.filter_congr
  simp

-- A disk can refuse a step; where the step leads is up to its name.
theorem walk_alike (disk other : Disk) (names : List String) (start first second : Place)
    (walked : names.foldlM disk.step start = .ok first) (again : names.foldlM other.step start = .ok second) :
    first = second := by
  have alike (on : Disk) (place next : Place) (name : String) (taken : on.step place name = .ok next) :
      next = if name = "." then place else if name = ".." then place.dropLast else place ++ [name] := by
    rw [step] at taken
    split at taken <;> (repeat' split at taken) <;> simp_all
  induction names generalizing start with
  | nil => exact (Except.ok.inj walked).symm.trans (Except.ok.inj again)
  | cons name rest ih =>
      rw [List.foldlM_cons, bind_eq_ok] at walked again
      obtain ⟨here, taken, walked⟩ := walked
      obtain ⟨there, also, again⟩ := again
      rw [alike disk start here name taken] at walked
      rw [alike other start there name also] at again
      exact ih _ walked again

theorem walk_below (disk : Disk) (names : List String) (start finish : Place)
    (walked : names.foldlM disk.step start = .ok finish) (down : ".." ∉ names) :
    finish = start ++ names.filter (· ≠ ".") := by
  induction names generalizing start with
  | nil => simpa using (Except.ok.inj walked).symm
  | cons name rest ih =>
      rw [List.foldlM_cons, bind_eq_ok] at walked
      obtain ⟨next, taken, walked⟩ := walked
      rw [List.mem_cons, not_or] at down
      rw [ih next walked down.2]
      rw [step] at taken
      split at taken
      · cases taken
      · cases taken
      · by_cases here : name = "."
        · rw [if_pos here] at taken
          simp [← Except.ok.inj taken, here]
        · rw [if_neg here, if_neg (Ne.symm down.1)] at taken
          split at taken
          · cases taken
          · simp [← Except.ok.inj taken, here]

-- A file of a tree lies where its steps lead from the base, those by a single dot
-- apart.
theorem located_below (disk : Disk) (base : String) (path : FilePath) (target : Target)
    (absolute : DiskPath.isAbsolute base = true) (located : disk.locate (pathOf base path.segments) = .ok target) :
    ∃ place, (stepsOf base).foldlM disk.step [] = .ok place ∧
      target.place = place ++ (plain path.segments).map String.ofList := by
  obtain ⟨inside, filled⟩ := DiskPath.filled_path_of base path absolute
  obtain ⟨_, _, _, finish, walked, rfl⟩ := (locate_ok disk _ target).mp located
  rw [startOf, if_pos inside, steps_of_filled, filled, List.map_append, ← steps_of_filled, List.foldlM_append,
    bind_eq_ok] at walked
  obtain ⟨place, outer, inner⟩ := walked
  have down : ".." ∉ path.segments.map String.ofList := by
    intro up
    obtain ⟨segment, listed, same⟩ := List.mem_map.mp up
    exact (FilePath.segment_valid path segment listed).2.1 (by simpa [← String.toList_inj] using same)
  have kept : (path.segments.map String.ofList).filter (· ≠ ".") = (plain path.segments).map String.ofList := by
    rw [List.filter_map, plain]
    congr 1
    apply List.filter_congr
    intro segment _
    simp [Export.isDot, ← String.toList_inj]
  exact ⟨place, outer, by rw [walk_below disk _ place finish inner down, kept]⟩

theorem same_place_iff (disk other : Disk) (base : String) (first second : FilePath) (target beside : Target)
    (absolute : DiskPath.isAbsolute base = true) (located : disk.locate (pathOf base first.segments) = .ok target)
    (also : other.locate (pathOf base second.segments) = .ok beside) :
    target.place = beside.place ↔ plain first.segments = plain second.segments := by
  obtain ⟨place, walked, shape⟩ := located_below disk base first target absolute located
  obtain ⟨again, walkedAgain, shapeAgain⟩ := located_below other base second beside absolute also
  rw [shape, shapeAgain, walk_alike disk other _ _ _ _ walked walkedAgain, List.append_cancel_left_eq,
    (List.map_injective_iff.mpr fun _ _ same => String.ofList_injective same).eq_iff]

end ClientPackager.Disk
