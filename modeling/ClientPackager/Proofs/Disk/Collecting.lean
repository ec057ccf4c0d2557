import Mathlib.Data.List.Infix
import ClientPackager.Proofs.Disk.Place

set_option autoImplicit false

namespace ClientPackager

open Export (Trail above climb directories pathOf plain)

theorem dotless_front (front trail : Trail) (dotless : Dotless trail) (leads : front <+: trail) : Dotless front :=
  fun segment listed => dotless segment (leads.subset listed)

theorem above_leads (front dir : Trail) (present : dir ≠ []) :
    front <+: dir ↔ front = dir ∨ front <+: dir.dropLast := by
  conv_lhs => rw [← List.dropLast_concat_getLast present]
  rw [List.prefix_concat_iff, List.dropLast_concat_getLast present]

section Climbing

-- A directory that is collected already on the way up from a trail has all above
-- it collected too, so that the walk may end there.
def EndsSoundly (dirs : List Trail) (dir : Trail) : Prop :=
  ∀ made ∈ dirs, made <+: dir → ∀ front, front <+: made → front ≠ [] → front ∈ dirs

-- In the midst of a walk a directory is collected and those above it are not, but
-- none such lies ahead.
theorem ends_soundly_above (dirs : List Trail) (dir : Trail) (present : dir ≠ []) (ends : EndsSoundly dirs dir) :
    EndsSoundly (dir :: dirs) dir.dropLast := by
  intro made listed leads front upper filled
  have shorter := leads.length_le
  have positive := List.length_pos_iff.mpr present
  rw [List.length_dropLast] at shorter
  have apart : made ≠ dir := by
    rintro rfl
    omega
  have old := (List.mem_cons.mp listed).resolve_left apart
  exact List.mem_cons_of_mem dir (ends made old (leads.trans (List.dropLast_prefix dir)) front upper filled)

theorem climb_collects (dirs : List Trail) (dir : Trail) (dotless : Dotless dir) (others : ∀ dir ∈ dirs, Dotless dir)
    (ends : EndsSoundly dirs dir) (made : Trail) :
    made ∈ climb dirs dir ↔ made ∈ dirs ∨ made ≠ [] ∧ made <+: dir := by
  fun_induction climb dirs dir with
  | case1 dirs =>
      rw [List.prefix_nil, or_iff_left fun both => both.1 both.2]
  | case2 dirs dir present known =>
      obtain ⟨other, listed, same⟩ := List.any_eq_true.mp known
      rw [plain_dotless dir dotless, plain_dotless other (others other listed), decide_eq_true_eq] at same
      rw [or_iff_left_of_imp]
      exact fun ahead => ends other listed (same ▸ List.prefix_rfl) made (same ▸ ahead.2) ahead.1
  | case3 dirs dir present fresh ih =>
      rw [above_dotless dir dotless] at ih ⊢
      rw [ih (dotless_front _ dir dotless (List.dropLast_prefix dir)) (List.forall_mem_cons.mpr ⟨dotless, others⟩)
        (ends_soundly_above dirs dir present ends), List.mem_cons, above_leads made dir present]
      constructor
      · rintro ((rfl | old) | ⟨filled, upper⟩)
        · exact .inr ⟨present, .inl rfl⟩
        · exact .inl old
        · exact .inr ⟨filled, .inr upper⟩
      · rintro (old | ⟨filled, rfl | upper⟩)
        · exact .inl (.inr old)
        · exact .inl (.inl rfl)
        · exact .inr ⟨filled, upper⟩

theorem climb_distinct (dirs : List Trail) (dir : Trail) (distinct : dirs.Nodup) : (climb dirs dir).Nodup := by
  fun_induction climb dirs dir with
  | case1 | case2 => exact distinct
  | case3 dirs dir present fresh ih =>
      refine ih (List.nodup_cons.mpr ⟨fun listed => fresh ?_, distinct⟩)
      exact List.any_eq_true.mpr ⟨dir, listed, by simp⟩

-- A run of the walk: each round collects a directory and goes on above it, until
-- the base or a directory that is collected already.
inductive Climbs : Nat → List Trail → Trail → List Trail → Prop where
  | arrived (dirs : List Trail) : Climbs 0 dirs [] dirs
  | known (dirs : List Trail) (dir other : Trail) (listed : other ∈ dirs) (same : plain other = plain dir) :
      Climbs 0 dirs dir dirs
  | collected (rounds : Nat) (dirs : List Trail) (dir : Trail) (found : List Trail) (present : dir ≠ [])
      (fresh : ∀ other ∈ dirs, plain other ≠ plain dir) (later : Climbs rounds (dir :: dirs) (above dir) found) :
      Climbs (rounds + 1) dirs dir found

theorem climb_ends (dirs : List Trail) (dir : Trail) :
    ∃ rounds, rounds ≤ dir.length ∧ Climbs rounds dirs dir (climb dirs dir) := by
  fun_induction climb dirs dir with
  | case1 dirs => exact ⟨0, Nat.le_refl 0, .arrived dirs⟩
  | case2 dirs dir present known =>
      obtain ⟨other, listed, same⟩ := List.any_eq_true.mp known
      exact ⟨0, Nat.zero_le _, .known dirs dir other listed (of_decide_eq_true same)⟩
  | case3 dirs dir present fresh ih =>
      obtain ⟨rounds, bound, later⟩ := ih
      have shorter := Export.length_above_lt present
      refine ⟨rounds + 1, by omega, .collected rounds dirs dir _ present (fun other listed same => fresh ?_) later⟩
      exact List.any_eq_true.mpr ⟨other, listed, decide_eq_true same⟩

-- What the files need: with each directory all above it, and nothing else.
theorem climbs_collect (paths : List FilePath) (dirs : List Trail) (dotless : ∀ path ∈ paths, Dotless path.segments)
    (others : ∀ dir ∈ dirs, Dotless dir) (closed : ∀ dir, EndsSoundly dirs dir) (distinct : dirs.Nodup) :
    let found := paths.foldl (fun dirs path => climb dirs (above path.segments)) dirs
    (∀ dir, dir ∈ found ↔ dir ∈ dirs ∨ dir ≠ [] ∧ ∃ path ∈ paths, dir <+: path.segments.dropLast) ∧ found.Nodup := by
  induction paths generalizing dirs with
  | nil => exact ⟨by simp, distinct⟩
  | cons path rest ih =>
      obtain ⟨first, later⟩ := List.forall_mem_cons.mp dotless
      have shorter := dotless_front _ _ first (List.dropLast_prefix path.segments)
      have collects := climb_collects dirs _ shorter others (closed _)
      have solid : ∀ dir ∈ climb dirs path.segments.dropLast, Dotless dir := by
        intro dir listed
        rcases (collects dir).mp listed with old | ⟨_, leads⟩
        · exact others dir old
        · exact dotless_front dir _ shorter leads
      have settled : ∀ dir, EndsSoundly (climb dirs path.segments.dropLast) dir := by
        intro dir made listed _ front upper filled
        rcases (collects made).mp listed with old | ⟨_, leads⟩
        · exact (collects front).mpr (.inl (closed made made old List.prefix_rfl front upper filled))
        · exact (collects front).mpr (.inr ⟨filled, upper.trans leads⟩)
      obtain ⟨inside, apart⟩ := ih _ later solid settled (climb_distinct dirs _ distinct)
      intro found
      simp only [found, List.foldl_cons, above_dotless _ first]
      refine ⟨fun dir => ?_, apart⟩
      rw [inside, collects, or_assoc, ← and_or_left]
      simp only [List.exists_mem_cons_iff]

section Directories

variable (tree : FileTree) (dotless : ∀ path ∈ tree.paths, Dotless path.segments)

include dotless

theorem directories_iff (dir : Trail) :
    dir ∈ directories tree ↔ dir ≠ [] ∧ ∃ path ∈ tree.paths, dir <+: path.segments.dropLast := by
  have collects := (climbs_collect tree.paths [] dotless (by simp) (by simp [EndsSoundly]) List.nodup_nil).1 dir
  rw [directories, List.mem_mergeSort, collects, or_iff_right List.not_mem_nil]

theorem directories_distinct : (directories tree).Nodup := by
  have distinct := (climbs_collect tree.paths [] dotless (by simp) (by simp [EndsSoundly]) List.nodup_nil).2
  exact (List.mergeSort_perm _ _).nodup_iff.mpr distinct

end Directories

end Climbing

namespace DiskPath

-- Absolute paths are one if their steps are; slashes and dots between them do not
-- count.
def Same (path other : String) : Prop := isAbsolute path = isAbsolute other ∧ steps path = steps other

-- What lies in a directory, at whatever depth.
def Beneath (path dir : String) : Prop :=
  isAbsolute path = isAbsolute dir ∧ steps dir <+: steps path ∧ steps dir ≠ steps path

instance (path other : String) : Decidable (Same path other) :=
  inferInstanceAs (Decidable (_ ∧ _))

instance (path dir : String) : Decidable (Beneath path dir) :=
  inferInstanceAs (Decidable (_ ∧ _))

theorem steps_solid (path : String) (absolute : isAbsolute path = true) :
    ∀ name ∈ steps path, name ≠ "" ∧ name ≠ "." ∧ '/' ∉ name.toList := by
  rw [steps_absolute path absolute, List.forall_mem_map]
  intro piece listed
  obtain ⟨held, kept⟩ := List.mem_filter.mp listed
  have clear := FilePath.not_mem_of_mem_pieces held
  have solid : piece ≠ [] ∧ piece ≠ ['.'] := by simpa [Export.isDot] using kept
  exact ⟨by simpa using solid.1, by simpa [← String.toList_inj] using solid.2, by simpa using clear⟩

theorem parent_steps (path : String) (absolute : isAbsolute path = true) :
    isAbsolute (parent path) = true ∧ steps (parent path) = (steps path).dropLast := by
  rw [parent, absolute]
  refine ⟨canonical_absolute _, steps_restored _ fun name listed => ?_⟩
  exact steps_solid path absolute name ((List.dropLast_sublist _).mem listed)

end DiskPath

open DiskPath (Beneath Same isAbsolute steps)

section Base

variable (base : String) (absolute : isAbsolute base = true)

include absolute

theorem trail_steps (path : FilePath) (dir : Trail) (dotless : Dotless path.segments) (leads : dir <+: path.segments) :
    isAbsolute (pathOf base dir) = true ∧ steps (pathOf base dir) = steps base ++ dir.map String.ofList := by
  have valid : dir.all FilePath.isSegment = true := List.all_eq_true.mpr fun segment listed =>
    List.all_eq_true.mp path.valid segment (leads.subset listed)
  have inside := DiskPath.steps_path_of base ⟨dir, valid⟩ absolute
  rwa [plain_dotless dir (dotless_front dir _ dotless leads)] at inside

-- What lies below the base and holds a file is a part of the way to that file.
theorem between_iff (path : FilePath) (dotless : Dotless path.segments) (spot : String) :
    (∃ dir, dir ≠ [] ∧ dir <+: path.segments.dropLast ∧ Same (pathOf base dir) spot) ↔
      Beneath spot base ∧ Beneath (pathOf base path.segments) spot := by
  obtain ⟨inside, whole⟩ := trail_steps base absolute path path.segments dotless List.prefix_rfl
  constructor
  · rintro ⟨dir, present, leads, alike, same⟩
    have upper := leads.trans (List.dropLast_prefix path.segments)
    obtain ⟨below, trail⟩ := trail_steps base absolute path dir dotless upper
    have shorter := leads.length_le
    have positive := List.length_pos_iff.mpr present
    rw [List.length_dropLast] at shorter
    rw [below] at alike
    rw [trail] at same
    refine ⟨⟨alike.symm.trans absolute.symm, same ▸ List.prefix_append _ _, fun none => ?_⟩,
      ⟨inside.trans alike, ?_, fun none => ?_⟩⟩
    · exact present (by simpa [← same] using none)
    · rw [← same, whole, List.prefix_append_right_inj]
      exact upper.map String.ofList
    · have lengths := congrArg List.length none
      simp [← same, whole] at lengths
      omega
  · rintro ⟨⟨alike, ⟨names, split⟩, apart⟩, ⟨_, leads, other⟩⟩
    rw [← split, whole, List.prefix_append_right_inj] at leads
    have cut := List.prefix_iff_eq_take.mp leads
    rw [← List.map_take] at cut
    have upper := List.take_prefix names.length path.segments
    generalize path.segments.take names.length = dir at cut upper
    subst cut
    have present : dir ≠ [] := by
      rintro rfl
      exact apart (by simpa using split)
    have proper : dir ≠ path.segments := by
      rintro rfl
      exact other (split.symm.trans whole.symm)
    have deeper : path.segments ≠ [] := fun none => present (List.prefix_nil.mp (none ▸ upper))
    obtain ⟨below, trail⟩ := trail_steps base absolute path dir dotless upper
    exact ⟨dir, present, ((above_leads dir path.segments deeper).mp upper).resolve_left proper,
      below.trans (alike.trans absolute).symm, trail.trans split⟩

variable (tree : FileTree) (dotless : ∀ path ∈ tree.paths, Dotless path.segments)

include dotless

theorem collected_iff (spot : String) : (∃ dir ∈ directories tree, Same (pathOf base dir) spot) ↔
    Beneath spot base ∧ ∃ path ∈ tree.paths, Beneath (pathOf base path.segments) spot := by
  constructor
  · rintro ⟨dir, listed, same⟩
    obtain ⟨present, path, held, leads⟩ := (directories_iff tree dotless dir).mp listed
    obtain ⟨inside, holds⟩ := (between_iff base absolute path (dotless path held) spot).mp ⟨dir, present, leads, same⟩
    exact ⟨inside, path, held, holds⟩
  · rintro ⟨inside, path, held, holds⟩
    obtain ⟨dir, present, leads, same⟩ := (between_iff base absolute path (dotless path held) spot).mpr ⟨inside, holds⟩
    exact ⟨dir, (directories_iff tree dotless dir).mpr ⟨present, path, held, leads⟩, same⟩

theorem collected_apart : (directories tree).Pairwise fun dir other => ¬ Same (pathOf base dir) (pathOf base other) := by
  refine (directories_distinct tree dotless).imp_of_mem fun {dir other} listed also apart same => apart ?_
  obtain ⟨_, path, held, leads⟩ := (directories_iff tree dotless dir).mp listed
  obtain ⟨_, beside, heldAlso, leadsAlso⟩ := (directories_iff tree dotless other).mp also
  have trail := (trail_steps base absolute path dir (dotless path held) (leads.trans (List.dropLast_prefix _))).2
  have trailAlso := (trail_steps base absolute beside other (dotless beside heldAlso)
    (leadsAlso.trans (List.dropLast_prefix _))).2
  rw [Same, trail, trailAlso, List.append_cancel_left_eq] at same
  exact List.map_injective_iff.mpr (fun _ _ => String.ofList_injective) same.2

theorem holder_collected (path : FilePath) (held : path ∈ tree.paths) (below : path ≠ FilePath.root) :
    Same (DiskPath.parent (pathOf base path.segments)) base ∨
      ∃ dir ∈ directories tree, Same (pathOf base dir) (DiskPath.parent (pathOf base path.segments)) := by
  have present : path.segments ≠ [] := fun none => below (FilePath.segments_injective path FilePath.root none)
  have leads := List.dropLast_prefix path.segments
  obtain ⟨inside, whole⟩ := trail_steps base absolute path path.segments (dotless path held) List.prefix_rfl
  obtain ⟨outside, up⟩ := DiskPath.parent_steps _ inside
  obtain ⟨within, trail⟩ := trail_steps base absolute path _ (dotless path held) leads
  have holder : steps (DiskPath.parent (pathOf base path.segments)) = steps (pathOf base path.segments.dropLast) := by
    rw [up, whole, trail, List.dropLast_append_of_ne_nil (by simpa using present), List.map_dropLast]
  by_cases direct : path.segments.dropLast = []
  · refine .inl ⟨outside.trans absolute.symm, ?_⟩
    rw [holder, trail, direct, List.map_nil, List.append_nil]
  · exact .inr ⟨_, (directories_iff tree dotless _).mpr ⟨direct, path, held, List.prefix_rfl⟩,
      within.trans outside.symm, holder.symm⟩

end Base

-- The walk may end early, and the set is whole nevertheless.
theorem directories_between (tree : FileTree) (base : String) (absolute : isAbsolute base = true)
    (dotless : ∀ path ∈ tree.paths, Dotless path.segments) (rootless : FilePath.root ∉ tree.paths) :
    (∀ spot, (∃ dir ∈ directories tree, Same (pathOf base dir) spot) ↔
      Beneath spot base ∧ ∃ path ∈ tree.paths, Beneath (pathOf base path.segments) spot) ∧
    ((directories tree).Pairwise fun dir other => ¬ Same (pathOf base dir) (pathOf base other)) ∧
    (∀ path ∈ tree.paths, Same (DiskPath.parent (pathOf base path.segments)) base ∨
      ∃ dir ∈ directories tree, Same (pathOf base dir) (DiskPath.parent (pathOf base path.segments))) ∧
    ∀ dirs dir, ∃ rounds, rounds ≤ dir.length ∧ Climbs rounds dirs dir (climb dirs dir) :=
  ⟨collected_iff base absolute tree dotless, collected_apart base absolute tree dotless,
    fun path held => holder_collected base absolute tree dotless path held fun same => rootless (same ▸ held),
    climb_ends⟩

def shelfTop : FilePath := ⟨["shelf".toList, "index.js".toList], by decide⟩

def shelfInner : FilePath := ⟨["shelf".toList, "lower".toList, "notes".toList], by decide⟩

-- The way up from the second file ends at the directory of the first.
def shelves : FileTree := ⟨⟨[⟨shelfTop, "one"⟩, ⟨shelfInner, "two"⟩], by decide⟩⟩

theorem shelf_collected : isAbsolute "/srv/./out/" = true ∧ (∀ path ∈ shelves.paths, Dotless path.segments) ∧
    FilePath.root ∉ shelves.paths ∧ shelfInner ∈ shelves.paths ∧
    (∃ dir ∈ directories shelves, Same (pathOf "/srv/./out/" dir) "/srv/out/shelf") ∧
    ¬ ∃ dir ∈ directories shelves, Same (pathOf "/srv/./out/" dir) "/srv/out" := by
  have absolute : isAbsolute "/srv/./out/" = true := by decide
  have dotless : ∀ path ∈ shelves.paths, Dotless path.segments := by decide
  have rootless : FilePath.root ∉ shelves.paths := by decide
  have listed : shelfInner ∈ shelves.paths := by decide
  obtain ⟨between, _, _⟩ := directories_between shelves "/srv/./out/" absolute dotless rootless
  refine ⟨absolute, dotless, rootless, listed, (between "/srv/out/shelf").mpr ?_, fun found => ?_⟩
  · exact ⟨by decide +kernel, shelfInner, listed, by decide +kernel⟩
  · exact absurd ((between "/srv/out").mp found).1 (by decide +kernel)

end ClientPackager
