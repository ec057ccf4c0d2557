import ClientPackager.Proofs.Disk.Running

set_option autoImplicit false

namespace ClientPackager

theorem run_bind_failed {ε α β : Type} (action : ExceptT ε (StateM Disk) α) (next : α → ExceptT ε (StateM Disk) β)
    (before after : Disk) (failure : ε) (failed : (action >>= next).run before = (.error failure, after)) :
    action.run before = (.error failure, after) ∨
      ∃ value mid, action.run before = (.ok value, mid) ∧ (next value).run mid = (.error failure, after) := by
  cases first : action.run before with
  | mk result mid =>
      cases result with
      | ok value => exact .inr ⟨value, mid, rfl, (run_bind_ok action next before mid value first).symm.trans failed⟩
      | error fault =>
          have same := (run_bind_error action next before mid fault first).symm.trans failed
          cases same
          exact .inl rfl

-- All that an action fails with is of one kind, whatever the disk is.
def FailsAs {ε α : Type} (kind : ε → Prop) (action : ExceptT ε (StateM Disk) α) : Prop :=
  ∀ before failure after, action.run before = (.error failure, after) → kind failure

section Kinds

variable {ε α β : Type} (kind : ε → Prop)

theorem fails_pure (value : α) : FailsAs kind (pure value) := by
  intro before failure after failed
  cases failed

theorem fails_lifted (given : StateM Disk α) : FailsAs kind (liftM given : ExceptT ε (StateM Disk) α) := by
  intro before failure after failed
  rw [run_lifted before (given before).2 given (given before).1 rfl] at failed
  cases failed

theorem fails_bind (action : ExceptT ε (StateM Disk) α) (next : α → ExceptT ε (StateM Disk) β)
    (first : FailsAs kind action) (later : ∀ value, FailsAs kind (next value)) : FailsAs kind (action >>= next) := by
  intro before failure after failed
  rcases run_bind_failed action next before after failure failed with here | ⟨value, mid, _, behind⟩
  · exact first before failure after here
  · exact later value mid failure after behind

theorem fails_each (act : α → ExceptT ε (StateM Disk) Unit) (values : List α)
    (each : ∀ value, FailsAs kind (act value)) : FailsAs kind (ClientPackager.each act values) := by
  induction values with
  | nil => exact fails_pure kind _
  | cons value rest ih =>
      rw [ClientPackager.each, List.forIn_cons]
      refine fails_bind kind _ _ (fails_bind kind _ _ (each value) fun _ => fails_pure kind _) fun step => ?_
      cases step with
      | done _ => exact fails_pure kind _
      | yield _ => exact ih

end Kinds

namespace Export

def OfDisk (fault : TreeFault) : Prop := ∃ path reason, fault = .disk path reason

theorem reported_fails {α : Type} (path : String) (action : StateM Disk (Except DiskFault α)) :
    FailsAs OfDisk (reportedAt path action) := by
  intro before failure after failed
  cases given : action before with
  | mk result mid =>
      cases result with
      | ok value =>
          rw [run_reported_ok path action before mid value given] at failed
          cases failed
      | error fault =>
          rw [run_reported_error path action before mid fault given] at failed
          cases failed
          exact ⟨path, fault.reason, rfl⟩

theorem write_fails (atomic : Bool) (temporary path : String) (content : FileContent) :
    FailsAs OfDisk (if atomic = true then do
        reportedAt temporary (FileStore.write (m := StateM Disk) temporary content)
        reportedAt path (FileStore.rename (m := StateM Disk) temporary path)
      else reportedAt path (FileStore.write (m := StateM Disk) path content)) := by
  split
  · exact fails_bind OfDisk _ _ (reported_fails _ _) fun _ => reported_fails _ _
  · exact reported_fails _ _

theorem save_fails (options : ExportOptions) (base : String) (file : TreeFile) :
    FailsAs OfDisk (save (m := StateM Disk) options base file) := by
  rw [save]
  split
  · exact fails_bind OfDisk _ _ (fails_pure OfDisk _) fun keep => by
      cases keep with
      | true => exact fails_pure OfDisk _
      | false => exact write_fails _ _ _ _
  · exact fails_bind OfDisk _ _ (fails_lifted OfDisk _) fun keep => by
      cases keep with
      | true => exact fails_pure OfDisk _
      | false => exact write_fails _ _ _ _

-- Once its base is found an export fails by the disk alone.
theorem run_failed (options : ExportOptions) (tree : FileTree) (base : String) (before after : Disk) (fault : TreeFault)
    (failed : (run (m := StateM Disk) options tree base).run before = (.error fault, after)) :
    OfDisk fault ∨ fault = .fileNotFound base ∧ after = before ∧ ∀ found, before.find base ≠ .ok found := by
  have asked : FileStore.pathExists (m := StateM Disk) base before = ((before.find base).toOption.isSome, before) := by
    simp only [FileStore.pathExists, FileStore.kind?, bind, StateT.bind]
    cases before.find base <;> rfl
  rw [run, run_bind_ok _ _ before before _ (run_lifted before before _ _ asked)] at failed
  cases found : before.find base with
  | error reason =>
      rw [found] at failed
      cases failed
      exact .inr ⟨rfl, rfl, by simp⟩
  | ok present =>
      simp only [found, Except.toOption, Option.isSome_some, Bool.not_true, Bool.false_eq_true, if_false] at failed
      refine .inl (fails_bind OfDisk _ _ (reported_fails _ _) (fun full => ?_) before fault after failed)
      refine fails_bind OfDisk _ _ (fails_each OfDisk _ _ fun dir => reported_fails _ _) fun _ => ?_
      exact fails_bind OfDisk _ _ (fails_each OfDisk _ _ fun file => save_fails options full file) fun _ =>
        fails_pure OfDisk _

end Export

end ClientPackager
