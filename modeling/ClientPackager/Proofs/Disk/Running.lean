import ClientPackager.Disk.Basic
import ClientPackager.Disk.Export
import ClientPackager.Reflection.Encoding

set_option autoImplicit false

namespace ClientPackager

section Steps

variable {ε α β : Type} (action : ExceptT ε (StateM Disk) α) (next : α → ExceptT ε (StateM Disk) β)
  (before after : Disk)

theorem run_bind_ok (value : α) (done : action.run before = (.ok value, after)) :
    (action >>= next).run before = (next value).run after := by
  simp only [ExceptT.run] at done ⊢
  simp only [bind, ExceptT.bind, ExceptT.mk, StateT.bind, done, ExceptT.bindCont]

theorem run_bind_error (failure : ε) (done : action.run before = (.error failure, after)) :
    (action >>= next).run before = (.error failure, after) := by
  simp only [ExceptT.run] at done ⊢
  simp only [bind, ExceptT.bind, ExceptT.mk, StateT.bind, done, ExceptT.bindCont]
  rfl

theorem run_lifted (given : StateM Disk α) (value : α) (done : given before = (value, after)) :
    (liftM given : ExceptT ε (StateM Disk) α).run before = (.ok value, after) := by
  simp only [liftM, monadLift, MonadLift.monadLift, ExceptT.lift, Functor.map, StateT.map, ExceptT.run, ExceptT.mk,
    bind, done]
  rfl

end Steps

section Loops

variable {ε α : Type} (act : α → ExceptT ε (StateM Disk) Unit) (value : α) (rest : List α) (before after : Disk)

-- What a loop over some values comes to.
def each (values : List α) : ExceptT ε (StateM Disk) PUnit :=
  forIn values PUnit.unit fun value _ => do
    act value
    pure (ForInStep.yield PUnit.unit)

theorem run_each_nil : (each act []).run before = (.ok (), before) := rfl

theorem run_each_ok (done : (act value).run before = (.ok (), after)) :
    (each act (value :: rest)).run before = (each act rest).run after := by
  have first : (do act value; pure (ForInStep.yield PUnit.unit) : ExceptT ε (StateM Disk) _).run before =
      (.ok (ForInStep.yield PUnit.unit), after) := run_bind_ok _ _ before after () done
  rw [each, List.forIn_cons, run_bind_ok _ _ before after _ first]
  rfl

theorem run_each_error (failure : ε) (done : (act value).run before = (.error failure, after)) :
    (each act (value :: rest)).run before = (.error failure, after) := by
  have first : (do act value; pure (ForInStep.yield PUnit.unit) : ExceptT ε (StateM Disk) _).run before =
      (.error failure, after) := run_bind_error _ _ before after failure done
  rw [each, List.forIn_cons, run_bind_error _ _ before after failure first]

end Loops

theorem run_reported_ok {α : Type} (path : String) (action : StateM Disk (Except DiskFault α)) (before after : Disk)
    (value : α) (done : action before = (.ok value, after)) :
    (Export.reportedAt path action).run before = (.ok value, after) := by
  simp only [Export.reportedAt, ExceptT.run, ExceptT.mk, bind, StateT.bind, done]
  rfl

theorem run_reported_error {α : Type} (path : String) (action : StateM Disk (Except DiskFault α))
    (before after : Disk) (fault : DiskFault) (done : action before = (.error fault, after)) :
    (Export.reportedAt path action).run before = (.error (.disk path fault.reason), after) := by
  simp only [Export.reportedAt, ExceptT.run, ExceptT.mk, bind, StateT.bind, done]
  rfl

-- What a document on a disk comes to.
def Disk.document (disk : Disk) (path : String) : Outcome Reflection :=
  match disk.readText path with
  | .ok text => Reflection.ofFileText path text
  | .error _ => .error (.io path)

theorem run_load (disk : Disk) (path : String) :
    Reflection.load (m := StateM Disk) path disk = (disk.document path, disk) := by
  cases read : disk.readText path <;>
    (simp only [Reflection.load, FileStore.readText, bind, StateT.bind, Disk.document, read]; rfl)

theorem Disk.document_ok (disk : Disk) (path : String) (doc : Reflection) : disk.document path = .ok doc ↔
    ∃ text, disk.readText path = .ok text ∧ Reflection.ofFileText path text = .ok doc := by
  cases read : disk.readText path <;> simp [Disk.document, read]

end ClientPackager
