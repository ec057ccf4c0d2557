import ClientPackager.Proofs.Catalog.Offers
import ClientPackager.Proofs.Contract.Encoding
import ClientPackager.Proofs.Disk.Running

set_option autoImplicit false

namespace ClientPackager.Catalog

variable (order : MethodOrder) (disk : Disk) (dir : String)

def isFileAt (path : String) : Bool :=
  match disk.find path with
  | .ok (_, .file _) => true
  | _ => false

-- The documents among some names, in the order of the names.
def documentsAmong (names : List String) : List String :=
  ((names.mergeSort fun a b => !decide (b < a)).map (DiskPath.join dir)).filter fun path =>
    Reflection.isDocument path && isFileAt disk path

theorem is_file_run (path : String) : FileStore.isFile (m := StateM Disk) path disk = (isFileAt disk path, disk) := by
  simp only [FileStore.isFile, FileStore.kind?, bind, StateT.bind, isFileAt]
  cases disk.find path with
  | error fault => rfl
  | ok found =>
      obtain ⟨place, node⟩ := found
      cases node <;> rfl

theorem filter_run (paths : List String) :
    paths.filterM (FileStore.isFile (m := StateM Disk)) disk = (paths.filter (isFileAt disk), disk) := by
  have onto (kept : List String) : paths.filterAuxM (FileStore.isFile (m := StateM Disk)) kept disk =
      ((paths.filter (isFileAt disk)).reverse ++ kept, disk) := by
    induction paths generalizing kept with
    | nil => rfl
    | cons path rest ih =>
        simp only [List.filterAuxM, bind, StateT.bind, is_file_run, ih]
        cases held : isFileAt disk path <;> simp [held]
  simp only [List.filterM, bind, StateT.bind, onto, List.append_nil]
  exact congrArg (·, disk) (List.reverse_reverse _)

theorem documents_missing (fault : DiskFault) (missing : disk.names dir = .error fault) :
    documents (m := StateM Disk) dir disk = (.error (.io dir), disk) := by
  simp only [documents, FileStore.names, bind, StateT.bind, missing]
  rfl

theorem documents_found (names : List String) (named : disk.names dir = .ok names) :
    documents (m := StateM Disk) dir disk = (.ok (documentsAmong disk dir names), disk) := by
  have kept : documentsAmong disk dir names =
      (((names.mergeSort fun a b => !decide (b < a)).map (DiskPath.join dir)).filter Reflection.isDocument).filter
        (isFileAt disk) := by
    rw [List.filter_filter, documentsAmong]
    exact List.filter_congr fun path _ => Bool.and_comm _ _
  simp only [documents, FileStore.names, bind, StateT.bind, named, filter_run, kept]
  rfl

theorem fold_run {ε α β : Type} (act : β → α → ExceptT ε (StateM Disk) β) (step : β → α → Except ε β)
    (alike : ∀ state value, (act state value).run disk = (step state value, disk)) (values : List α) (start : β) :
    (values.foldlM act start).run disk = (values.foldlM step start, disk) := by
  induction values generalizing start with
  | nil => rfl
  | cons value rest ih =>
      rw [List.foldlM_cons, List.foldlM_cons]
      cases taken : step start value with
      | error fault => exact run_bind_error _ _ disk disk fault (by rw [alike, taken])
      | ok next =>
          rw [run_bind_ok _ _ disk disk next (by rw [alike, taken])]
          exact ih next

theorem collect_run (catalog : Catalog) (path : String) :
    (do let doc ← ExceptT.mk (Reflection.load (m := StateM Disk) path)
        ExceptT.mk (return collect order catalog doc) : ExceptT Fault (StateM Disk) Catalog).run disk =
      (disk.document path >>= collect order catalog, disk) := by
  cases read : disk.document path with
  | error fault => exact run_bind_error _ _ disk disk fault (by rw [← read]; exact run_load disk path)
  | ok doc =>
      rw [run_bind_ok _ _ disk disk doc (by rw [← read]; exact run_load disk path)]
      rfl

theorem fold_split (paths : List String) (start next : Catalog) :
    paths.foldlM (fun catalog path => disk.document path >>= collect order catalog) start = .ok next ↔
      ∃ docs, List.Forall₂ (fun path doc => disk.document path = .ok doc) paths docs ∧
        docs.foldlM (collect order) start = .ok next := by
  induction paths generalizing start with
  | nil => simp
  | cons path rest ih =>
      simp only [List.foldlM_cons, bind_eq_ok, ih]
      constructor
      · rintro ⟨mid, ⟨doc, read, collected⟩, docs, others, later⟩
        exact ⟨doc :: docs, .cons read others, by rw [List.foldlM_cons, collected]; exact later⟩
      · rintro ⟨_, read | ⟨read, others⟩, later⟩
        rw [List.foldlM_cons, bind_eq_ok] at later
        obtain ⟨mid, collected, later⟩ := later
        exact ⟨mid, ⟨_, read, collected⟩, _, others, later⟩

theorem load_directory_ok (after : Disk) (catalog : Catalog) :
    (loadDirectory (m := StateM Disk) order dir).run disk = (.ok catalog, after) ↔
      after = disk ∧ ∃ names docs, disk.names dir = .ok names ∧
        List.Forall₂ (fun path doc => disk.document path = .ok doc) (documentsAmong disk dir names) docs ∧
        (∀ doc ∈ docs, Legible order doc) ∧ catalog = ofList (docs.filterMap (contract? order)) := by
  rw [loadDirectory]
  cases named : disk.names dir with
  | error fault =>
      rw [run_bind_error (ExceptT.mk (documents dir)) _ disk disk (.io dir) (documents_missing disk dir fault named)]
      constructor
      · intro same
        cases same
      · rintro ⟨_, _, _, found, _⟩
        cases found
  | ok names =>
      rw [run_bind_ok (ExceptT.mk (documents dir)) _ disk disk _ (documents_found disk dir names named),
        fold_run disk _ _ (collect_run order disk), Prod.mk.injEq, fold_split, and_comm, @eq_comm _ disk]
      simp only [collect_all_ok, ofList, Except.ok.injEq, exists_and_left, exists_eq_left']

-- The paths are those of the documents in a directory, by the order of their names.
def Listed (paths : List String) : Prop := ∃ names sorted : List String,
  disk.names dir = .ok names ∧ sorted.Perm names ∧ sorted.Pairwise (· ≤ ·) ∧
    paths = (sorted.map (DiskPath.join dir)).filter fun path => Reflection.isDocument path && isFileAt disk path

theorem names_sorted (names : List String) : (names.mergeSort fun a b => !decide (b < a)).Pairwise (· ≤ ·) := by
  have compared : (fun a b : String => !decide (b < a)) = fun a b => decide (a ≤ b) := by
    funext a b
    simp [← String.not_lt]
  have trans (a b c : String) (front : decide (a ≤ b) = true) (back : decide (b ≤ c) = true) : decide (a ≤ c) = true :=
    decide_eq_true (String.le_trans (of_decide_eq_true front) (of_decide_eq_true back))
  have total (a b : String) : (decide (a ≤ b) || decide (b ≤ a)) = true := by simpa using String.le_total a b
  rw [compared]
  simpa using List.pairwise_mergeSort trans total names

theorem documents_listed (names : List String) (named : disk.names dir = .ok names) :
    Listed disk dir (documentsAmong disk dir names) :=
  ⟨names, _, named, List.mergeSort_perm names _, names_sorted names, rfl⟩

-- Names come in one ascending order, in whatever order the directory gives them.
theorem sorted_names (names sorted : List String) (same : sorted.Perm names) (ascending : sorted.Pairwise (· ≤ ·)) :
    (names.mergeSort fun a b => !decide (b < a)) = sorted :=
  List.Perm.eq_of_pairwise (fun _ _ _ _ => String.le_antisymm) (names_sorted names) ascending
    ((List.mergeSort_perm names _).trans same.symm)

-- Of the documents in a directory each is in the catalog under its route, the last
-- one of a route, unless the name of its package is wrong.
theorem loading_complete_iff (after : Disk) (catalog : Catalog)
    (loaded : (loadDirectory (m := StateM Disk) order dir).run disk = (.ok catalog, after)) :
    after = disk ∧ ∃ paths docs, Listed disk dir paths ∧
      List.Forall₂ (fun path doc => disk.document path = .ok doc) paths docs ∧ Holds order docs catalog ∧
      (Complete order docs catalog ↔ ∀ doc ∈ docs, misnamed doc = true → routeIn? doc = none) := by
  obtain ⟨same, names, docs, named, read, legible, rfl⟩ := (load_directory_ok order disk dir after catalog).mp loaded
  have holds := documents_held order docs legible
  exact ⟨same, _, docs, documents_listed disk dir names named, read, holds, complete_iff_named order docs _ holds⟩

def shelf (text : String) : Disk :=
  (Disk.empty ["contracts"]).put ["contracts", "ledger.json"] (.file (.text text))

def ledger (package : Option String) : Reflection :=
  ⟨"org.demo.LedgerImpl", some " org.demo.Ledger", package, [], []⟩

def ledgerContract : Contract := ⟨⟨"org.demo.Ledger"⟩, "org.demo.LedgerImpl", none, .declaration, [], ⟨[]⟩⟩

theorem json_document (path text : String) (doc : Reflection) (named : DiskPath.extension? path = some "json")
    (read : disk.readText path = .ok text) (parsed : Reflection.ofJsonText text = .ok doc) :
    disk.document path = .ok doc := by
  simp only [Disk.document, read, Reflection.of_json_file text named, parsed]

theorem json_documents (names sorted paths : List String) (same : sorted.Perm names)
    (ascending : sorted.Pairwise (· ≤ ·)) (joined : sorted.map (DiskPath.join dir) = paths)
    (named : ∀ path ∈ paths, DiskPath.extension? path = some "json")
    (held : ∀ path ∈ paths, isFileAt disk path = true) : documentsAmong disk dir names = paths := by
  rw [documentsAmong, sorted_names names sorted same ascending, joined, List.filter_eq_self]
  intro path listed
  rw [Reflection.json_is_document (named path listed), held path listed, Bool.and_self]

theorem shelf_read (text : String) (doc : Reflection) (parsed : Reflection.ofJsonText text = .ok doc) :
    (shelf text).document "/contracts/ledger.json" = .ok doc :=
  json_document _ _ text doc rfl rfl parsed

theorem shelf_loads (text : String) (doc : Reflection) (parsed : Reflection.ofJsonText text = .ok doc)
    (legible : Legible .declaration doc) :
    (loadDirectory (m := StateM Disk) .declaration "/contracts").run (shelf text) =
      (.ok (ofList ([doc].filterMap (contract? .declaration))), shelf text) := by
  refine (load_directory_ok _ _ _ _ _).mpr ⟨rfl, ["ledger.json"], [doc], rfl, ?_, by simpa using legible, rfl⟩
  have path : documentsAmong (shelf text) "/contracts" ["ledger.json"] = ["/contracts/ledger.json"] :=
    json_documents (shelf text) "/contracts" _ ["ledger.json"] _ (.refl _) (List.pairwise_singleton _ _) (by decide)
      (by decide) fun path listed => by
        obtain rfl := List.mem_singleton.mp listed
        rfl
  rw [path]
  exact .cons (shelf_read text doc parsed) .nil

theorem methodless_parsed (text typeName route : String) (package : Option String)
    (written : text = (Reflection.brief typeName route package []).compact) :
    Reflection.ofJsonText text = .ok ⟨typeName, some route, package, [], []⟩ := by
  rw [written]
  exact Reflection.brief_decoded _ _ _ _ _ (by cases package <;> rfl)

def ledgerText : String := "[\"org.demo.LedgerImpl\",\" org.demo.Ledger\",null,[]]"

def misnamedText : String := "[\"org.demo.LedgerImpl\",\" org.demo.Ledger\",\"no name\",[]]"

theorem ledger_parsed : Reflection.ofJsonText ledgerText = .ok (ledger none) :=
  methodless_parsed _ _ _ none rfl

theorem misnamed_parsed : Reflection.ofJsonText misnamedText = .ok (ledger (some "no name")) :=
  methodless_parsed _ _ _ (some "no name") rfl

def formerText : String := "[\"org.demo.FormerLedger\",\"org.demo.Ledger\",null,[]]"

def former : Reflection := ⟨"org.demo.FormerLedger", some "org.demo.Ledger", none, [], []⟩

def tellerText : String := "[\"org.demo.Teller\",\"org.demo.Teller\",null,[]]"

def teller : Reflection := ⟨"org.demo.Teller", some "org.demo.Teller", none, [], []⟩

def tellerContract : Contract := ⟨⟨"org.demo.Teller"⟩, "org.demo.Teller", none, .declaration, [], ⟨[]⟩⟩

theorem former_parsed : Reflection.ofJsonText formerText = .ok former :=
  methodless_parsed _ _ _ none rfl

theorem teller_parsed : Reflection.ofJsonText tellerText = .ok teller :=
  methodless_parsed _ _ _ none rfl

-- The directory names its files in another order than that of their names.
def cabinet : Disk :=
  ((shelf ledgerText).put ["contracts", "teller.json"] (.file (.text tellerText))).put ["contracts", "former.json"]
    (.file (.text formerText))

def cabinetPaths : List String := ["/contracts/former.json", "/contracts/ledger.json", "/contracts/teller.json"]

theorem cabinet_paths :
    documentsAmong cabinet "/contracts" ["ledger.json", "teller.json", "former.json"] = cabinetPaths := by
  have held : cabinetPaths.all (isFileAt cabinet) = true := rfl
  exact json_documents cabinet "/contracts" _ ["former.json", "ledger.json", "teller.json"] cabinetPaths (by decide)
    (by decide) (by decide) (by decide) (List.all_eq_true.mp held)

theorem cabinet_read : List.Forall₂ (fun path doc => cabinet.document path = .ok doc) cabinetPaths
    [former, ledger none, teller] :=
  .cons (json_document _ _ formerText former rfl rfl former_parsed) <|
    .cons (json_document _ _ ledgerText (ledger none) rfl rfl ledger_parsed) <|
      .cons (json_document _ _ tellerText teller rfl rfl teller_parsed) .nil

-- Two documents have one route: the contract of the later one stands in the place of
-- the earlier.
theorem ledger_represented : ∃ catalog paths docs,
    (loadDirectory (m := StateM Disk) .declaration "/contracts").run cabinet = (.ok catalog, cabinet) ∧
    catalog.toList = [ledgerContract, tellerContract] ∧ Listed cabinet "/contracts" paths ∧
    List.Forall₂ (fun path doc => cabinet.document path = .ok doc) paths docs ∧
    Holds .declaration docs catalog := by
  have loaded : (loadDirectory (m := StateM Disk) .declaration "/contracts").run cabinet =
      (.ok (ofList ([former, ledger none, teller].filterMap (contract? .declaration))), cabinet) := by
    refine (load_directory_ok _ _ _ _ _).mpr ⟨rfl, ["ledger.json", "teller.json", "former.json"], _, rfl, ?_, ?_, rfl⟩
    · rw [cabinet_paths]
      exact cabinet_read
    · simp only [List.forall_mem_cons, List.not_mem_nil, false_implies, implies_true, and_true]
      exact ⟨rfl, rfl, rfl⟩
  obtain ⟨_, paths, docs, listed, read, holds, _⟩ := loading_complete_iff _ _ _ _ _ loaded
  exact ⟨_, paths, docs, loaded, rfl, listed, read, holds⟩

-- A document with a route is passed over, and nothing is said about it.
theorem misnamed_ledger_lost : (shelf misnamedText).document "/contracts/ledger.json" = .ok (ledger (some "no name")) ∧
    routeIn? (ledger (some "no name")) = some ⟨"org.demo.Ledger"⟩ ∧
    ∃ catalog, (loadDirectory (m := StateM Disk) .declaration "/contracts").run (shelf misnamedText) =
      (.ok catalog, shelf misnamedText) ∧ catalog.toList = [] := by
  exact ⟨shelf_read misnamedText _ misnamed_parsed, rfl, _, shelf_loads misnamedText _ misnamed_parsed rfl, rfl⟩

end ClientPackager.Catalog
