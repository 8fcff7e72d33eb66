import LineLexer.Proofs.Files.Tree
import Mathlib.Data.List.Nodup

/-!
# Trees that list their entries in another order

Two trees may hold the same files and folders and differ in the order in which the folders list them
(`Entry.Reordered`). The same names lead to the same in both (`Entry.Reordered.leads`), and a path leads
to the same place (`FileSystem.Reordered.follow`).
-/

namespace LineLexer.Files

/-- The same is refused of two folders, but their listings may break off at different entries. -/
structure Access.Alike (access access' : Access) : Prop where
  barred : access'.barred = access.barred
  fault : access'.broken.map (·.fault) = access.broken.map (·.fault)

namespace Entry

/-- Names lead down from an entry to another one. All are short enough to be followed, and the folders
on the way let paths through. -/
inductive Leads (limits : PathLimits) : Entry → List String → Entry → Prop
  | here (entry : Entry) : Leads limits entry [] entry
  | under {entries : List (String × Entry)} {access : Access} {name : String} {entry last : Entry}
      {names : List String} (hentry : (name, entry) ∈ entries) (hopen : access.barred = none)
      (hfits : name.utf8ByteSize ≤ limits.name) (h : Leads limits entry names last) :
      Leads limits (.folder entries access) (name :: names) last

variable {limits : PathLimits} {entry entry' last : Entry} {entries entries' : List (String × Entry)}
  {access access' : Access} {name : String} {names : List String}

/-- No name leads on from a file. -/
theorem leads_file_iff {content : Content} :
    (file content).Leads limits names last ↔ names = [] ∧ last = .file content := by
  constructor
  · intro h
    cases h
    exact ⟨rfl, rfl⟩
  · rintro ⟨rfl, rfl⟩
    exact .here _

theorem leads_folder_iff :
    (folder entries access).Leads limits (name :: names) last ↔
      ∃ entry, (name, entry) ∈ entries ∧ access.barred = none ∧
        name.utf8ByteSize ≤ limits.name ∧ entry.Leads limits names last := by
  constructor
  · intro h
    cases h with | under hentry hopen hfits h =>
    exact ⟨_, hentry, hopen, hfits, h⟩
  · rintro ⟨entry, hentry, hopen, hfits, h⟩
    exact .under hentry hopen hfits h

/-- The same files and folders under the same names. Each folder may list them in another order. -/
inductive Reordered : Entry → Entry → Prop
  | file (content : Content) : Reordered (.file content) (.file content)
  | folder {entries entries' : List (String × Entry)} {access access' : Access}
      (hnames : (entries.map Prod.fst).Perm (entries'.map Prod.fst))
      (haccess : access.Alike access')
      (hentries : ∀ name entry entry', (name, entry) ∈ entries → (name, entry') ∈ entries' →
        Reordered entry entry') :
      Reordered (.folder entries access) (.folder entries' access')

/-- A name that one of the lists has is in the other one too. -/
theorem exists_entry_of_perm (hnames : (entries.map Prod.fst).Perm (entries'.map Prod.fst))
    {found : Entry} (hfound : (name, found) ∈ entries) : ∃ found', (name, found') ∈ entries' := by
  have hname : name ∈ entries'.map Prod.fst := hnames.mem_iff.mp (List.mem_map_of_mem hfound)
  obtain ⟨⟨_, found'⟩, hfound', rfl⟩ := List.mem_map.mp hname
  exact ⟨found', hfound'⟩

theorem Reordered.symm (h : entry.Reordered entry') : entry'.Reordered entry := by
  induction h with
  | file content => exact .file content
  | folder hnames haccess hentries ih =>
    exact .folder hnames.symm ⟨haccess.barred.symm, haccess.fault.symm⟩
      fun name found found' hfound hfound' => ih name found' found hfound' hfound

/-- The same names lead to the same. -/
theorem Reordered.leads (h : entry.Reordered entry') (hleads : entry.Leads limits names last) :
    ∃ last', entry'.Leads limits names last' ∧ last.Reordered last' := by
  induction hleads generalizing entry' with
  | here entry => exact ⟨entry', .here entry', h⟩
  | under hfound hopen hfits hleads ih =>
    cases h with | folder hnames haccess hentries =>
    obtain ⟨found', hfound'⟩ := exists_entry_of_perm hnames hfound
    obtain ⟨last', hleads', hlast⟩ := ih (hentries _ _ _ hfound hfound')
    exact ⟨last', .under hfound' (haccess.barred.trans hopen) hfits hleads', hlast⟩

theorem WellNamed.reordered (hnamed : entry.WellNamed) (h : entry.Reordered entry') :
    entry'.WellNamed := by
  induction hnamed generalizing entry' with
  | file content =>
    cases h
    exact .file content
  | folder access hdistinct hnames hentries ih =>
    cases h with | folder hperm haccess hsame =>
    refine .folder _ (hperm.nodup_iff.mp hdistinct) (fun listed hlisted => ?_)
      fun listed hlisted => ?_
    all_goals
      obtain ⟨name, found'⟩ := listed
      obtain ⟨found, hfound⟩ := exists_entry_of_perm hperm.symm hlisted
    · exact hnames (name, found) hfound
    · exact ih _ hfound (hsame name found found' hfound hlisted)

theorem reordered_of_perm (hdistinct : (entries.map Prod.fst).Nodup)
    (hsame : ∀ entry ∈ entries, entry.2.Reordered entry.2) (haccess : access.Alike access')
    (hperm : entries.Perm entries') : (folder entries access).Reordered (folder entries' access') := by
  refine .folder (hperm.map Prod.fst) haccess fun name found found' hfound hfound' => ?_
  have heq : (name, found) = (name, found') :=
    List.inj_on_of_nodup_map hdistinct hfound (hperm.mem_iff.mpr hfound') rfl
  cases heq
  exact hsame _ hfound

theorem WellNamed.reordered_self (h : entry.WellNamed) : entry.Reordered entry := by
  induction h with
  | file content => exact .file content
  | folder access hdistinct hnames hentries ih =>
    exact reordered_of_perm hdistinct ih ⟨rfl, rfl⟩ (.refl _)

/-- A folder may list what it holds in any order. -/
theorem WellNamed.reordered_perm (h : (Entry.folder entries access).WellNamed)
    (haccess : access.Alike access') (hperm : entries.Perm entries') :
    (Entry.folder entries access).Reordered (.folder entries' access') := by
  cases h with | folder _ hdistinct hnames hentries =>
  exact reordered_of_perm hdistinct (fun found hfound => (hentries found hfound).reordered_self)
    haccess hperm

/-- Under a name both list the same. -/
theorem Reordered.find? (h : entry.Reordered entry') {found : Entry}
    (hfound : entry.find? name = some found) :
    ∃ found', entry'.find? name = some found' ∧ found.Reordered found' := by
  have hmem := mem_of_find? hfound
  cases h with
  | file content => cases hmem
  | @folder _ entries' _ access' hnames haccess hentries =>
    obtain ⟨other, hother⟩ := exists_entry_of_perm hnames hmem
    obtain ⟨found', hfound'⟩ : ∃ found', (Entry.folder entries' access').find? name = some found' :=
      exists_find? hother
    exact ⟨found', hfound', hentries _ _ _ hmem (mem_of_find? hfound')⟩

end Entry

/-! ## Following a path -/

/-- Both trails have led to the same place, by the same folders. -/
structure Trail.Reordered (trail trail' : Trail) : Prop where
  folders : List.Forall₂ Entry.Reordered trail.folders trail'.folders
  here : trail.here.Reordered trail'.here

namespace Trail.Reordered

variable {trail trail' next : Trail} {segment : String}

theorem atRoot {root root' : Entry} (h : root.Reordered root') :
    (Trail.atRoot root).Reordered (Trail.atRoot root') := ⟨.nil, h⟩

theorem enter (h : trail.Reordered trail') (henter : trail.enter segment = .ok next) :
    ∃ next', trail'.enter segment = .ok next' ∧ next.Reordered next' := by
  rw [Trail.enter] at henter
  split at henter
  · rename_i found hfound
    cases henter
    obtain ⟨found', hfound', hsame⟩ := h.here.find? hfound
    exact ⟨_, by rw [Trail.enter, hfound'], .cons h.here h.folders, hsame⟩
  · cases henter

theorem leave (h : trail.Reordered trail') : trail.leave.Reordered trail'.leave := by
  obtain ⟨names, folders, here⟩ := trail
  obtain ⟨names', folders', here'⟩ := trail'
  obtain ⟨hfolders, hhere⟩ := h
  cases hfolders with
  | nil => exact ⟨.nil, hhere⟩
  | cons houter hrest => exact ⟨hrest, houter⟩

theorem step {limits : PathLimits} (h : trail.Reordered trail')
    (hstep : trail.step limits segment = .ok next) :
    ∃ next', trail'.step limits segment = .ok next' ∧ next.Reordered next' := by
  have hhere := h.here
  rw [Trail.step] at hstep ⊢
  generalize trail.here = here at hhere hstep
  generalize trail'.here = here' at hhere ⊢
  -- a step looks at the names and at what is barred, and these are the same
  cases hhere with
  | file content => cases hstep
  | folder hnames haccess hentries =>
    dsimp only at hstep ⊢
    rw [haccess.barred]
    split at hstep
    · cases hstep
      exact ⟨trail', if_pos ‹_›, h⟩
    rw [if_neg ‹_›]
    split at hstep
    · cases hstep
    split at hstep
    · cases hstep
      exact ⟨trail', if_pos ‹_›, h⟩
    rw [if_neg ‹_›]
    split at hstep
    · cases hstep
      exact ⟨_, if_pos ‹_›, h.leave⟩
    rw [if_neg ‹_›]
    split at hstep
    · cases hstep
    · rw [if_neg ‹_›]
      exact h.enter hstep

theorem steps {go : Trail → String → Except Fault Trail} {segments : List String} {last : Trail}
    (h : trail.Reordered trail') (hsteps : segments.foldlM go trail = .ok last)
    (hgo : ∀ {trail trail' segment next}, Trail.Reordered trail trail' →
      go trail segment = .ok next → ∃ next', go trail' segment = .ok next' ∧ next.Reordered next') :
    ∃ last', segments.foldlM go trail' = .ok last' ∧ last.Reordered last' := by
  induction segments generalizing trail trail' with
  | nil =>
    cases hsteps
    exact ⟨trail', rfl, h⟩
  | cons segment rest ih =>
    rw [List.foldlM_cons] at hsteps
    obtain ⟨next, hstep, hsteps⟩ := bind_eq_ok.mp hsteps
    obtain ⟨next', hstep', hnext⟩ := hgo h hstep
    obtain ⟨last', hsteps', hlast⟩ := ih hnext hsteps
    refine ⟨last', ?_, hlast⟩
    rw [List.foldlM_cons]
    exact bind_eq_ok.mpr ⟨next', hstep', hsteps'⟩

end Trail.Reordered

/-- The same files, in folders that may list them in another order. -/
structure FileSystem.Reordered (files files' : FileSystem) : Prop where
  root : files.root.Reordered files'.root
  working : files'.working = files.working
  limits : files'.limits = files.limits

namespace FileSystem

variable {files files' : FileSystem} {path : Path} {trail : Trail}

theorem Reordered.start (h : files.Reordered files') (hstart : files.start path = .ok trail) :
    ∃ trail', files'.start path = .ok trail' ∧ trail.Reordered trail' := by
  rw [FileSystem.start] at hstart ⊢
  split at hstart
  · cases hstart
    rename_i habsolute
    exact ⟨_, if_pos habsolute, .atRoot h.root⟩
  · rename_i habsolute
    rw [if_neg habsolute, h.working]
    exact Trail.Reordered.steps (.atRoot h.root) hstart Trail.Reordered.enter

/-- A path leads to the same place. -/
theorem Reordered.follow (h : files.Reordered files') (hfollow : files.follow path = .ok trail) :
    ∃ trail', files'.follow path = .ok trail' ∧ trail.Reordered trail' := by
  obtain ⟨hcheck, start, hstart, hsteps⟩ := follow_eq_ok_iff.mp hfollow
  obtain ⟨start', hstart', hsame⟩ := h.start hstart
  rw [← h.limits] at hcheck hsteps
  obtain ⟨trail', hsteps', hlast⟩ := hsame.steps hsteps Trail.Reordered.step
  exact ⟨trail', follow_eq_ok_iff.mpr ⟨hcheck, start', hstart', hsteps'⟩, hlast⟩

/-- If it is a folder, it holds the same. -/
theorem Reordered.follow_folder (h : files.Reordered files') {names : List String}
    {folders : List Entry} {entries : List (String × Entry)} {access : Access}
    (hfollow : files.follow path = .ok ⟨names, folders, .folder entries access⟩) :
    ∃ names' folders' entries' access',
      files'.follow path = .ok ⟨names', folders', .folder entries' access'⟩ ∧
      (Entry.folder entries access).Reordered (.folder entries' access') := by
  obtain ⟨⟨names', folders', here'⟩, hfollow', -, hsame⟩ := h.follow hfollow
  cases hsame with | folder hperm haccess hentries =>
  exact ⟨_, _, _, _, hfollow', .folder hperm haccess hentries⟩

end FileSystem
end LineLexer.Files
