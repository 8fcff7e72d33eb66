import LineLexer.Proofs.Batch.Discovery
import LineLexer.Proofs.Files.Reordered
import LineLexer.Text.Bytes

/-!
# Which files are found

A batch finds the files of a tree that its config takes, each one once and in the order of the steps of
their paths, whatever the order is in which the folders list their entries (`answers_discover_accepted`).
It fails if there are none, or too many, or if a folder that it visits cannot be listed. So it may find
none though there is one, whose path is too long to be followed, and where there is none it may have
something else to tell (`not_noFilesFound_iff_rejectsAll`).
-/

namespace LineLexer

open Diagnostics Files

/-! ## The order of paths -/

namespace Files

namespace Component

/-- Names come last. -/
def rank : Component → Nat
  | root => 0
  | current => 1
  | parent => 2
  | name _ => 3

/-- The root comes first, then a dot, then two dots. Names stand in the order of their texts. -/
def Before (a b : Component) : Prop :=
  a.rank < b.rank ∨ ∃ text text', a = .name text ∧ b = .name text' ∧ text < text'

theorem before_of_orderKey_lt {a b : Component} (h : a.orderKey < b.orderKey) : a.Before b := by
  have hlex : List.Lex (· < ·) a.orderKey.toList b.orderKey.toList := h
  rw [toList_orderKey, toList_orderKey] at hlex
  -- the first characters of the keys stand in the order of the ranks
  cases a <;> cases b
  case name.name text text' =>
    cases hlex with
    | rel hlt => exact absurd hlt (by decide)
    | cons hlex => exact .inr ⟨text, text', rfl, rfl, hlex⟩
  case root.current | root.parent | root.name | current.parent | current.name | parent.name =>
    exact .inl (by simp [rank])
  case root.root | current.current | parent.parent =>
    cases hlex with
    | rel hlt => exact absurd hlt (by decide)
    | cons hlex => cases hlex
  all_goals
    cases hlex with | rel hlt =>
    exact absurd hlt (by decide)

end Component

namespace Path

variable {a b : Path}

/-- Paths stand in the order of their first steps that differ. -/
def Before (a b : Path) : Prop := List.Lex Component.Before a.components b.components

theorem lex_of_orderKeys {steps steps' : List Component}
    (h : List.Lex (· < ·) (steps.map Component.orderKey) (steps'.map Component.orderKey)) :
    List.Lex Component.Before steps steps' := by
  induction steps generalizing steps' with
  | nil =>
    cases steps' with
    | nil => cases h
    | cons step' rest' => exact .nil
  | cons step rest ih =>
    cases steps' with
    | nil => cases h
    | cons step' rest' =>
      rw [List.map_cons, List.map_cons] at h
      generalize hkey : step'.orderKey = key at h
      cases h with
      | rel hlt => exact .rel (Component.before_of_orderKey_lt (hkey ▸ hlt))
      | cons hlex =>
        rw [Component.orderKey_injective hkey]
        exact .cons (ih hlex)

/-- Paths with different steps stand one before the other. -/
theorem before_of_le (hle : a.le b = true) (hne : a.components ≠ b.components) : a.Before b := by
  have hkeys : a.orderKey ≠ b.orderKey := fun heq =>
    hne (Component.map_orderKey_injective heq)
  refine lex_of_orderKeys ?_
  obtain hlt | heq := List.le_iff_lt_or_eq.mp (le_iff.mp hle)
  · exact hlt
  · exact absurd heq hkeys

end Path

end Files

namespace Batch

variable {limits : PathLimits} {config : Config} {path found : Path} {folder folder' : Entry}
  {entries entries' : List (String × Entry)} {access access' : Access} {all : List Path}

/-! ## Folders that list their entries in another order -/

theorem Config.Takes.reordered (h : folder.Reordered folder')
    (htakes : config.Takes limits path folder found) : config.Takes limits path folder' found := by
  obtain ⟨names, content, hleads, hrest⟩ := htakes
  obtain ⟨last, hleads', hlast⟩ := h.leads hleads
  cases hlast
  exact ⟨names, content, hleads', hrest⟩

theorem Config.Visits.reordered (h : folder.Reordered folder')
    (hvisits : config.Visits limits path folder access) :
    ∃ access', config.Visits limits path folder' access' ∧ access.Alike access' := by
  obtain ⟨names, below, hleads, hvisited⟩ := hvisits
  obtain ⟨last, hleads', hlast⟩ := h.leads hleads
  cases hlast with | folder _ haccess _ =>
  exact ⟨_, ⟨names, _, hleads', hvisited⟩, haccess⟩

/-- A visit that comes to its end does so in whatever order the folders list their entries, and it finds
the same files. -/
theorem visit_reordered (hnames : (Entry.folder entries access).WellNamed)
    (h : (Entry.folder entries access).Reordered (.folder entries' access')) (hpath : path.text ≠ "")
    (hvisit : visit limits config path access entries = .ok all) :
    ∃ all', visit limits config path access' entries' = .ok all' ∧ all'.Perm all := by
  cases hvisit' : visit limits config path access' entries' with
  | error fault =>
    obtain ⟨last, hvisits, hbroken⟩ := visits_of_visit hpath hvisit'
    obtain ⟨last', hvisits', halike⟩ := hvisits.reordered h.symm
    have hfault := halike.fault
    rw [unbroken_of_visit hpath hvisit hvisits', hbroken] at hfault
    cases hfault
  | ok all' =>
    have hdistinct := distinct_of_visit hnames hpath hvisit
    have hdistinct' := distinct_of_visit (hnames.reordered h) hpath hvisit'
    refine ⟨all', rfl, (List.perm_ext_iff_of_nodup (.of_map _ hdistinct') (.of_map _ hdistinct)).mpr ?_⟩
    intro found
    rw [mem_of_visit hpath hvisit, mem_of_visit hpath hvisit']
    exact ⟨.reordered h.symm, .reordered h⟩

/-- Sorting takes the order away in which distinct files were found. -/
theorem mergeSort_of_perm {all' : List Path} (hdistinct : (all.map Path.components).Nodup)
    (hperm : all'.Perm all) : all'.mergeSort Path.le = all.mergeSort Path.le := by
  have hsorted : (all'.mergeSort Path.le).Perm (all.mergeSort Path.le) :=
    (List.mergeSort_perm _ _).trans (hperm.trans (List.mergeSort_perm _ _).symm)
  -- no two files have the same components
  refine hsorted.eq_of_pairwise (fun a b ha hb hab hba => ?_) (Path.pairwise_mergeSort id _)
    (Path.pairwise_mergeSort id _)
  have hmem := hperm.mem_iff.mp (List.mem_mergeSort.mp ha)
  exact List.inj_on_of_nodup_map hdistinct hmem (List.mem_mergeSort.mp hb)
    (Path.components_eq_of_le hab hba)

theorem pairwise_before (hdistinct : (all.map Path.components).Nodup) :
    (all.mergeSort Path.le).Pairwise Path.Before := by
  have hsorted : (all.mergeSort Path.le).Pairwise fun a b => a.le b = true :=
    Path.pairwise_mergeSort id all
  rw [← ((List.mergeSort_perm all Path.le).map _).nodup_iff, List.Nodup, List.pairwise_map]
    at hdistinct
  exact (hsorted.and hdistinct).imp fun h => Path.before_of_le h.1 h.2

/-! ## What a batch finds -/

variable {files files' : FileSystem} {trail : Trail}

/-- The answer if the visit comes to its end. -/
theorem answers_discover_of_visit {names : List String} {folders : List Entry}
    (hfollow : files.follow path = .ok ⟨names, folders, .folder entries access⟩)
    (hvisit : visit files.limits config path access entries = .ok all) :
    let accepted := all.mergeSort Path.le
    Answers (discover files config path)
      (if accepted = [] then .error (.noFilesFound path.text)
      else if Limits.filesPerBatch < accepted.length then
        .error (.tooManyFiles accepted.length Limits.filesPerBatch)
      else .ok (config.cut accepted)) := by
  have hanswer := answers_discover files config path
  rw [filesOf, discover?, hfollow] at hanswer
  dsimp only at hanswer ⊢
  rw [hvisit] at hanswer
  have hempty : all.mergeSort Path.le = [] ↔ all = [] := by
    rw [← List.length_eq_zero_iff, List.length_mergeSort, List.length_eq_zero_iff]
  simp only [List.isEmpty_iff] at hanswer
  simp only [hempty, List.length_mergeSort]
  convert hanswer using 1
  split
  · rfl
  · split <;> rfl

theorem answers_discover_of_fault {names : List String} {folders : List Entry} {fault : Fault}
    (hfollow : files.follow path = .ok ⟨names, folders, .folder entries access⟩)
    (hvisit : visit files.limits config path access entries = .error fault) :
    Answers (discover files config path) (.error (.unlistable fault.message)) := by
  have hanswer := answers_discover files config path
  rw [filesOf, discover?, hfollow] at hanswer
  dsimp only at hanswer
  rwa [hvisit] at hanswer

/-- If a folder can be listed, and those below it that are visited, all is found that the config takes,
and no order of the listings changes what is answered. -/
theorem answers_discover_of_unbroken (hhere : (Entry.folder entries access).WellNamed)
    {names : List String} {folders : List Entry}
    (hfollow : files.follow path = .ok ⟨names, folders, .folder entries access⟩)
    (hunbroken : ∀ last, config.Visits files.limits path (.folder entries access) last →
      last.broken = none) :
    ∃ accepted : List Path,
      (∀ found, found ∈ accepted ↔
        config.Takes files.limits path (.folder entries access) found) ∧
      accepted.Nodup ∧ accepted.Pairwise Path.Before ∧
      ∀ files', files.Reordered files' → Answers (discover files' config path)
        (if accepted = [] then .error (.noFilesFound path.text)
        else if Limits.filesPerBatch < accepted.length then
          .error (.tooManyFiles accepted.length Limits.filesPerBatch)
        else .ok (config.cut accepted)) := by
  have hpath := path_ne_of_follow hfollow
  cases hvisit : visit files.limits config path access entries with
  | error fault =>
    obtain ⟨last, hvisits, hbroken⟩ := visits_of_visit hpath hvisit
    rw [hunbroken last hvisits] at hbroken
    cases hbroken
  | ok all =>
    have hdistinct := distinct_of_visit hhere hpath hvisit
    refine ⟨all.mergeSort Path.le, fun found => ?_, ?_, pairwise_before hdistinct,
      fun files' h => ?_⟩
    · rw [List.mem_mergeSort]
      exact mem_of_visit hpath hvisit
    · exact (List.mergeSort_perm _ _).nodup_iff.mpr (.of_map _ hdistinct)
    · -- what is found there differs in its order only, which is lost by sorting
      obtain ⟨names', folders', entries', access', hfollow', hsame⟩ := h.follow_folder hfollow
      obtain ⟨all', hvisit', hperm⟩ := visit_reordered hhere hsame hpath hvisit
      rw [← mergeSort_of_perm hdistinct hperm]
      exact answers_discover_of_visit hfollow' (h.limits ▸ hvisit')

/-- If one of the folders that are visited cannot be listed, the search fails at such a folder. -/
theorem answers_discover_of_broken {names : List String} {folders : List Entry}
    (hfollow : files.follow path = .ok ⟨names, folders, .folder entries access⟩) {last : Access}
    (hvisits : config.Visits files.limits path (.folder entries access) last)
    (hbroken : last.broken ≠ none) (h : files.Reordered files') : ∃ last' broken,
      config.Visits files.limits path (.folder entries access) last' ∧ last'.broken = some broken ∧
      Answers (discover files' config path) (.error (.unlistable broken.fault.message)) := by
  have hpath := path_ne_of_follow hfollow
  obtain ⟨names', folders', entries', access', hfollow', hsame⟩ := h.follow_folder hfollow
  cases hvisit' : visit files'.limits config path access' entries' with
  | ok all' =>
    -- the folder that cannot be listed is visited in any order
    obtain ⟨last', hvisits', halike⟩ := hvisits.reordered hsame
    have hfault := halike.fault
    rw [unbroken_of_visit hpath (h.limits ▸ hvisit') hvisits'] at hfault
    exact absurd (Option.map_eq_none_iff.mp hfault.symm) hbroken
  | error fault =>
    obtain ⟨last', hvisits', hbroken'⟩ := visits_of_visit hpath hvisit'
    obtain ⟨last'', hvisits'', halike⟩ := hvisits'.reordered hsame.symm
    rw [← halike.fault, Option.map_eq_some_iff] at hbroken'
    obtain ⟨broken, hbroken', rfl⟩ := hbroken'
    exact ⟨last'', broken, h.limits ▸ hvisits'', hbroken',
      answers_discover_of_fault hfollow' hvisit'⟩

/-- If the folders can be listed, the files of a batch are those of the tree that the config takes, each
one once and in the order of the steps of their paths, in whatever order the folders list their entries.
There is an error if there are none of them or too many, however many are asked for. If one of the
folders cannot be listed to its end, the error tells the fault of such a folder. -/
theorem answers_discover_accepted (hnames : files.root.WellNamed)
    (hfollow : files.follow path = .ok trail) (hfolder : trail.here.isFolder = true) :
    ((∀ access, config.Visits files.limits path trail.here access → access.broken = none) →
      ∃ accepted : List Path,
        (∀ found, found ∈ accepted ↔ config.Takes files.limits path trail.here found) ∧
        accepted.Nodup ∧ accepted.Pairwise Path.Before ∧
        ∀ files', files.Reordered files' → Answers (discover files' config path)
          (if accepted = [] then .error (.noFilesFound path.text)
          else if Limits.filesPerBatch < accepted.length then
            .error (.tooManyFiles accepted.length Limits.filesPerBatch)
          else .ok (config.cut accepted))) ∧
    ((∃ access, config.Visits files.limits path trail.here access ∧ access.broken ≠ none) →
      ∀ files', files.Reordered files' → ∃ access broken,
        config.Visits files.limits path trail.here access ∧ access.broken = some broken ∧
        Answers (discover files' config path) (.error (.unlistable broken.fault.message))) := by
  have hhere := (FileSystem.wellNamed_follow hnames hfollow).here
  obtain ⟨names, folders, here⟩ := trail
  cases here with
  | file content => cases hfolder
  | folder entries access =>
    refine ⟨answers_discover_of_unbroken hhere hfollow, ?_⟩
    rintro ⟨last, hvisits, hbroken⟩ files' h
    exact answers_discover_of_broken hfollow hvisits hbroken h

/-- One of the files below has the extension in capital letters, one has another extension. -/
def sampleFolder : List (String × Entry) :=
  [("sub", .folder [("c.txt", .file (.plain ⟨#[]⟩)), ("a.JCL", .file (.plain ⟨#[]⟩))] .full),
    ("b.jcl", .file (.plain ⟨#[]⟩))]

/-- The first one of the files with an extension. -/
def firstConfig : Config := ⟨1, true, ["jcl"], some 1, false, false⟩

theorem wellNamed_sampleFolder : (Entry.folder sampleFolder .full).WellNamed := by
  refine .folder _ (by decide) (by decide) ?_
  simp only [sampleFolder, List.forall_mem_cons]
  refine ⟨.folder _ (by decide) (by decide) ?_, .file _, List.forall_mem_nil _⟩
  simp only [List.forall_mem_cons]
  exact ⟨.file _, .file _, List.forall_mem_nil _⟩

theorem visit_sampleFolder :
    visit .common firstConfig ⟨"."⟩ .full sampleFolder = .ok [⟨"./sub/a.JCL"⟩, ⟨"./b.jcl"⟩] := by
  simp only [sampleFolder, visit]
  rfl

/-- A folder below that the program may not list. -/
def lockedFolder : List (String × Entry) :=
  [("sub", .folder [] ⟨none, some ⟨0, .permissionDenied⟩⟩)]

theorem wellNamed_lockedFolder : (Entry.folder lockedFolder .full).WellNamed := by
  refine .folder _ (by decide) (by decide) (List.forall_mem_singleton.mpr ?_)
  exact .folder _ .nil (List.forall_mem_nil _) (List.forall_mem_nil _)

theorem visits_lockedFolder :
    firstConfig.Visits .common ⟨"."⟩ (.folder lockedFolder .full)
      ⟨none, some ⟨0, .permissionDenied⟩⟩ :=
  ⟨["sub"], [], .under List.mem_cons_self rfl (by decide) (.here _), .inr ⟨rfl, rfl⟩⟩

/-- One tree is listed from its end. The folder below the other one may not be listed. -/
theorem answers_discover_sampleFolder :
    ((Entry.folder sampleFolder .full).WellNamed ∧
      ∃ accepted : List Path,
        ⟨"./sub/a.JCL"⟩ ∈ accepted ∧ ⟨"./sub/c.txt"⟩ ∉ accepted ∧ accepted.Pairwise Path.Before ∧
        Answers (discover ⟨.folder sampleFolder.reverse .full, [], .common⟩ firstConfig ⟨"."⟩)
          (if accepted = [] then .error (.noFilesFound ".")
          else if Limits.filesPerBatch < accepted.length then
            .error (.tooManyFiles accepted.length Limits.filesPerBatch)
          else .ok (accepted.take 1))) ∧
    (Entry.folder lockedFolder .full).WellNamed ∧ ∃ message,
      Answers (discover ⟨.folder lockedFolder .full, [], .common⟩ firstConfig ⟨"."⟩)
        (.error (.unlistable message)) := by
  constructor
  · obtain ⟨haccepted, -⟩ := @answers_discover_accepted firstConfig ⟨"."⟩
      ⟨.folder sampleFolder .full, [], .common⟩ ⟨[], [], .folder sampleFolder .full⟩
      wellNamed_sampleFolder rfl rfl
    obtain ⟨accepted, htakes, -, hsorted, hanswers⟩ := haccepted fun access hvisits =>
      unbroken_of_visit (by decide) visit_sampleFolder hvisits
    refine ⟨wellNamed_sampleFolder, accepted, (htakes _).mpr ?_, fun hmem => ?_, hsorted,
      hanswers _ ⟨wellNamed_sampleFolder.reordered_perm ⟨rfl, rfl⟩ (List.reverse_perm _).symm, rfl, rfl⟩⟩
    · exact (mem_of_visit (by decide) visit_sampleFolder).mp List.mem_cons_self
    · obtain ⟨-, -, -, -, -, -, -, haccepts⟩ := (htakes _).mp hmem
      exact absurd haccepts (by decide)
  · obtain ⟨-, hbroken⟩ := @answers_discover_accepted firstConfig ⟨"."⟩
      ⟨.folder lockedFolder .full, [], .common⟩ ⟨[], [], .folder lockedFolder .full⟩
      wellNamed_lockedFolder rfl rfl
    obtain ⟨access, broken, -, -, hanswer⟩ := hbroken ⟨_, visits_lockedFolder, Option.some_ne_none _⟩ _
      ⟨wellNamed_lockedFolder.reordered_self, rfl, rfl⟩
    exact ⟨wellNamed_lockedFolder, _, hanswer⟩

/-! ## Long paths -/

/-- The text of a dot with more dots in front of it. -/
def dots : Nat → List Char
  | 0 => ['.']
  | count + 1 => '.' :: '/' :: dots count

/-- Another path to the folder in which the program runs. -/
def dotPath (count : Nat) : Path := ⟨String.ofList (dots count)⟩

theorem splitOn_dots (count : Nat) : (dots count).splitOn '/' = List.replicate (count + 1) ['.'] := by
  induction count with
  | zero => rfl
  | succ count ih =>
    have hfirst : dots (count + 1) = ['.'] ++ '/' :: dots count := rfl
    rw [hfirst, List.splitOn_append_cons_self, ih]
    rfl

theorem segments_dotPath (count : Nat) :
    (dotPath count).segments = List.replicate (count + 1) ['.'] := by
  rw [Path.segments, dotPath, String.toList_ofList, splitOn_dots]

theorem utf8ByteSize_dotPath (count : Nat) : (dotPath count).text.utf8ByteSize = 2 * count + 1 := by
  rw [← Text.byteLength_toList, dotPath, String.toList_ofList]
  induction count with
  | zero => rfl
  | succ count ih =>
    rw [dots, Text.byteLength_cons, Text.byteLength_cons, ih]
    have hdot : ('.' : Char).utf8Size = 1 := rfl
    have hslash : ('/' : Char).utf8Size = 1 := rfl
    omega

theorem mem_dots {count : Nat} {c : Char} (h : c ∈ dots count) : c = '.' ∨ c = '/' := by
  induction count with
  | zero => exact .inl (List.mem_singleton.mp h)
  | succ count ih =>
    rw [dots, List.mem_cons, List.mem_cons] at h
    obtain h | h | h := h
    · exact .inl h
    · exact .inr h
    · exact ih h

/-- Dots lead nowhere. -/
theorem steps_dots (count : Nat) :
    (List.replicate count ".").foldlM (Trail.step limits) ⟨[], [], .folder entries .full⟩
      = .ok ⟨[], [], .folder entries .full⟩ := by
  induction count with
  | zero => rfl
  | succ count ih => exact ih

theorem follow_dotPath {count : Nat} (h : 2 * count + 1 ≤ limits.path) :
    FileSystem.follow ⟨.folder entries .full, [], limits⟩ (dotPath count)
      = .ok ⟨[], [], .folder entries .full⟩ := by
  have htext : (dotPath count).text.toList = dots count := String.toList_ofList
  have hrelative : (dotPath count).isAbsolute = false := by
    rw [Path.isAbsolute, htext]
    cases count <;> rfl
  have hcheck : limits.check (dotPath count) = .ok () := by
    refine PathLimits.check_eq_ok_iff.mpr ⟨fun hzero => ?_, fun hempty => ?_, ?_⟩
    · rw [htext] at hzero
      obtain h | h := mem_dots hzero <;> exact absurd h (by decide)
    · have hsize := utf8ByteSize_dotPath count
      rw [hempty] at hsize
      cases hsize
    · rw [utf8ByteSize_dotPath]
      exact h
  refine FileSystem.follow_eq_ok_iff.mpr ⟨hcheck, ⟨[], [], .folder entries .full⟩, ?_, ?_⟩
  · rw [FileSystem.start, if_neg (by rw [hrelative]; decide)]
    rfl
  · rw [segments_dotPath, List.map_replicate]
    exact steps_dots (count + 1)

def longName : String := String.ofList (List.replicate 200 'a')

theorem toList_longName : longName.toList = List.replicate 200 'a' := String.toList_ofList

theorem utf8ByteSize_longName : longName.utf8ByteSize = 200 := by decide +kernel

theorem wellNamed_longName : (Entry.folder [(longName, .file (.plain ⟨#[]⟩))] .full).WellNamed := by
  have hname : IsName longName := by
    constructor
    all_goals
      rw [toList_longName]
      decide
  refine .folder _ (by decide) (List.forall_mem_singleton.mpr hname) ?_
  exact List.forall_mem_singleton.mpr (.file _)

/-- The path is followed, but not on to the file. -/
theorem not_sees_longName : sees .common (dotPath 2000) .full longName = false := by
  rw [← Bool.not_eq_true, sees_iff]
  rintro ⟨-, -, hcheck⟩
  obtain ⟨-, -, hsize⟩ := PathLimits.check_eq_ok_iff.mp hcheck
  obtain ⟨gap, htext⟩ := (dotPath 2000).exists_text_child longName
  have hlimit : PathLimits.common.path = 4095 := rfl
  rw [htext, String.utf8ByteSize_append, String.utf8ByteSize_append, utf8ByteSize_dotPath,
    utf8ByteSize_longName, hlimit] at hsize
  omega

/-- All files in all folders. -/
def everyConfig : Config := ⟨1, true, [], none, false, false⟩

/-- Names lead to no file that the config accepts. -/
def Config.RejectsAll (config : Config) (limits : PathLimits) (path : Path) (folder : Entry) : Prop :=
  ∀ names content, folder.Leads limits names (.file content) → content.regular = true →
    config.recursive = true ∨ names.length = 1 → config.accepts (path.descend names) = false

/-- A file may be passed over because the path to it is too long, and then it may be that none is
found. Nor is it told that none is found if there is none, but one of the folders cannot be listed. -/
theorem not_noFilesFound_iff_rejectsAll :
    (¬∀ (files : FileSystem) (config : Config) (path : Path) (trail : Trail),
      files.root.WellNamed → files.follow path = .ok trail → trail.here.isFolder = true →
      Answers (discover files config path) (.error (.noFilesFound path.text)) →
      config.RejectsAll files.limits path trail.here) ∧
    ¬∀ (files : FileSystem) (config : Config) (path : Path) (trail : Trail),
      files.root.WellNamed → files.follow path = .ok trail → trail.here.isFolder = true →
      config.RejectsAll files.limits path trail.here →
      Answers (discover files config path) (.error (.noFilesFound path.text)) := by
  constructor
  · intro h
    have hfollow := @follow_dotPath .common [(longName, .file (.plain ⟨#[]⟩))] 2000 (by decide)
    have hvisit : visit .common everyConfig (dotPath 2000) .full
        [(longName, .file (.plain ⟨#[]⟩))] = .ok [] := by
      rw [visit_file_eq_ok, not_sees_longName]
      exact ⟨rfl, [], visit_nil_eq_ok.mpr ⟨rfl, rfl⟩, rfl⟩
    have hanswer := answers_discover_of_visit hfollow hvisit
    dsimp only at hanswer
    rw [List.mergeSort_nil, if_pos rfl] at hanswer
    have hfits : longName.utf8ByteSize ≤ PathLimits.common.name := by
      rw [utf8ByteSize_longName]
      decide
    have hrejected := h _ everyConfig _ _ wellNamed_longName hfollow rfl hanswer [longName] _
      (.under List.mem_cons_self rfl hfits (.here _)) rfl (.inl rfl)
    have haccepts (path : Path) : everyConfig.accepts path = true := rfl
    rw [haccepts] at hrejected
    cases hrejected
  · intro h
    have hrejects : everyConfig.RejectsAll .common ⟨"."⟩ (.folder lockedFolder .full) := by
      intro names content hleads
      cases hleads with | under hentry _ _ hleads =>
      cases List.mem_singleton.mp hentry
      cases hleads with | under hentry _ _ _ =>
      cases hentry
    have hfollow : FileSystem.follow ⟨.folder lockedFolder .full, [], .common⟩ ⟨"."⟩
        = .ok ⟨[], [], .folder lockedFolder .full⟩ := rfl
    have hvisit : visit .common everyConfig ⟨"."⟩ .full lockedFolder = .error .permissionDenied := by
      simp only [lockedFolder, visit]
      rfl
    have hnone := h _ everyConfig _ _ wellNamed_lockedFolder hfollow rfl hrejects (.ofVariables [])
    rw [answers_discover_of_fault hfollow hvisit] at hnone
    cases hnone

end Batch
end LineLexer
