import LineLexer.Batch.Discovery
import LineLexer.Proofs.Diagnostics.Logged
import LineLexer.Proofs.Files.PathOrder
import LineLexer.Proofs.Files.Reordered

/-!
# What a visit finds

A batch visits folders from the one that it is given (`Config.Visits`). The visit comes to an end if it
can list all of them, and then it has found the files that the config takes (`mem_of_visit`), each one
once (`distinct_of_visit`). If one of the folders cannot be listed to its end, the visit breaks off with
the fault of such a folder (`visits_of_visit`).
-/

namespace LineLexer

open Diagnostics Files

/-! ## Places below a path -/

namespace Files

variable {limits : PathLimits} {path : Path} {name : String} {names : List String}

theorem PathLimits.check_eq_ok_iff :
    limits.check path = .ok () ↔ '\x00' ∉ path.text.toList ∧ path.text ≠ "" ∧
      path.text.utf8ByteSize ≤ limits.path := by
  rw [check]
  split
  · simp_all
  split
  · simp_all
  split
  · simp_all
  · simp_all

namespace Path

/-- The place to which names lead from a path. -/
def descend (path : Path) (names : List String) : Path := names.foldl child path

/-- The text of a place under a path has those of the path and of the name. -/
theorem exists_text_child (path : Path) (name : String) :
    ∃ gap, (path.child name).text = path.text ++ gap ++ name := by
  rw [child]
  split
  · exact ⟨"", by rw [String.append_empty]⟩
  · exact ⟨"/", rfl⟩

theorem text_child_ne (hpath : path.text ≠ "") : (path.child name).text ≠ "" := by
  obtain ⟨gap, htext⟩ := exists_text_child path name
  rw [htext]
  simp [hpath]

/-- Names lead to the place with the names behind the components of the path. -/
theorem components_descend {folder last : Entry} (hnames : folder.WellNamed)
    (hleads : folder.Leads limits names last) (path : Path) :
    (path.descend names).components = path.components ++ names.map .name := by
  induction hleads generalizing path with
  | here entry => exact (List.append_nil _).symm
  | under hentry hopen hfits h ih =>
    cases hnames with | folder _ hdistinct hisName hentries =>
    refine (ih (hentries _ hentry) (path.child _)).trans ?_
    rw [components_child path (hisName _ hentry), List.map_cons, List.append_assoc,
      List.singleton_append]

end Path

/-- A path that is followed to a place is followed on the way to it. -/
theorem PathLimits.check_child (hpath : path.text ≠ "")
    (h : limits.check (path.child name) = .ok ()) : limits.check path = .ok () := by
  obtain ⟨gap, htext⟩ := path.exists_text_child name
  rw [check_eq_ok_iff, htext] at h
  obtain ⟨hzero, -, hsize⟩ := h
  rw [String.utf8ByteSize_append, String.utf8ByteSize_append] at hsize
  rw [String.toList_append, String.toList_append, List.mem_append, List.mem_append] at hzero
  refine check_eq_ok_iff.mpr ⟨fun hmem => hzero (.inl (.inl hmem)), hpath, ?_⟩
  omega

theorem PathLimits.check_descend (hpath : path.text ≠ "")
    (h : limits.check (path.descend names) = .ok ()) : limits.check path = .ok () := by
  induction names generalizing path with
  | nil => exact h
  | cons name names ih => exact check_child hpath (ih (Path.text_child_ne hpath) h)

end Files

/-! ## Folders and files -/

namespace Batch

variable {limits : PathLimits} {config : Config} {path found : Path} {name : String}
  {access inner : Access} {content : Content} {entry : Entry}
  {entries rest : List (String × Entry)}

/-- Names lead from a folder to a file that the config takes, and to its path. -/
def Config.Takes (config : Config) (limits : PathLimits) (path : Path) (folder : Entry)
    (found : Path) : Prop :=
  ∃ names content, folder.Leads limits names (.file content) ∧ content.regular = true ∧
    (config.recursive = true ∨ names.length = 1) ∧ found = path.descend names ∧
    limits.check found = .ok () ∧ config.accepts found = true

/-- Names lead from a folder to one that the batch visits, and this is what the system lets it do
there. The folder itself is visited, and with a recursive batch those below it are. -/
def Config.Visits (config : Config) (limits : PathLimits) (path : Path) (folder : Entry)
    (access : Access) : Prop :=
  ∃ names entries, folder.Leads limits names (.folder entries access) ∧
    (names = [] ∨ config.recursive = true ∧ limits.check (path.descend names) = .ok ())

theorem sees_iff :
    sees limits path access name = true ↔ access.barred = none ∧ name.utf8ByteSize ≤ limits.name ∧
      limits.check (path.child name) = .ok () := by
  rw [sees, Bool.and_eq_true, Bool.and_eq_true, Option.isNone_iff_eq_none, decide_eq_true_iff,
    and_assoc]
  cases limits.check (path.child name) <;> simp [Except.isOk, Except.toBool]

/-- A well-named folder has no other entry under the name of one. -/
theorem find?_of_mem (hnames : (Entry.folder entries access).WellNamed)
    (hentry : (name, entry) ∈ entries) : (Entry.folder entries access).find? name = some entry := by
  obtain ⟨found, hfind⟩ : ∃ found, (Entry.folder entries access).find? name = some found :=
    Entry.exists_find? hentry
  cases hnames with | folder _ hdistinct _ _ =>
  have heq : (name, found) = (name, entry) :=
    List.inj_on_of_nodup_map hdistinct (Entry.mem_of_find? hfind) hentry rfl
  cases heq
  exact hfind

/-- What can be seen of an entry is what its path leads to: a visit that asks for each place by its path
comes to the same. -/
theorem follow_child_iff {files : FileSystem} {names : List String} {folders : List Entry}
    {trail : Trail} (hfollow : files.follow path = .ok ⟨names, folders, .folder entries access⟩)
    (hnames : (Entry.folder entries access).WellNamed) (hentry : (name, entry) ∈ entries) :
    files.follow (path.child name) = .ok trail ↔ sees files.limits path access name = true ∧
      trail = ⟨name :: names, .folder entries access :: folders, entry⟩ := by
  have hfind := find?_of_mem hnames hentry
  have hname : IsName name := by
    cases hnames with | folder _ _ hisName _ =>
    exact hisName _ hentry
  have hempty : name ≠ "" := fun heq => hname.nonempty (heq ▸ rfl)
  have hcurrent : name ≠ "." := fun heq => hname.not_current (heq ▸ rfl)
  have hparent : name ≠ ".." := fun heq => hname.not_parent (heq ▸ rfl)
  rw [FileSystem.follow_child hfollow hname, sees_iff, Trail.step]
  dsimp only
  rw [if_neg hempty, if_neg hcurrent, if_neg hparent, Trail.enter, hfind]
  cases hcheck : files.limits.check (path.child name) with
  | error fault => simp [bind, Except.bind]
  | ok =>
    cases hbarred : access.barred with
    | some fault => simp [bind, Except.bind]
    | none =>
      rw [← Nat.not_lt]
      by_cases hlong : files.limits.name < name.utf8ByteSize
      · simp [bind, Except.bind, hlong]
      · simp [bind, Except.bind, hlong, eq_comm]

/-- From a folder names lead to what is under its first name, or on as from the others. -/
theorem leads_cons_iff {next : String} {names : List String} {last : Entry} :
    (Entry.folder ((name, entry) :: rest) access).Leads limits (next :: names) last ↔
      (next = name ∧ access.barred = none ∧ name.utf8ByteSize ≤ limits.name ∧
        entry.Leads limits names last) ∨
      (Entry.folder rest access).Leads limits (next :: names) last := by
  simp only [Entry.leads_folder_iff, List.mem_cons, Prod.mk.injEq]
  constructor
  · rintro ⟨entry', ⟨rfl, rfl⟩ | hmem, hopen, hfits, h⟩
    · exact .inl ⟨rfl, hopen, hfits, h⟩
    · exact .inr ⟨entry', hmem, hopen, hfits, h⟩
  · rintro (⟨rfl, hopen, hfits, h⟩ | ⟨entry', hmem, hopen, hfits, h⟩)
    · exact ⟨entry, .inl ⟨rfl, rfl⟩, hopen, hfits, h⟩
    · exact ⟨entry', .inr hmem, hopen, hfits, h⟩

namespace Config

theorem not_takes_nil : ¬config.Takes limits path (.folder [] access) found := by
  rintro ⟨names, content, hleads, -⟩
  cases hleads with | under hentry _ _ _ =>
  exact List.not_mem_nil hentry

theorem takes_cons_iff :
    config.Takes limits path (.folder ((name, entry) :: rest) access) found ↔
      (∃ names content, access.barred = none ∧ name.utf8ByteSize ≤ limits.name ∧
        entry.Leads limits names (.file content) ∧ content.regular = true ∧
        (config.recursive = true ∨ names = []) ∧ found = (path.child name).descend names ∧
        limits.check found = .ok () ∧ config.accepts found = true) ∨
      config.Takes limits path (.folder rest access) found := by
  constructor
  · rintro ⟨names, content, hleads, hregular, hdepth, hfound⟩
    cases names with
    | nil => cases hleads
    | cons next names =>
      obtain ⟨rfl, hopen, hfits, hleads⟩ | hleads := leads_cons_iff.mp hleads
      · rw [List.length_cons, Nat.add_eq_right, List.length_eq_zero_iff] at hdepth
        exact .inl ⟨names, content, hopen, hfits, hleads, hregular, hdepth, hfound⟩
      · exact .inr ⟨next :: names, content, hleads, hregular, hdepth, hfound⟩
  · rintro (⟨names, content, hopen, hfits, hleads, hregular, hdepth, hfound⟩ | htakes)
    · refine ⟨name :: names, content, .under List.mem_cons_self hopen hfits hleads, hregular, ?_, hfound⟩
      rwa [List.length_cons, Nat.add_eq_right, List.length_eq_zero_iff]
    · obtain ⟨names, content, hleads, hrest⟩ := htakes
      cases names with
      | nil => cases hleads
      | cons next names => exact ⟨next :: names, content, leads_cons_iff.mpr (.inr hleads), hrest⟩

theorem takes_cons_file :
    config.Takes limits path (.folder ((name, .file content) :: rest) access) found ↔
      ((sees limits path access name && content.regular && config.accepts (path.child name)) = true
        ∧ found = path.child name) ∨
      config.Takes limits path (.folder rest access) found := by
  rw [takes_cons_iff, Bool.and_eq_true, Bool.and_eq_true, sees_iff]
  refine or_congr_left ?_
  simp only [Entry.leads_file_iff, Entry.file.injEq]
  constructor
  · rintro ⟨names, content', hopen, hfits, ⟨rfl, rfl⟩, hregular, -, rfl, hcheck, haccepts⟩
    exact ⟨⟨⟨⟨hopen, hfits, hcheck⟩, hregular⟩, haccepts⟩, rfl⟩
  · rintro ⟨⟨⟨⟨hopen, hfits, hcheck⟩, hregular⟩, haccepts⟩, rfl⟩
    exact ⟨[], content, hopen, hfits, ⟨rfl, rfl⟩, hregular, .inr rfl, rfl, hcheck, haccepts⟩

theorem takes_cons_folder (hpath : path.text ≠ "") :
    config.Takes limits path (.folder ((name, .folder entries inner) :: rest) access) found ↔
      ((sees limits path access name && config.recursive) = true ∧
        config.Takes limits (path.child name) (.folder entries inner) found) ∨
      config.Takes limits path (.folder rest access) found := by
  rw [takes_cons_iff, Bool.and_eq_true, sees_iff]
  refine or_congr_left ?_
  constructor
  · rintro ⟨names, content, hopen, hfits, hleads, hregular, hdepth, rfl, hcheck, haccepts⟩
    -- a folder is no file, so there is one more name at least
    have hrecursive : config.recursive = true := hdepth.resolve_right fun hnone => by
      cases hnone
      cases hleads
    have hchild := PathLimits.check_descend (Path.text_child_ne hpath) hcheck
    exact ⟨⟨⟨hopen, hfits, hchild⟩, hrecursive⟩, names, content, hleads, hregular, .inl hrecursive,
      rfl, hcheck, haccepts⟩
  · rintro ⟨⟨⟨hopen, hfits, -⟩, hrecursive⟩, names, content, hleads, hregular, -, hfound⟩
    exact ⟨names, content, hopen, hfits, hleads, hregular, .inl hrecursive, hfound⟩

variable {last : Access}

/-- A folder is visited, whatever becomes of those below it. -/
theorem visits_self : config.Visits limits path (.folder entries access) access :=
  ⟨[], entries, .here _, .inl rfl⟩

theorem visits_nil_iff : config.Visits limits path (.folder [] access) last ↔ last = access := by
  constructor
  · rintro ⟨names, entries, hleads, -⟩
    cases hleads with
    | here _ => rfl
    | under hentry _ _ _ => cases hentry
  · rintro rfl
    exact visits_self

theorem visits_cons_iff :
    config.Visits limits path (.folder ((name, entry) :: rest) access) last ↔
      (∃ names below, access.barred = none ∧ name.utf8ByteSize ≤ limits.name ∧
        entry.Leads limits names (.folder below last) ∧ config.recursive = true ∧
        limits.check ((path.child name).descend names) = .ok ()) ∨
      config.Visits limits path (.folder rest access) last := by
  constructor
  · rintro ⟨names, below, hleads, hvisited⟩
    cases names with
    | nil =>
      cases hleads
      exact .inr visits_self
    | cons next names =>
      obtain ⟨rfl, hopen, hfits, hleads⟩ | hleads := leads_cons_iff.mp hleads
      · obtain ⟨hrecursive, hcheck⟩ := hvisited.resolve_left (List.cons_ne_nil _ _)
        exact .inl ⟨names, below, hopen, hfits, hleads, hrecursive, hcheck⟩
      · exact .inr ⟨next :: names, below, hleads, hvisited⟩
  · rintro (⟨names, below, hopen, hfits, hleads, hrecursive, hcheck⟩ | hvisits)
    · exact ⟨name :: names, below, .under List.mem_cons_self hopen hfits hleads,
        .inr ⟨hrecursive, hcheck⟩⟩
    · obtain ⟨names, below, hleads, hvisited⟩ := hvisits
      cases names with
      | nil =>
        cases hleads
        exact visits_self
      | cons next names => exact ⟨next :: names, below, leads_cons_iff.mpr (.inr hleads), hvisited⟩

theorem visits_cons_file :
    config.Visits limits path (.folder ((name, .file content) :: rest) access) last ↔
      config.Visits limits path (.folder rest access) last := by
  rw [visits_cons_iff]
  refine or_iff_right ?_
  rintro ⟨names, below, -, -, hleads, -⟩
  cases (Entry.leads_file_iff.mp hleads).2

theorem visits_cons_folder (hpath : path.text ≠ "") :
    config.Visits limits path (.folder ((name, .folder entries inner) :: rest) access) last ↔
      ((sees limits path access name && config.recursive) = true ∧
        config.Visits limits (path.child name) (.folder entries inner) last) ∨
      config.Visits limits path (.folder rest access) last := by
  rw [visits_cons_iff, Bool.and_eq_true, sees_iff]
  refine or_congr_left ?_
  constructor
  · rintro ⟨names, below, hopen, hfits, hleads, hrecursive, hcheck⟩
    have hchild := PathLimits.check_descend (Path.text_child_ne hpath) hcheck
    exact ⟨⟨⟨hopen, hfits, hchild⟩, hrecursive⟩, names, below, hleads, .inr ⟨hrecursive, hcheck⟩⟩
  · rintro ⟨⟨⟨hopen, hfits, hchild⟩, hrecursive⟩, names, below, hleads, hvisited⟩
    refine ⟨names, below, hopen, hfits, hleads, hrecursive, ?_⟩
    obtain rfl | ⟨-, hcheck⟩ := hvisited
    · exact hchild
    · exact hcheck

end Config

/-! ## Visits -/

theorem unbroken_of_list_zero (h : access.list 0 = .ok ()) : access.broken = none := by
  rw [Access.list] at h
  split at h
  · rw [if_pos (Nat.zero_le _)] at h
    cases h
  · assumption

theorem fault_of_list {left : Nat} {fault : Fault} (h : access.list left = .error fault) :
    access.broken.map (·.fault) = some fault := by
  rw [Access.list] at h
  split at h
  · split at h
    · cases h
      rw [‹access.broken = _›]
      rfl
    · cases h
  · cases h

section

variable {all : List Path}

theorem visit_nil_eq_ok :
    visit limits config path access [] = .ok all ↔ access.list 0 = .ok () ∧ all = [] := by
  rw [visit, bind_eq_ok]
  constructor
  · rintro ⟨⟨⟩, hlist, h⟩
    cases h
    exact ⟨hlist, rfl⟩
  · rintro ⟨hlist, rfl⟩
    exact ⟨(), hlist, rfl⟩

theorem visit_file_eq_ok :
    visit limits config path access ((name, .file content) :: rest) = .ok all ↔
      access.list (rest.length + 1) = .ok () ∧ ∃ behind,
        visit limits config path access rest = .ok behind ∧
        all = (if sees limits path access name && content.regular && config.accepts (path.child name)
          then [path.child name] else []) ++ behind := by
  rw [visit, bind_eq_ok]
  simp only [bind_eq_ok]
  constructor
  · rintro ⟨⟨⟩, hlist, behind, hbehind, h⟩
    cases h
    exact ⟨hlist, behind, hbehind, rfl⟩
  · rintro ⟨hlist, behind, hbehind, rfl⟩
    exact ⟨(), hlist, behind, hbehind, rfl⟩

/-- A folder below is visited, or passed over, before the rest. -/
theorem visit_folder :
    visit limits config path access ((name, .folder entries inner) :: rest)
      = access.list (rest.length + 1) >>= fun _ =>
        (if sees limits path access name && config.recursive
          then visit limits config (path.child name) inner entries else pure []) >>= fun below =>
        visit limits config path access rest >>= fun behind => pure (below ++ behind) := by
  rw [visit]
  split <;> rfl

theorem visit_folder_eq_ok :
    visit limits config path access ((name, .folder entries inner) :: rest) = .ok all ↔
      access.list (rest.length + 1) = .ok () ∧ ∃ below,
        (if sees limits path access name && config.recursive
          then visit limits config (path.child name) inner entries else pure []) = .ok below ∧
        ∃ behind, visit limits config path access rest = .ok behind ∧ all = below ++ behind := by
  rw [visit_folder, bind_eq_ok]
  simp only [bind_eq_ok]
  constructor
  · rintro ⟨⟨⟩, hlist, below, hbelow, behind, hbehind, h⟩
    cases h
    exact ⟨hlist, below, hbelow, behind, hbehind, rfl⟩
  · rintro ⟨hlist, below, hbelow, behind, hbehind, rfl⟩
    exact ⟨(), hlist, below, hbelow, behind, hbehind, rfl⟩

/-- A visit that comes to its end has found the files that the config takes. -/
theorem mem_of_visit (hpath : path.text ≠ "")
    (h : visit limits config path access entries = .ok all) :
    found ∈ all ↔ config.Takes limits path (.folder entries access) found := by
  induction path, access, entries using visit.induct generalizing all with
  | case1 path access =>
    obtain ⟨-, rfl⟩ := visit_nil_eq_ok.mp h
    exact iff_of_false List.not_mem_nil Config.not_takes_nil
  | case2 path access name content rest ih =>
    obtain ⟨-, behind, hbehind, rfl⟩ := visit_file_eq_ok.mp h
    rw [Config.takes_cons_file, List.mem_append, ih hpath hbehind]
    refine or_congr_left ?_
    split <;> simp_all
  | case3 path access name entries inner rest ihRest ihInner =>
    obtain ⟨-, below, hbelow, behind, hbehind, rfl⟩ := visit_folder_eq_ok.mp h
    rw [Config.takes_cons_folder hpath, List.mem_append, ihRest hpath hbehind]
    refine or_congr_left ?_
    split at hbelow
    · rename_i hsees
      rw [ihInner (Path.text_child_ne hpath) hbelow]
      exact (and_iff_right hsees).symm
    · rename_i hsees
      cases hbelow
      exact iff_of_false List.not_mem_nil fun h => hsees h.1

/-- It has visited all folders that it was to visit, and could list each to its end. -/
theorem unbroken_of_visit (hpath : path.text ≠ "")
    (h : visit limits config path access entries = .ok all) {last : Access}
    (hvisits : config.Visits limits path (.folder entries access) last) : last.broken = none := by
  induction path, access, entries using visit.induct generalizing all with
  | case1 path access =>
    obtain ⟨hlist, -⟩ := visit_nil_eq_ok.mp h
    cases Config.visits_nil_iff.mp hvisits
    exact unbroken_of_list_zero hlist
  | case2 path access name content rest ih =>
    obtain ⟨-, behind, hbehind, -⟩ := visit_file_eq_ok.mp h
    exact ih hpath hbehind (Config.visits_cons_file.mp hvisits)
  | case3 path access name entries inner rest ihRest ihInner =>
    obtain ⟨-, below, hbelow, behind, hbehind, -⟩ := visit_folder_eq_ok.mp h
    obtain ⟨hsees, hvisits⟩ | hvisits := (Config.visits_cons_folder hpath).mp hvisits
    · rw [if_pos hsees] at hbelow
      exact ihInner (Path.text_child_ne hpath) hbelow hvisits
    · exact ihRest hpath hbehind hvisits

/-- A visit breaks off with the fault of a folder that cannot be listed. -/
theorem visits_of_visit (hpath : path.text ≠ "") {fault : Fault}
    (h : visit limits config path access entries = .error fault) :
    ∃ last, config.Visits limits path (.folder entries access) last ∧
      last.broken.map (·.fault) = some fault := by
  induction path, access, entries using visit.induct with
  | case1 path access =>
    rw [visit, bind_eq_error] at h
    obtain hlist | ⟨⟨⟩, -, ⟨⟩⟩ := h
    exact ⟨access, Config.visits_self, fault_of_list hlist⟩
  | case2 path access name content rest ih =>
    rw [visit, bind_eq_error] at h
    simp only [bind_eq_error] at h
    obtain hlist | ⟨⟨⟩, -, hrest | ⟨behind, -, ⟨⟩⟩⟩ := h
    · exact ⟨access, Config.visits_self, fault_of_list hlist⟩
    · obtain ⟨last, hvisits, hbroken⟩ := ih hpath hrest
      exact ⟨last, Config.visits_cons_file.mpr hvisits, hbroken⟩
  | case3 path access name entries inner rest ihRest ihInner =>
    rw [visit_folder, bind_eq_error] at h
    simp only [bind_eq_error] at h
    obtain hlist | ⟨⟨⟩, -, hbelow | ⟨below, -, hrest | ⟨behind, -, ⟨⟩⟩⟩⟩ := h
    · exact ⟨access, Config.visits_self, fault_of_list hlist⟩
    · split at hbelow
      · rename_i hsees
        obtain ⟨last, hvisits, hbroken⟩ := ihInner (Path.text_child_ne hpath) hbelow
        exact ⟨last, (Config.visits_cons_folder hpath).mpr (.inl ⟨hsees, hvisits⟩), hbroken⟩
      · cases hbelow
    · obtain ⟨last, hvisits, hbroken⟩ := ihRest hpath hrest
      exact ⟨last, (Config.visits_cons_folder hpath).mpr (.inr hvisits), hbroken⟩

/-! ## Files are found once -/

/-- A file is found under a name that the folder lists. -/
theorem exists_name_of_mem_visit (hentries : (Entry.folder entries access).WellNamed)
    (hpath : path.text ≠ "") (h : visit limits config path access entries = .ok all)
    (hfound : found ∈ all) :
    ∃ name ∈ entries.map Prod.fst, ∃ below,
      found.components = path.components ++ .name name :: below := by
  obtain ⟨names, content, hleads, -, -, rfl, -⟩ := (mem_of_visit hpath h).mp hfound
  have hcomponents := Path.components_descend hentries hleads path
  cases hleads with | under hentry _ _ _ =>
  exact ⟨_, List.mem_map_of_mem hentry, _, hcomponents⟩

/-- What is found under a name is not found under another one. -/
theorem components_ne_of_mem_visit {below : List Component}
    (hentries : (Entry.folder entries access).WellNamed) (hname : name ∉ entries.map Prod.fst)
    (hpath : path.text ≠ "") (h : visit limits config path access entries = .ok all)
    (hfound : found ∈ all) : path.components ++ .name name :: below ≠ found.components := by
  intro heq
  obtain ⟨name', hmem, below', hcomponents⟩ := exists_name_of_mem_visit hentries hpath h hfound
  rw [hcomponents] at heq
  have hsame := (List.cons.inj (List.append_cancel_left heq)).1
  exact hname (Component.name.inj hsame ▸ hmem)

/-- Each file is found once. -/
theorem distinct_of_visit (hentries : (Entry.folder entries access).WellNamed)
    (hpath : path.text ≠ "") (h : visit limits config path access entries = .ok all) :
    (all.map Path.components).Nodup := by
  induction path, access, entries using visit.induct generalizing all with
  | case1 path access =>
    obtain ⟨-, rfl⟩ := visit_nil_eq_ok.mp h
    exact .nil
  | case2 path access name content rest ih =>
    obtain ⟨hname, hother, -, hrest⟩ := Entry.wellNamed_cons hentries
    obtain ⟨-, behind, hbehind, rfl⟩ := visit_file_eq_ok.mp h
    split
    · rw [List.singleton_append, List.map_cons, List.nodup_cons]
      refine ⟨fun hmem => ?_, ih hrest hpath hbehind⟩
      obtain ⟨found, hfound, heq⟩ := List.mem_map.mp hmem
      rw [Path.components_child path hname] at heq
      exact components_ne_of_mem_visit hrest hother hpath hbehind hfound heq.symm
    · exact ih hrest hpath hbehind
  | case3 path access name entries inner rest ihRest ihInner =>
    obtain ⟨hname, hother, hinner, hrest⟩ := Entry.wellNamed_cons hentries
    obtain ⟨-, below, hbelow, behind, hbehind, rfl⟩ := visit_folder_eq_ok.mp h
    rw [List.map_append]
    have hchild : (path.child name).text ≠ "" := Path.text_child_ne hpath
    refine List.Nodup.append ?_ (ihRest hrest hpath hbehind) ?_
    · split at hbelow
      · exact ihInner hinner hchild hbelow
      · cases hbelow
        exact .nil
    · intro components hfront hback
      obtain ⟨front, hmem, rfl⟩ := List.mem_map.mp hfront
      obtain ⟨back, hmem', heq⟩ := List.mem_map.mp hback
      split at hbelow
      · obtain ⟨name', -, below, hcomponents⟩ :=
          exists_name_of_mem_visit hinner hchild hbelow hmem
        -- a file below the folder and one beside it differ in the name behind the path
        rw [hcomponents, Path.components_child path hname, List.append_assoc] at heq
        exact components_ne_of_mem_visit hrest hother hpath hbehind hmem' heq.symm
      · cases hbelow
        cases hmem

end

/-! ## Found files -/

/-- The files a batch works on, in the order in which one worker gets to them. -/
def filesOf (files : FileSystem) (config : Config) (path : Path) : Except BatchError (List Path) :=
  (discover? files config path).map config.cut

theorem path_ne_of_follow {files : FileSystem} {path : Path} {trail : Trail}
    (hfollow : files.follow path = .ok trail) : path.text ≠ "" :=
  (PathLimits.check_eq_ok_iff.mp (FileSystem.follow_eq_ok_iff.mp hfollow).1).2.1

theorem answers_discover (files : FileSystem) (config : Config) (path : Path) :
    Answers (discover files config path) (filesOf files config path) := by
  refine .bind (.unit _) ?_
  rw [filesOf]
  cases discover? files config path with
  | error error => exact .bind (.unit _) (.pure _)
  | ok found => exact .bind (.unit _) (.bind (.unit _) (.pure _))

/-- What is told of the files that were found, or of what has kept them from being found. -/
def discoverProblems (files : FileSystem) (config : Config) (path : Path) : List Event :=
  match discover? files config path with
  | .error error => (error.event? path).toList
  | .ok found => config.cutEvents found

theorem tells_discover (files : FileSystem) (config : Config) (path : Path) :
    Tells (discover files config path) (discoverProblems files config path) := by
  refine (Tells.note_of_not rfl).after fun _ _ => ?_
  rw [discoverProblems]
  cases discover? files config path with
  | error error =>
    refine (Tells.noteAll fun event h => ?_).before fun _ _ => .pure _
    cases error <;> simp [BatchError.event?] at h <;> subst h <;> rfl
  | ok found =>
    refine (Tells.noteAll fun event h => ?_).before fun _ _ =>
      (Tells.note_of_not rfl).after fun _ _ => .pure _
    rw [Config.cutEvents] at h
    split at h
    · split at h
      · rw [List.mem_singleton.mp h]
        rfl
      · cases h
    · cases h

theorem Config.cut_sublist (config : Config) (all : List Path) : (config.cut all).Sublist all := by
  rw [cut]
  cases config.maxFiles with
  | none => exact .refl all
  | some limit => exact List.take_sublist limit all

/-- The files come from a visit, and they are sorted. -/
theorem exists_visit_of_filesOf {files : FileSystem} {config : Config} {path : Path}
    {found : List Path} (h : filesOf files config path = .ok found) :
    ∃ names folders entries access all,
      files.follow path = .ok ⟨names, folders, .folder entries access⟩ ∧
      visit files.limits config path access entries = .ok all ∧
      found.Sublist (all.mergeSort Path.le) := by
  obtain ⟨sorted, hsorted, rfl⟩ := map_eq_ok.mp h
  rw [discover?] at hsorted
  cases hfollow : files.follow path with
  | error fault =>
    rw [hfollow] at hsorted
    cases hsorted
  | ok trail =>
    obtain ⟨names, folders, here⟩ := trail
    rw [hfollow] at hsorted
    cases here with
    | file content => cases hsorted
    | folder entries access =>
      dsimp only at hsorted
      split at hsorted
      · cases hsorted
      rename_i all hvisit
      split at hsorted
      · cases hsorted
      split at hsorted
      · cases hsorted
      cases hsorted
      exact ⟨names, folders, entries, access, all, rfl, hvisit, config.cut_sublist _⟩

/-- The files stand in the order of their paths. -/
theorem pairwise_of_filesOf {files : FileSystem} {config : Config} {path : Path}
    {found : List Path} (h : filesOf files config path = .ok found) :
    found.Pairwise fun a b => a.le b = true := by
  obtain ⟨names, folders, entries, access, all, -, -, hsublist⟩ := exists_visit_of_filesOf h
  exact (Path.pairwise_mergeSort id all).sublist hsublist

/-- They are all different, if the folders name their entries as folders do. -/
theorem distinct_of_filesOf {files : FileSystem} {config : Config} {path : Path}
    {found : List Path} (hnames : files.root.WellNamed)
    (h : filesOf files config path = .ok found) : (found.map Path.components).Nodup := by
  obtain ⟨names, folders, entries, access, all, hfollow, hvisit, hsublist⟩ := exists_visit_of_filesOf h
  have hdistinct := distinct_of_visit (FileSystem.wellNamed_follow hnames hfollow).here
    (path_ne_of_follow hfollow) hvisit
  have hperm := (List.mergeSort_perm all Path.le).map Path.components
  exact (hperm.nodup_iff.mpr hdistinct).sublist (hsublist.map _)

end Batch
end LineLexer
