import LineLexer.Files.Tree
import LineLexer.Proofs.Except
import Mathlib.Data.List.Basic

/-!
# Names in a tree of files

A folder lists its entries under names, each name once, and a name is one step of a path
(`Entry.WellNamed`). Then the place with a name under a path has the path's components and the name
behind them (`Path.components_child`). Whatever path is followed in such a tree, what stands at its end
is such a tree again (`FileSystem.wellNamed_follow`).
-/

namespace LineLexer.Files

/-- Texts under which a folder can list an entry. -/
structure IsName (name : String) : Prop where
  nonempty : name.toList ≠ []
  not_current : name.toList ≠ ['.']
  not_parent : name.toList ≠ ['.', '.']
  no_slash : '/' ∉ name.toList

instance (name : String) : Decidable (IsName name) :=
  decidable_of_iff (name.toList ≠ [] ∧ name.toList ≠ ['.'] ∧ name.toList ≠ ['.', '.'] ∧
      '/' ∉ name.toList)
    ⟨fun ⟨h₁, h₂, h₃, h₄⟩ => ⟨h₁, h₂, h₃, h₄⟩, fun ⟨h₁, h₂, h₃, h₄⟩ => ⟨h₁, h₂, h₃, h₄⟩⟩

/-- Every folder lists its entries under names, and no two under the same. -/
inductive Entry.WellNamed : Entry → Prop
  | file (content : Content) : WellNamed (.file content)
  | folder {entries : List (String × Entry)} (access : Access)
      (hdistinct : (entries.map Prod.fst).Nodup) (hnames : ∀ entry ∈ entries, IsName entry.1)
      (hentries : ∀ entry ∈ entries, WellNamed entry.2) : WellNamed (.folder entries access)

theorem Entry.wellNamed_cons {name : String} {entry : Entry} {rest : List (String × Entry)}
    {access : Access} (h : (Entry.folder ((name, entry) :: rest) access).WellNamed) :
    IsName name ∧ name ∉ rest.map Prod.fst ∧ entry.WellNamed ∧
      (Entry.folder rest access).WellNamed := by
  cases h with | folder _ hdistinct hnames hentries =>
  rw [List.map_cons, List.nodup_cons] at hdistinct
  rw [List.forall_mem_cons] at hnames hentries
  exact ⟨hnames.1, hdistinct.1, hentries.1, .folder access hdistinct.2 hnames.2 hentries.2⟩

/-- What is found under a name is listed under it. -/
theorem Entry.mem_of_find? {entry found : Entry} {name : String} (h : entry.find? name = some found) :
    (name, found) ∈ entry.entries := by
  obtain ⟨⟨name', found⟩, hfind, rfl⟩ := Option.map_eq_some_iff.mp h
  have hname := List.find?_some hfind
  rw [decide_eq_true_iff] at hname
  exact hname ▸ List.mem_of_find?_eq_some hfind

/-- Something is found under a name that is listed. -/
theorem Entry.exists_find? {entry found : Entry} {name : String} (h : (name, found) ∈ entry.entries) :
    ∃ found', entry.find? name = some found' := by
  have hsome : (entry.entries.find? (·.1 = name)).isSome :=
    List.find?_isSome.mpr ⟨_, h, decide_eq_true rfl⟩
  obtain ⟨found', hfind⟩ := Option.isSome_iff_exists.mp hsome
  exact ⟨found'.2, by rw [Entry.find?, hfind, Option.map_some]⟩

/-! ## Places under a path -/

namespace Path

variable {path : Path} {name : String}

/-- The steps that segments are. -/
def steps (segments : List (List Char)) : List Component :=
  segments.filterMap fun segment =>
    if segment = [] || segment = ['.'] then none
    else if segment = ['.', '.'] then some .parent
    else some (.name (String.ofList segment))

theorem steps_append (front back : List (List Char)) :
    steps (front ++ back) = steps front ++ steps back :=
  List.filterMap_append

theorem steps_name (h : IsName name) : steps [name.toList] = [.name name] := by
  simp [steps, h.nonempty, h.not_current, h.not_parent]

/-- A name makes one step more, at the end of what a path starts with. -/
theorem components_append {path' : Path} {front blank : List (List Char)} (h : IsName name)
    (hsegments : path.segments = front ++ blank) (hsegments' : path'.segments = front ++ [name.toList])
    (hblank : blank = [] ∧ front ≠ [] ∨ blank = [[]])
    (habsolute : path'.isAbsolute = path.isAbsolute) :
    path'.components = path.components ++ [.name name] := by
  have hsteps : steps path'.segments = steps path.segments ++ [.name name] := by
    have hnone : steps blank = [] := by
      obtain ⟨rfl, -⟩ | rfl := hblank <;> rfl
    rw [hsegments, hsegments', steps_append, steps_append, hnone, steps_name h, List.append_nil]
  have hdot : path'.segments.head? = some ['.'] ↔ path.segments.head? = some ['.'] := by
    rw [hsegments, hsegments']
    cases front with
    | cons first rest => simp
    | nil =>
      obtain ⟨-, hne⟩ | rfl := hblank
      · exact absurd rfl hne
      · simp [h.not_current]
  show (if path'.isAbsolute then .root :: steps path'.segments
      else if path'.segments.head? = some ['.'] then .current :: steps path'.segments
      else steps path'.segments)
    = (if path.isAbsolute then .root :: steps path.segments
      else if path.segments.head? = some ['.'] then .current :: steps path.segments
      else steps path.segments) ++ [.name name]
  rw [habsolute, hsteps]
  simp only [hdot]
  split
  · rfl
  · split <;> rfl

theorem splitOn_name (h : IsName name) : name.toList.splitOn '/' = [name.toList] :=
  List.splitOn_eq_singleton h.no_slash

/-- The name of a place under a path is its last segment. If the path ends with a slash, this is the one
before the name. -/
theorem segments_child (path : Path) (h : IsName name) :
    ∃ front blank, path.segments = front ++ blank ∧
      (path.child name).segments = front ++ [name.toList] ∧
      (blank = [] ∧ front ≠ [] ∨ blank = [[]]) ∧ (path.child name).isAbsolute = path.isAbsolute := by
  have happend (text : String) : (text ++ name).toList = text.toList ++ name.toList :=
    String.toList_append
  have hslash : ("/" : String).toList = ['/'] := rfl
  rw [child]
  by_cases hempty : path.text = ""
  · have hchars : path.text.toList = [] := by rw [hempty]; rfl
    have hhead : name.toList.head? ≠ some '/' := fun h' => h.no_slash (List.mem_of_head? h')
    have hblank : path.segments = [] ++ [[]] := by rw [segments, hchars]; rfl
    refine ⟨[], [[]], hblank, ?_, .inr rfl, ?_⟩
    · simp [hempty, segments, splitOn_name h]
    · simp [hempty, isAbsolute, hhead]
  have hne : path.text.toList ≠ [] := by simpa using hempty
  by_cases hends : path.text.toList.getLast? = some '/'
  · obtain ⟨front, hfront⟩ := List.getLast?_eq_some_iff.mp hends
    have hblank : path.segments = front.splitOn '/' ++ [[]] := by
      rw [segments, hfront, List.splitOn_append_cons_self]
      rfl
    rw [if_pos (by simp [hends])]
    refine ⟨_, _, hblank, ?_, .inr rfl, ?_⟩
    · simp [segments, happend, hfront, List.splitOn_append_cons_self, splitOn_name h]
    · simp [isAbsolute, happend, hfront]
  · rw [if_neg (by simp [hempty, hends])]
    have hsegments : path.segments ≠ [] := List.splitOn_ne_nil _ _
    refine ⟨_, [], (List.append_nil _).symm, ?_, .inl ⟨rfl, hsegments⟩, ?_⟩
    · simp [segments, happend, hslash, String.toList_append, List.splitOn_append_cons_self,
        splitOn_name h]
    · simp [isAbsolute, happend, hslash, String.toList_append, List.head?_append_of_ne_nil _ hne]

/-- The place with a name under a path has the path's components and the name. -/
theorem components_child (path : Path) (h : IsName name) :
    (path.child name).components = path.components ++ [.name name] := by
  obtain ⟨front, blank, hsegments, hsegments', hblank, habsolute⟩ := segments_child path h
  exact components_append h hsegments hsegments' hblank habsolute

end Path

/-! ## Following a path -/

/-- All folders on the way, and the entry at the end. -/
structure Trail.WellNamed (trail : Trail) : Prop where
  folders : ∀ folder ∈ trail.folders, folder.WellNamed
  here : trail.here.WellNamed

theorem Entry.WellNamed.find? {entry found : Entry} {name : String} (h : entry.WellNamed)
    (hfound : entry.find? name = some found) : found.WellNamed := by
  have hmem := mem_of_find? hfound
  cases h with
  | file content => cases hmem
  | folder access hdistinct hnames hentries => exact hentries _ hmem

namespace Trail.WellNamed

variable {trail trail' : Trail}

theorem atRoot {root : Entry} (h : root.WellNamed) : (Trail.atRoot root).WellNamed :=
  ⟨List.forall_mem_nil _, h⟩

theorem enter {name : String} (h : trail.WellNamed) (henter : trail.enter name = .ok trail') :
    trail'.WellNamed := by
  rw [Trail.enter] at henter
  split at henter
  · rename_i found hfound
    cases henter
    exact ⟨List.forall_mem_cons.mpr ⟨h.here, h.folders⟩, h.here.find? hfound⟩
  · cases henter

theorem leave (h : trail.WellNamed) : trail.leave.WellNamed := by
  obtain ⟨names, folders, here⟩ := trail
  obtain ⟨hfolders, hhere⟩ := h
  cases folders with
  | nil => exact ⟨hfolders, hhere⟩
  | cons outer folders =>
    obtain ⟨houter, hrest⟩ := List.forall_mem_cons.mp hfolders
    exact ⟨hrest, houter⟩

theorem step {limits : PathLimits} {segment : String} (h : trail.WellNamed)
    (hstep : trail.step limits segment = .ok trail') : trail'.WellNamed := by
  rw [Trail.step] at hstep
  split at hstep
  · cases hstep
  split at hstep
  · cases hstep
    exact h
  split at hstep
  · cases hstep
  split at hstep
  · cases hstep
    exact h
  split at hstep
  · cases hstep
    exact h.leave
  split at hstep
  · cases hstep
  · exact h.enter hstep

/-- What holds of every single step holds of all. -/
theorem steps {go : Trail → String → Except Fault Trail} {segments : List String}
    (h : trail.WellNamed) (hsteps : segments.foldlM go trail = .ok trail')
    (hgo : ∀ {trail segment trail'}, Trail.WellNamed trail → go trail segment = .ok trail' →
      trail'.WellNamed) : trail'.WellNamed := by
  induction segments generalizing trail with
  | nil =>
    cases hsteps
    exact h
  | cons segment rest ih =>
    rw [List.foldlM_cons] at hsteps
    obtain ⟨next, hstep, hsteps⟩ := bind_eq_ok.mp hsteps
    exact ih (hgo h hstep) hsteps

end Trail.WellNamed

theorem FileSystem.follow_eq_ok_iff {files : FileSystem} {path : Path} {trail : Trail} :
    files.follow path = .ok trail ↔
      files.limits.check path = .ok () ∧ ∃ start, files.start path = .ok start ∧
        (path.segments.map String.ofList).foldlM (Trail.step files.limits) start = .ok trail := by
  rw [follow, bind_eq_ok]
  simp only [bind_eq_ok]
  exact ⟨fun ⟨⟨⟩, hcheck, h⟩ => ⟨hcheck, h⟩, fun ⟨hcheck, h⟩ => ⟨(), hcheck, h⟩⟩

theorem Trail.eq_of_step_empty {limits : PathLimits} {trail trail' : Trail}
    (h : trail.step limits "" = .ok trail') : trail' = trail := by
  rw [step] at h
  split at h
  · cases h
  · rw [if_pos rfl] at h
    cases h
    rfl

/-- From a folder that a path leads to, the place with a name under the path is one step away. -/
theorem FileSystem.follow_child {files : FileSystem} {path : Path} {trail : Trail} {name : String}
    (hfollow : files.follow path = .ok trail) (hname : IsName name) :
    files.follow (path.child name)
      = files.limits.check (path.child name) >>= fun _ => trail.step files.limits name := by
  obtain ⟨-, start, hstart, hsteps⟩ := follow_eq_ok_iff.mp hfollow
  obtain ⟨front, blank, hsegments, hsegments', hblank, habsolute⟩ := path.segments_child hname
  have hstart' : files.start (path.child name) = .ok start := by
    rw [FileSystem.start, habsolute]
    exact hstart
  have hfront : (front.map String.ofList).foldlM (Trail.step files.limits) start = .ok trail := by
    rw [hsegments, List.map_append, List.foldlM_append] at hsteps
    obtain ⟨reached, hreached, hblanks⟩ := bind_eq_ok.mp hsteps
    obtain ⟨rfl, -⟩ | rfl := hblank
    · cases hblanks
      exact hreached
    · -- a slash at the end leads nowhere else
      obtain ⟨last, hstep, hlast⟩ := bind_eq_ok.mp hblanks
      cases hlast
      rwa [Trail.eq_of_step_empty hstep]
  rw [follow, hstart', hsegments', ok_bind, List.map_append, List.foldlM_append, hfront, ok_bind,
    List.map_singleton, String.ofList_toList, List.foldlM_cons]
  exact bind_congr fun _ => bind_pure _

/-- What stands at the end of a path is as well named as the whole. -/
theorem FileSystem.wellNamed_follow {files : FileSystem} {path : Path} {trail : Trail}
    (h : files.root.WellNamed) (hfollow : files.follow path = .ok trail) : trail.WellNamed := by
  obtain ⟨-, start, hstart, hsteps⟩ := follow_eq_ok_iff.mp hfollow
  refine Trail.WellNamed.steps ?_ hsteps Trail.WellNamed.step
  rw [FileSystem.start] at hstart
  split at hstart
  · cases hstart
    exact .atRoot h
  · exact Trail.WellNamed.steps (.atRoot h) hstart Trail.WellNamed.enter

end LineLexer.Files
