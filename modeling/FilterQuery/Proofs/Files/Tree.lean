import FilterQuery.Files.Tree

/-!
# Reading and writing files

What is written at a path is read there, and every other place keeps its content. A new directory
changes no file and keeps every path alive, but it can give life to a path that goes through it and
back: only a path that never goes back leads to the same place as before, or to none.
-/

namespace FilterQuery.FileTree

/-! ## Contents -/

theorem lookup_putFile (place : Place) (content : String) (files : List (Place × String)) :
    (putFile place content files).lookup place = some content := by
  induction files with
  | nil => simp [putFile]
  | cons file rest ih =>
    obtain ⟨p, c⟩ := file
    rw [putFile]
    split
    · simp
    · rename_i hne
      rw [List.lookup_cons, beq_eq_false_iff_ne.mpr (Ne.symm hne)]
      exact ih

theorem lookup_putFile_of_ne {place other : Place} (hne : other ≠ place) (content : String)
    (files : List (Place × String)) :
    (putFile place content files).lookup other = files.lookup other := by
  induction files with
  | nil => simp [putFile, List.lookup_cons, beq_eq_false_iff_ne.mpr hne]
  | cons file rest ih =>
    obtain ⟨p, c⟩ := file
    rw [putFile]
    split
    · rename_i hp
      rw [List.lookup_cons, List.lookup_cons, hp, beq_eq_false_iff_ne.mpr hne]
    · rw [List.lookup_cons, List.lookup_cons, ih]

/-! ## Paths -/

variable {t t' : FileTree}

/-- Where a name leads from a directory, whatever the tree is. -/
inductive Leads (place : Place) : String → Place → Prop where
  /-- Nothing and a dot stay in the directory. -/
  | stay {name : String} (h : name = "" ∨ name = ".") : Leads place name place
  /-- Two dots go back to the directory above. -/
  | back (h : place.isEmpty = false) : Leads place ".." place.dropLast
  /-- Any other name goes down. -/
  | down {name : String} (hstay : ¬ (name = "" ∨ name = ".")) (hback : name ≠ "..")
      (hsize : name.utf8ByteSize ≤ maxNameSize) : Leads place name (place ++ [name])

theorem enter_eq_ok_iff {place entered : Place} :
    t.enter place = .ok entered ↔ t.isDirectory place = true ∧ entered = place := by
  rw [enter]
  split
  · rename_i hdir
    exact ⟨fun h => ⟨hdir, (Except.ok.inj h).symm⟩, fun h => by rw [h.2]⟩
  · rename_i hdir
    constructor
    · intro h
      split at h <;> cases h
    · exact fun h => absurd h.1 hdir

/-- A path goes on where its first name leads, and that name has to stand in a directory. -/
theorem follow_cons_eq_ok_iff {place found : Place} {name : String} {rest : List String} :
    t.follow place (name :: rest) = .ok found ↔
      t.isDirectory place = true ∧ ∃ next, Leads place name next ∧
        t.follow next rest = .ok found := by
  simp only [follow, Bool.or_eq_true, decide_eq_true_eq]
  constructor
  · intro h
    split at h
    · cases h
    · rename_i entered henter
      obtain ⟨hdir, rfl⟩ := enter_eq_ok_iff.mp henter
      refine ⟨hdir, ?_⟩
      split at h
      · rename_i hstay
        exact ⟨_, .stay hstay, h⟩
      · rename_i hstay
        split at h
        · rename_i hback
          split at h
          · cases h
          · rename_i hempty
            exact ⟨_, hback ▸ .back (Bool.not_eq_true _ ▸ hempty), h⟩
        · rename_i hback
          split at h
          · cases h
          · rename_i hsize
            exact ⟨_, .down hstay hback (Nat.le_of_not_lt hsize), h⟩
  · rintro ⟨hdir, next, hleads, h⟩
    rw [enter_eq_ok_iff.mpr ⟨hdir, rfl⟩]
    dsimp only
    cases hleads with
    | stay hstay => rw [if_pos hstay, h]
    | back hempty => rw [if_neg (by decide), if_pos rfl, hempty, if_neg (by decide), h]
    | down hstay hback hsize =>
      rw [if_neg hstay, if_neg hback, if_neg (Nat.not_lt_of_le hsize), h]

/-- A tree has the directories of another one and perhaps more, below the same root. -/
structure Extends (t' t : FileTree) : Prop where
  /-- The root is the same. -/
  root : t'.root = t.root
  /-- Every directory is still there. -/
  directories : ∀ place, t.isDirectory place = true → t'.isDirectory place = true

/-- A path leads on to the same place when there are more directories. -/
theorem Extends.follow (h : t'.Extends t) {place found : Place} {names : List String}
    (hfollow : t.follow place names = .ok found) : t'.follow place names = .ok found := by
  induction names generalizing place with
  | nil => exact hfollow
  | cons name rest ih =>
    obtain ⟨hdir, next, hleads, hrest⟩ := follow_cons_eq_ok_iff.mp hfollow
    exact follow_cons_eq_ok_iff.mpr ⟨h.directories place hdir, next, hleads, ih hrest⟩

/-- A path that never goes back leads downwards. -/
theorem isPrefix_of_follow {place found : Place} {names : List String} (hback : ".." ∉ names)
    (h : t.follow place names = .ok found) : place <+: found := by
  induction names generalizing place with
  | nil => exact Except.ok.inj h ▸ List.prefix_rfl
  | cons name rest ih =>
    obtain ⟨-, next, hleads, hrest⟩ := follow_cons_eq_ok_iff.mp h
    rw [List.mem_cons, not_or] at hback
    have hnext := ih hback.2 hrest
    cases hleads with
    | stay => exact hnext
    | back => exact absurd rfl hback.1
    | down => exact (List.prefix_append place [name]).trans hnext

/-- A path that never goes back has led all along to a place that is no directory, if everything
above that place has always been one. -/
theorem follow_of_follow {place found : Place} {names : List String} (hback : ".." ∉ names)
    (hfound : t'.isDirectory found = false)
    (habove : ∀ above, above <+: found → above ≠ found → t.isDirectory above = true)
    (h : t'.follow place names = .ok found) : t.follow place names = .ok found := by
  induction names generalizing place with
  | nil => exact h
  | cons name rest ih =>
    have hplace := isPrefix_of_follow hback h
    obtain ⟨hdir, next, hleads, hrest⟩ := follow_cons_eq_ok_iff.mp h
    have hne : place ≠ found := by
      rintro rfl
      rw [hfound] at hdir
      cases hdir
    rw [List.mem_cons, not_or] at hback
    exact follow_cons_eq_ok_iff.mpr ⟨habove place hplace hne, next, hleads, ih hback.2 hrest⟩

/-- The place of a path is what its names lead to from the root, if the path can be one. -/
theorem locate_eq_ok_iff {path : String} {place : Place} :
    t.locate path = .ok place ↔
      (path.toList.contains '\x00' = false ∧ path ≠ "" ∧ path.utf8ByteSize ≤ maxPathSize) ∧
        t.follow [] (t.relative path) = .ok place := by
  rw [locate]
  split
  · rename_i hend
    constructor
    · intro h
      cases h
    · exact fun h => absurd (hend.symm.trans h.1.1) (by decide)
  · rename_i hend
    split
    · rename_i hempty
      constructor
      · intro h
        cases h
      · exact fun h => absurd hempty h.1.2.1
    · rename_i hempty
      split
      · rename_i hsize
        constructor
        · intro h
          cases h
        · exact fun h => absurd h.1.2.2 (Nat.not_le_of_lt hsize)
      · rename_i hsize
        rw [Bool.not_eq_true] at hend
        exact ⟨fun h => ⟨⟨hend, hempty, Nat.le_of_not_lt hsize⟩, h⟩, fun h => h.2⟩

theorem relative_eq_of_root (h : t'.root = t.root) (path : String) :
    t'.relative path = t.relative path := by
  rw [relative, relative, h]

/-- A path keeps its place when there are more directories. -/
theorem Extends.locate (h : t'.Extends t) {path : String} {place : Place}
    (hplace : t.locate path = .ok place) : t'.locate path = .ok place := by
  rw [locate_eq_ok_iff] at hplace ⊢
  rw [relative_eq_of_root h.root]
  exact ⟨hplace.1, h.follow hplace.2⟩

/-- The names behind the root go back only where the names of the path do; only a path from another
root starts by going back, and it leads nowhere. -/
theorem not_mem_relative {path : String} {place : Place} (hback : ".." ∉ Path.pieces path)
    (h : t.follow [] (t.relative path) = .ok place) : ".." ∉ t.relative path := by
  rw [relative] at h ⊢
  split
  · exact fun hmem => hback (List.mem_of_mem_drop hmem)
  · rename_i hroot
    split
    · rename_i hslash
      rw [if_neg hroot, if_pos hslash] at h
      obtain ⟨-, next, hleads, -⟩ := follow_cons_eq_ok_iff.mp h
      cases hleads with
      | stay hstay => exact absurd hstay (by decide)
      | back hempty => cases hempty
      | down _ hne => exact absurd rfl hne
    · exact hback

/-- Every file stands in directories. -/
def Rooted (t : FileTree) : Prop :=
  ∀ place content, t.file? place = some content →
    ∀ above, above <+: place → above ≠ place → t.isDirectory above = true

/-- The files that are given by their paths stand in directories. -/
theorem rooted_ofFiles (root : String) (files : List (String × String)) :
    (ofFiles root files).Rooted := by
  intro place content hfile above habove hne
  obtain ⟨before, behind, hplaced, -⟩ := List.lookup_eq_some_iff.mp hfile
  have hmem : (place, content) ∈ (ofFiles root files).files := by
    rw [hplaced]
    exact List.mem_append_right before List.mem_cons_self
  obtain ⟨below, rfl⟩ := habove
  have hbelow : 0 < below.length := by
    refine List.length_pos_iff.mpr ?_
    rintro rfl
    exact hne (List.append_nil above).symm
  rw [isDirectory, Bool.or_eq_true, List.contains_iff_mem]
  cases above with
  | nil => exact .inl rfl
  | cons name above =>
    refine .inr (List.mem_eraseDups.mpr (List.mem_flatMap.mpr ⟨_, hmem, ?_⟩))
    rw [directoriesTo, List.mem_map]
    refine ⟨above.length, List.mem_range.mpr ?_, ?_⟩
    · rw [List.length_append, List.length_cons]
      omega
    · exact List.take_left' rfl

/-- In a tree whose files stand in directories, a path that never goes back leads to a file already
before there are more directories. -/
theorem Rooted.locate (hrooted : t.Rooted) (h : t'.Extends t) {path content : String}
    {place : Place} (hback : ".." ∉ Path.pieces path) (hplace : t'.locate path = .ok place)
    (hdir : t'.isDirectory place = false) (hfile : t.file? place = some content) :
    t.locate path = .ok place := by
  rw [locate_eq_ok_iff] at hplace ⊢
  have hnames := not_mem_relative hback hplace.2
  rw [relative_eq_of_root h.root] at hplace hnames
  exact ⟨hplace.1, follow_of_follow hnames hdir (hrooted place content hfile) hplace.2⟩

/-! ## Reading and writing -/

theorem read_of_locate {path content : String} {place : Place} (hplace : t.locate path = .ok place)
    (hdir : t.isDirectory place = false) (hfile : t.file? place = some content) :
    t.read path = .ok content := by
  rw [read, hplace]
  dsimp only
  rw [hdir, hfile]
  rfl

/-- A content is written where the path leads, which is no directory. -/
theorem write_eq_ok_iff {path content : String} {written : FileTree} :
    t.write path content = .ok written ↔
      endsWithSlash path = false ∧ ∃ place, t.locate path = .ok place ∧
        t.isDirectory place = false ∧
          written = { t with files := putFile place content t.files } := by
  rw [write]
  split
  · rename_i hslash
    cases t.locate (Path.trimmed path) <;> simp [Except.bind, hslash]
  · rename_i hslash
    rw [Bool.not_eq_true] at hslash
    cases hplace : t.locate path with
    | error e => simp
    | ok place =>
      cases hdir : t.isDirectory place with
      | true => simp [hdir]
      | false =>
        dsimp only
        rw [hdir, if_neg Bool.false_ne_true]
        constructor
        · intro h
          exact ⟨hslash, place, rfl, hdir, (Except.ok.inj h).symm⟩
        · rintro ⟨-, _, ⟨⟩, -, rfl⟩
          rfl

/-- Writing a file changes no directory. -/
theorem extends_of_write {path content : String} {written : FileTree}
    (h : t.write path content = .ok written) : written.Extends t := by
  obtain ⟨-, place, -, -, rfl⟩ := write_eq_ok_iff.mp h
  exact ⟨rfl, fun _ hplace => hplace⟩

/-- What has been written at a path is read there, and every other place keeps its content. -/
theorem exists_place_of_write {path content : String} {written : FileTree}
    (h : t.write path content = .ok written) :
    ∃ place, t.locate path = .ok place ∧ t.isDirectory place = false ∧
      written.locate path = .ok place ∧ written.read path = .ok content ∧
        written.file? place = some content ∧
          ∀ other, other ≠ place → written.file? other = t.file? other := by
  have hextends := extends_of_write h
  obtain ⟨-, place, hplace, hdir, rfl⟩ := write_eq_ok_iff.mp h
  have hlocate := hextends.locate hplace
  have hfile := lookup_putFile place content t.files
  exact ⟨place, hplace, hdir, hlocate, read_of_locate hlocate hdir hfile, hfile,
    fun other hne => lookup_putFile_of_ne hne content t.files⟩

theorem hasPath_of_file? {path content : String} {place : Place}
    (hplace : t.locate path = .ok place) (hfile : t.file? place = some content) :
    t.hasPath path = true := by
  rw [hasPath, hplace]
  dsimp only
  rw [hasPlace, hfile]
  exact Bool.or_true _

/-- A new directory is one more where nothing stood. -/
theorem makeDirectory_eq_ok_iff {path : String} {made : FileTree} :
    t.makeDirectory path = .ok made ↔
      ∃ place, t.locate (Path.trimmed path) = .ok place ∧ t.hasPlace place = false ∧
        made = { t with directories := t.directories ++ [place] } := by
  rw [makeDirectory]
  cases t.locate (Path.trimmed path) with
  | error e => simp
  | ok place =>
    cases hplace : t.hasPlace place with
    | true => simp [hplace]
    | false =>
      dsimp only
      rw [hplace, if_neg Bool.false_ne_true]
      constructor
      · intro h
        exact ⟨place, rfl, hplace, (Except.ok.inj h).symm⟩
      · rintro ⟨_, ⟨⟩, -, rfl⟩
        rfl

end FilterQuery.FileTree
