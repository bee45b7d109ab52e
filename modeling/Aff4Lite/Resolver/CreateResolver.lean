import Aff4Lite.Resolver.LightResolverProperties

/-!
# `aff4::container::createResolver`

A path that names a file is replaced by its directory. The table of a resolver over a tree
holds the resource IDs of the files that its scan covers, and later scans keep it so.
-/

set_option autoImplicit false

namespace Aff4Lite.Resolver

open Lib Aff4Lite.Stream

/-! ## `createResolver` -/

def isSlash (byte : UInt8) : Bool := byte = 0x2f

/-- `while (hasSuffix(path, "/")) path = path.substr(0, path.length() - 1);` -/
def stripTrailing (path : Bytes) : Bytes := path.rdropWhile isSlash

/-- `dirname` of a path that does not end in a slash. -/
def dirname (path : Bytes) : Bytes :=
  let dir := path.rdropWhile fun byte => !isSlash byte
  if dir = [] then text "."
  else if stripTrailing dir = [] then text "/"
  else stripTrailing dir

def FileSystem.isFile (files : FileSystem) (path : Bytes) : Bool :=
  match files.stat path with
  | some (.file _) => true
  | _ => false

section Stat

variable {files : FileSystem} {path : Bytes}

private theorem isFile_of_file {volume : Volume} (file : files.stat path = some (.file volume)) :
    files.isFile path = true := by
  unfold FileSystem.isFile
  rw [file]

private theorem isFile_of_directory {listing : Option (List Bytes)}
    (directory : files.stat path = some (.directory listing)) : files.isFile path = false := by
  unfold FileSystem.isFile
  rw [directory]

theorem fileExists_of_stat {entity : Entity} (stat : files.stat path = some entity) :
    files.fileExists path = true := by
  unfold FileSystem.fileExists
  rw [stat]
  rfl

end Stat

/-- The inner `none` is the null pointer. `fuel` bounds the depth of the calls. -/
def createWithin (files : FileSystem) :
    Nat → Bytes → Bool → Option (Option (LightResolver × State))
  | 0, _, _ => none
  | fuel + 1, path, scanSubFolders =>
      let path := stripTrailing path
      if path = [] then some none
      else if !files.fileExists path then some none
      else if files.isFile path then
        -- scanSubFolders is not handed on, and its default is true.
        createWithin files fuel (dirname path) true
      else
        let resolver : LightResolver := ⟨path, scanSubFolders⟩
        match resolver.create files with
        | none => none
        | some state => some (some (resolver, state))

/-- A directory name is shorter than its path, apart from that of `.`. -/
def createResolver (files : FileSystem) (path : Bytes) (scanSubFolders : Bool) :
    Option (Option (LightResolver × State)) :=
  createWithin files (path.length + 2) path scanSubFolders

/-! ## Trees -/

/-- Every directory can be listed, and the directory of a file is one. -/
structure FileSystem.Readable (files : FileSystem) : Prop where
  listed : ∀ {path : Bytes} {listing : Option (List Bytes)},
    files.stat path = some (.directory listing) → ∃ names, listing = some names
  inDirectory : ∀ {path : Bytes} {volume : Volume}, files.stat path = some (.file volume) →
    dirname path ≠ text "/" → ∃ names, files.stat (dirname path) = some (.directory (some names))

def child (path filename : Bytes) : Bytes := path ++ text "/" ++ filename

def isDots (filename : Bytes) : Prop := filename = text "." ∨ filename = text ".."

/-- A file with an AFF4 extension in the directory `path`, or below it where `deep` is set. -/
inductive Within (files : FileSystem) (deep : Bool) : Bytes → Volume → Prop where
  | file {path filename : Bytes} {names : List Bytes} {volume : Volume} :
      files.stat path = some (.directory (some names)) → filename ∈ names → ¬isDots filename →
      files.stat (child path filename) = some (.file volume) → isAFF4Container filename →
      Within files deep path volume
  | deeper {path filename : Bytes} {names : List Bytes} {listing : Option (List Bytes)}
      {volume : Volume} : deep = true →
      files.stat path = some (.directory (some names)) → filename ∈ names → ¬isDots filename →
      files.stat (child path filename) = some (.directory listing) →
      Within files deep (child path filename) volume → Within files deep path volume

/-- The files that the loop over a directory comes to through one of its names. -/
def FoundAt (files : FileSystem) (deep : Bool) (path filename : Bytes) (volume : Volume) : Prop :=
  ¬isDots filename ∧
    (files.stat (child path filename) = some (.file volume) ∧ isAFF4Container filename = true ∨
      deep = true ∧ (∃ listing, files.stat (child path filename) = some (.directory listing)) ∧
        Within files deep (child path filename) volume)

private theorem within_iff {files : FileSystem} {deep : Bool} {path : Bytes} {names : List Bytes}
    (directory : files.stat path = some (.directory (some names))) (volume : Volume) :
    Within files deep path volume ↔
      ∃ filename ∈ names, FoundAt files deep path filename volume := by
  constructor
  · intro within
    cases within with
    | file listed member named found isContainer =>
        cases directory.symm.trans listed
        exact ⟨_, member, named, .inl ⟨found, isContainer⟩⟩
    | deeper isDeep listed member named found rest =>
        cases directory.symm.trans listed
        exact ⟨_, member, named, .inr ⟨isDeep, ⟨_, found⟩, rest⟩⟩
  · rintro ⟨filename, member, named, ⟨found, isContainer⟩ | ⟨isDeep, ⟨listing, found⟩, rest⟩⟩
    · exact .file directory member named found isContainer
    · exact .deeper isDeep directory member named found rest

theorem FoundAt.entity {files : FileSystem} {deep : Bool} {path filename : Bytes}
    {volume : Volume} (found : FoundAt files deep path filename volume) {entity : Option Entity}
    (stat : files.stat (child path filename) = entity) :
    entity = some (.file volume) ∧ isAFF4Container filename = true ∨
      deep = true ∧ (∃ listing, entity = some (.directory listing)) ∧
        Within files deep (child path filename) volume :=
  stat ▸ found.2

/-- A file in the scope of a scan of `base` has the resource ID. -/
def Yields (files : FileSystem) (deep : Bool) (base resource : Bytes) : Prop :=
  resource ≠ [] ∧ ∃ volume, Within files deep base volume ∧ volume.resourceID = some resource

/-- `getResourceID` comes back for every file in the scope. -/
def Returns (files : FileSystem) (deep : Bool) (base : Bytes) : Prop :=
  ∀ volume, Within files deep base volume → ∃ resource, volume.resourceID = some resource

/-! ## Scans -/

/-- Every entry is recorded under the resource ID of its file. -/
def AllRead (files : FileSystem) (volumes : Volumes) : Prop :=
  LightResolver.ReadFrom files .empty volumes

/-- `after` has the resource IDs of `before`, and those of the files that are `found`. -/
structure Scanned (files : FileSystem) (before after : Volumes) (found : Volume → Prop) :
    Prop where
  allRead : AllRead files after
  returns : ∀ volume, found volume → ∃ resource, volume.resourceID = some resource
  keys : ∀ resource, (after.find? resource).isSome ↔ (before.find? resource).isSome ∨
    resource ≠ [] ∧ ∃ volume, found volume ∧ volume.resourceID = some resource

section Scanned

variable {files : FileSystem} {before middle after : Volumes} {found others : Volume → Prop}

theorem Scanned.none (allRead : AllRead files before) (nothing : ∀ volume, ¬found volume) :
    Scanned files before before found where
  allRead := allRead
  returns volume is := absurd is (nothing volume)
  keys resource := by simp [nothing]

theorem Scanned.trans (first : Scanned files before middle found)
    (second : Scanned files middle after others) :
    Scanned files before after fun volume => found volume ∨ others volume where
  allRead := second.allRead
  returns volume is := is.elim (first.returns volume) (second.returns volume)
  keys resource := by
    rw [second.keys, first.keys]
    constructor
    · rintro ((old | ⟨named, volume, is, read⟩) | ⟨named, volume, is, read⟩)
      · exact .inl old
      · exact .inr ⟨named, volume, .inl is, read⟩
      · exact .inr ⟨named, volume, .inr is, read⟩
    · rintro (old | ⟨named, volume, is | is, read⟩)
      · exact .inl (.inl old)
      · exact .inl (.inr ⟨named, volume, is, read⟩)
      · exact .inr ⟨named, volume, is, read⟩

theorem Scanned.congr (scanned : Scanned files before after found)
    (same : ∀ volume, others volume ↔ found volume) : Scanned files before after others where
  allRead := scanned.allRead
  returns volume is := scanned.returns volume ((same volume).mp is)
  keys resource := by
    simp only [same]
    exact scanned.keys resource

theorem AllRead.recorded (allRead : AllRead files before) {filename : Bytes} {volume : Volume}
    (stat : files.stat filename = some (.file volume)) (contains : mapContains before filename) :
    ∃ resource, volume.resourceID = some resource ∧ (before.find? resource).isSome := by
  obtain ⟨entry, member, same⟩ := List.any_eq_true.mp contains
  have named : entry.2 = filename := by simpa using same
  rcases allRead entry member with impossible | ⟨recorded, statRecorded, read⟩
  · cases impossible
  · rw [named] at statRecorded
    cases stat.symm.trans statRecorded
    have held : before.find? entry.1 = some entry.2 := OrderedMap.find?_eq_some_iff.mpr member
    exact ⟨entry.1, read, by rw [held]; rfl⟩

end Scanned

namespace LightResolver

section Scan

variable {self : LightResolver} {files : FileSystem}

private theorem addVolume_scanned {volume : Volume} {filename : Bytes}
    (stat : files.stat filename = some (.file volume)) {before after : Volumes}
    (allRead : AllRead files before) (added : addVolume volume filename before = some after) :
    Scanned files before after (· = volume) := by
  have kept : AllRead files after := by
    refine addVolume_keeps ?_ stat allRead added
    intro volumes filename volume resID held _ found read _ entry member
    rcases OrderedMap.mem_insert.mp member with rfl | ⟨old, _⟩
    · exact .inr ⟨volume, found, read⟩
    · exact held entry old
  unfold addVolume at added
  split at added
  · rename_i contains
    obtain ⟨recorded, read, held⟩ := allRead.recorded stat contains
    cases added
    refine ⟨kept, ?_, ?_⟩
    · rintro _ rfl
      exact ⟨recorded, read⟩
    · intro resource
      constructor
      · exact .inl
      · rintro (old | ⟨_, _, rfl, same⟩)
        · exact old
        · cases read.symm.trans same
          exact held
  · cases read : volume.resourceID with
    | none => simp [read] at added
    | some resID =>
        refine ⟨kept, ?_, ?_⟩
        · rintro _ rfl
          exact ⟨resID, read⟩
        · intro resource
          cases resID with
          | nil =>
              simp only [read, Option.some.injEq] at added
              subst added
              constructor
              · exact .inl
              · rintro (old | ⟨named, _, rfl, same⟩)
                · exact old
                · cases read.symm.trans same
                  exact absurd rfl named
          | cons byte rest =>
              simp only [read, Option.some.injEq] at added
              subst added
              rw [OrderedMap.find?_insert]
              by_cases same : resource = byte :: rest
              · subst same
                simp [read]
              · rw [if_neg same]
                constructor
                · exact .inl
                · rintro (old | ⟨_, _, rfl, other⟩)
                  · exact old
                  · cases read.symm.trans other
                    exact absurd rfl same

private theorem visit_scanned {descend : Bytes → Volumes → Option Volumes}
    (descends : ∀ path before after, path ≠ [] → AllRead files before →
      descend path before = some after →
      Scanned files before after (Within files self.scanSubFolders path))
    {path filename : Bytes} {before after : Volumes} (allRead : AllRead files before)
    (visited : self.visit files descend path before filename = some after) :
    Scanned files before after (FoundAt files self.scanSubFolders path filename) := by
  unfold visit at visited
  split at visited
  · rename_i dots
    cases visited
    exact .none allRead fun volume found => found.1 dots
  · rename_i named
    have isChild : path ++ text "/" ++ filename = child path filename := rfl
    have nonempty : child path filename ≠ [] := by simp [child, text]
    rw [isChild] at visited
    cases stat : files.stat (child path filename) with
    | none =>
        simp only [stat] at visited
        cases visited
        exact .none allRead fun volume found => absurd (found.entity stat) (by simp)
    | some entity =>
        cases entity with
        | special =>
            simp only [stat] at visited
            cases visited
            exact .none allRead fun volume found => absurd (found.entity stat) (by simp)
        | file volume =>
            simp only [stat] at visited
            by_cases isContainer : isAFF4Container filename
            · rw [if_pos isContainer] at visited
              refine (addVolume_scanned stat allRead visited).congr fun other => ?_
              constructor
              · intro found
                rcases found.entity stat with ⟨⟨⟩, _⟩ | ⟨_, ⟨_, ⟨⟩⟩, _⟩
                rfl
              · rintro rfl
                exact ⟨named, .inl ⟨stat, isContainer⟩⟩
            · rw [if_neg isContainer] at visited
              cases visited
              refine .none allRead fun other found => ?_
              rcases found.entity stat with ⟨_, extension⟩ | ⟨_, ⟨_, ⟨⟩⟩, _⟩
              exact isContainer extension
        | directory listing =>
            simp only [stat] at visited
            by_cases deep : self.scanSubFolders = true
            · rw [if_pos deep] at visited
              refine (descends _ _ _ nonempty allRead visited).congr fun volume => ?_
              constructor
              · intro found
                rcases found.entity stat with ⟨⟨⟩, _⟩ | ⟨_, _, within⟩
                exact within
              · exact fun within => ⟨named, .inr ⟨deep, ⟨listing, stat⟩, within⟩⟩
            · rw [if_neg deep] at visited
              cases visited
              refine .none allRead fun volume found => ?_
              rcases found.entity stat with ⟨⟨⟩, _⟩ | ⟨isDeep, _, _⟩
              exact deep isDeep

private theorem names_scanned {descend : Bytes → Volumes → Option Volumes}
    (descends : ∀ path before after, path ≠ [] → AllRead files before →
      descend path before = some after →
      Scanned files before after (Within files self.scanSubFolders path))
    {path : Bytes} {names : List Bytes} {before after : Volumes} (allRead : AllRead files before)
    (visited : names.foldlM (self.visit files descend path) before = some after) :
    Scanned files before after fun volume =>
      ∃ filename ∈ names, FoundAt files self.scanSubFolders path filename volume := by
  induction names generalizing before with
  | nil =>
      cases visited
      exact .none allRead (by simp)
  | cons filename names ih =>
      rw [List.foldlM_cons] at visited
      cases turned : self.visit files descend path before filename with
      | none => simp [turned] at visited
      | some middle =>
          rw [turned] at visited
          have first := visit_scanned descends allRead turned
          exact (first.trans (ih first.allRead visited)).congr fun volume => by simp

theorem scanFolder_scanned {fuel : Nat} {path : Bytes} {before after : Volumes}
    (nonempty : path ≠ []) (allRead : AllRead files before)
    (scanned : self.scanFolder files fuel path before = some after) :
    Scanned files before after (Within files self.scanSubFolders path) := by
  induction fuel generalizing path before after with
  | zero => simp [scanFolder] at scanned
  | succ fuel ih =>
      unfold scanFolder at scanned
      rw [if_neg nonempty] at scanned
      split at scanned
      · rename_i names listed
        refine (names_scanned ?_ allRead scanned).congr (within_iff listed)
        exact fun _ _ _ => ih
      · cases scanned

/-! ## Scans come back -/

theorem length_le_depth {path : Bytes} {entity : Entity} (stat : files.stat path = some entity) :
    path.length ≤ files.depth := by
  obtain ⟨entities⟩ := files
  obtain ⟨item, found, _⟩ := Option.map_eq_some_iff.mp stat
  have member := List.mem_of_find?_eq_some found
  have same : item.1 = path := by simpa using List.find?_some found
  subst same
  clear found stat
  unfold FileSystem.depth
  induction entities with
  | nil => simp at member
  | cons first rest ih =>
      rcases List.mem_cons.mp member with rfl | later
      · exact Nat.le_max_left _ _
      · exact (ih later).trans (Nat.le_max_right _ _)

private theorem addVolume_returns {volume : Volume} {resource : Bytes}
    (read : volume.resourceID = some resource) (filename : Bytes) (before : Volumes) :
    ∃ after, addVolume volume filename before = some after := by
  unfold addVolume
  by_cases contains : mapContains before filename
  · exact ⟨before, if_pos contains⟩
  · rw [if_neg contains, read]
    cases resource with
    | nil => exact ⟨before, rfl⟩
    | cons byte rest => exact ⟨_, rfl⟩

private theorem visit_returns {descend : Bytes → Volumes → Option Volumes} {path filename : Bytes}
    (descends : ∀ listing, files.stat (child path filename) = some (.directory listing) →
      Returns files self.scanSubFolders (child path filename) →
      ∀ before, ∃ after, descend (child path filename) before = some after)
    (returns : ∀ volume, FoundAt files self.scanSubFolders path filename volume →
      ∃ resource, volume.resourceID = some resource) (before : Volumes) :
    ∃ after, self.visit files descend path before filename = some after := by
  unfold visit
  by_cases dots : filename = text "." ∨ filename = text ".."
  · exact ⟨before, if_pos dots⟩
  · have isChild : path ++ text "/" ++ filename = child path filename := rfl
    rw [if_neg dots, isChild]
    dsimp only
    cases stat : files.stat (child path filename) with
    | none => exact ⟨before, rfl⟩
    | some entity =>
        cases entity with
        | special => exact ⟨before, rfl⟩
        | file volume =>
            by_cases isContainer : isAFF4Container filename
            · obtain ⟨resource, read⟩ := returns volume ⟨dots, .inl ⟨stat, isContainer⟩⟩
              obtain ⟨after, added⟩ := addVolume_returns read (child path filename) before
              exact ⟨after, by simp only [if_pos isContainer, added]⟩
            · exact ⟨before, by simp only [if_neg isContainer]⟩
        | directory listing =>
            by_cases deep : self.scanSubFolders = true
            · have below : Returns files self.scanSubFolders (child path filename) :=
                fun volume within => returns volume ⟨dots, .inr ⟨deep, ⟨listing, stat⟩, within⟩⟩
              obtain ⟨after, descended⟩ := descends listing stat below before
              exact ⟨after, by simp only [if_pos deep, descended]⟩
            · exact ⟨before, by simp only [if_neg deep]⟩

private theorem names_return {descend : Bytes → Volumes → Option Volumes} {path : Bytes}
    (descends : ∀ filename listing, files.stat (child path filename) = some (.directory listing) →
      Returns files self.scanSubFolders (child path filename) →
      ∀ before, ∃ after, descend (child path filename) before = some after)
    {names : List Bytes}
    (returns : ∀ filename ∈ names, ∀ volume,
      FoundAt files self.scanSubFolders path filename volume →
        ∃ resource, volume.resourceID = some resource) (before : Volumes) :
    ∃ after, names.foldlM (self.visit files descend path) before = some after := by
  induction names generalizing before with
  | nil => exact ⟨before, rfl⟩
  | cons filename names ih =>
      obtain ⟨middle, visited⟩ := visit_returns (descends filename)
        (returns filename List.mem_cons_self) before
      obtain ⟨after, rest⟩ :=
        ih (fun other member => returns other (List.mem_cons_of_mem _ member)) middle
      refine ⟨after, ?_⟩
      rw [List.foldlM_cons, visited]
      exact rest

/-- The fuel covers the directories, as every path is longer than that of its directory. -/
theorem scanFolder_returns (readable : files.Readable) {fuel : Nat} {path : Bytes}
    {listing : Option (List Bytes)} (directory : files.stat path = some (.directory listing))
    (enough : files.depth < fuel + path.length)
    (returns : Returns files self.scanSubFolders path) (before : Volumes) :
    ∃ after, self.scanFolder files fuel path before = some after := by
  induction fuel generalizing path listing before with
  | zero =>
      have short := length_le_depth directory
      omega
  | succ fuel ih =>
      obtain ⟨names, rfl⟩ := readable.listed directory
      unfold scanFolder
      by_cases nonempty : path = []
      · exact ⟨before, if_pos nonempty⟩
      · rw [if_neg nonempty, directory]
        refine names_return ?_ ?_ before
        · intro filename inner stat below
          have longer : (child path filename).length = path.length + 1 + filename.length := by
            simp [child, text]
            omega
          exact ih stat (by omega) below
        · intro filename member volume found
          exact returns volume ((within_iff directory volume).mpr ⟨filename, member, found⟩)

end Scan

/-! ## What a resolver knows -/

/-- The tables that `hasResource` and `open` lead to while the files stay as they are. -/
inductive Reaches (self : LightResolver) (files : FileSystem) (start : Volumes) :
    Volumes → Prop where
  | refl : Reaches self files start start
  | hasResource {before after : Volumes} {resource : Bytes} {found : Bool} :
      Reaches self files start before →
      self.hasResource files resource before = some (found, after) →
      Reaches self files start after
  | openResource {before after : Volumes} {resource : Bytes} {container : Option Container} :
      Reaches self files start before →
      self.openResource files resource before = some (container, after) →
      Reaches self files start after

/-- Whatever was asked before, `hasResource` comes back and knows exactly the resource IDs. -/
def KnowsExactly (self : LightResolver) (files : FileSystem) (volumes : Volumes)
    (resources : Bytes → Prop) : Prop :=
  ∀ reached, self.Reaches files volumes reached → ∀ resource, ∃ found after,
    self.hasResource files resource reached = some (found, after) ∧
      (found = true ↔ resources resource)

/-- The table of a resolver whose scan covers the base directory. -/
structure Covers (files : FileSystem) (deep : Bool) (base : Bytes) (volumes : Volumes) :
    Prop where
  allRead : AllRead files volumes
  keys : ∀ resource, (volumes.find? resource).isSome ↔ Yields files deep base resource

section Knows

variable {self : LightResolver} {files : FileSystem} {volumes : Volumes}

theorem scan_covers (nonempty : self.basePath ≠ []) (allRead : AllRead files volumes)
    (known : ∀ resource, (volumes.find? resource).isSome →
      Yields files self.scanSubFolders self.basePath resource) {after : Volumes}
    (scanned : self.scanForAFF4Volumes files volumes = some after) :
    Covers files self.scanSubFolders self.basePath after := by
  have result := scanFolder_scanned nonempty allRead scanned
  refine ⟨result.allRead, fun resource => ?_⟩
  rw [result.keys]
  exact ⟨fun held => held.elim (known resource) id, .inr⟩

theorem Covers.hasResource (covers : Covers files self.scanSubFolders self.basePath volumes)
    (nonempty : self.basePath ≠ []) {resource : Bytes} {found : Bool} {after : Volumes}
    (asked : self.hasResource files resource volumes = some (found, after)) :
    Covers files self.scanSubFolders self.basePath after ∧
      (found = true ↔ Yields files self.scanSubFolders self.basePath resource) := by
  unfold LightResolver.hasResource at asked
  by_cases empty : resource = []
  · rw [if_pos empty] at asked
    cases asked
    exact ⟨covers, by simp [Yields, empty]⟩
  · rw [if_neg empty] at asked
    by_cases held : (volumes.find? resource).isSome
    · rw [if_pos held] at asked
      cases asked
      exact ⟨covers, iff_of_true rfl ((covers.keys resource).mp held)⟩
    · rw [if_neg held] at asked
      cases scanned : self.scanForAFF4Volumes files volumes with
      | none => simp [scanned] at asked
      | some rescanned =>
          simp only [scanned, Option.some.injEq, Prod.mk.injEq] at asked
          obtain ⟨rfl, rfl⟩ := asked
          have again := scan_covers nonempty covers.allRead
            (fun resource => (covers.keys resource).mp) scanned
          exact ⟨again, again.keys resource⟩

/-- The file of an entry exists, so that `open` never erases it. -/
theorem Covers.openResource (covers : Covers files self.scanSubFolders self.basePath volumes)
    (nonempty : self.basePath ≠ []) {resource : Bytes} {container : Option Container}
    {after : Volumes}
    (opened : self.openResource files resource volumes = some (container, after)) :
    Covers files self.scanSubFolders self.basePath after := by
  unfold LightResolver.openResource at opened
  cases asked : self.hasResource files resource volumes with
  | none => simp [asked] at opened
  | some answer =>
      obtain ⟨found, known⟩ := answer
      have kept := (covers.hasResource nonempty asked).1
      cases found with
      | false =>
          simp only [asked, Option.some.injEq, Prod.mk.injEq] at opened
          exact opened.2 ▸ kept
      | true =>
          obtain ⟨_, filename, recorded⟩ := hasResource_true asked
          have member := OrderedMap.find?_eq_some_iff.mp recorded
          have present : files.fileExists filename = true := by
            rcases kept.allRead _ member with impossible | ⟨volume, stat, _⟩
            · cases impossible
            · exact fileExists_of_stat stat
          simp only [asked, recorded, Option.getD_some, present, if_true] at opened
          split at opened
          · cases opened
          · simp only [Option.some.injEq, Prod.mk.injEq] at opened
            exact opened.2 ▸ kept

theorem Reaches.covers {reached : Volumes} (reaches : self.Reaches files volumes reached)
    (nonempty : self.basePath ≠ [])
    (covers : Covers files self.scanSubFolders self.basePath volumes) :
    Covers files self.scanSubFolders self.basePath reached := by
  induction reaches with
  | refl => exact covers
  | hasResource _ asked ih => exact (ih.hasResource nonempty asked).1
  | openResource _ opened ih => exact ih.openResource nonempty opened

theorem hasResource_returns {listing : Option (List Bytes)} (readable : files.Readable)
    (directory : files.stat self.basePath = some (.directory listing))
    (returns : Returns files self.scanSubFolders self.basePath) (resource : Bytes)
    (volumes : Volumes) :
    ∃ found after, self.hasResource files resource volumes = some (found, after) := by
  unfold LightResolver.hasResource
  by_cases empty : resource = []
  · exact ⟨_, _, if_pos empty⟩
  · rw [if_neg empty]
    by_cases held : (volumes.find? resource).isSome
    · exact ⟨_, _, if_pos held⟩
    · rw [if_neg held]
      obtain ⟨after, scanned⟩ : ∃ after, self.scanForAFF4Volumes files volumes = some after :=
        scanFolder_returns readable directory (by omega) returns volumes
      exact ⟨_, after, by rw [scanned]⟩

/-- A resolver over a directory knows what its scan covers, and it comes back where
`getResourceID` does. -/
theorem create_knows_iff {listing : Option (List Bytes)} (readable : files.Readable)
    (nonempty : self.basePath ≠ [])
    (directory : files.stat self.basePath = some (.directory listing))
    (resources : Bytes → Prop) :
    (∃ state, self.create files = some state ∧
        self.KnowsExactly files state.volumes resources) ↔
      Returns files self.scanSubFolders self.basePath ∧
        ∀ resource, Yields files self.scanSubFolders self.basePath resource ↔
          resources resource := by
  constructor
  · rintro ⟨state, created, knows⟩
    cases scanned : self.scanForAFF4Volumes files .empty with
    | none => simp [create, scanned] at created
    | some volumes =>
        simp only [create, scanned, Option.some.injEq] at created
        subst created
        have empty : AllRead files .empty := fun entry member => .inl member
        refine ⟨(scanFolder_scanned nonempty empty scanned).returns, fun resource => ?_⟩
        have covers := scan_covers nonempty empty (by simp) scanned
        obtain ⟨found, after, asked, known⟩ := knows volumes .refl resource
        exact (covers.hasResource nonempty asked).2.symm.trans known
  · rintro ⟨returns, same⟩
    obtain ⟨volumes, scanned⟩ : ∃ volumes, self.scanForAFF4Volumes files .empty = some volumes :=
      scanFolder_returns readable directory (by omega) returns .empty
    have covers := scan_covers nonempty (fun entry member => .inl member) (by simp) scanned
    refine ⟨⟨files, volumes⟩, by rw [create, scanned], ?_⟩
    intro reached reaches resource
    obtain ⟨found, after, asked⟩ := hasResource_returns readable directory returns resource reached
    have answer := (reaches.covers nonempty covers).hasResource nonempty asked
    exact ⟨found, after, asked, answer.2.trans (same resource)⟩

end Knows

end LightResolver

/-! ## Paths -/

theorem stripTrailing_idem (path : Bytes) : stripTrailing (stripTrailing path) =
    stripTrailing path :=
  List.rdropWhile_idempotent isSlash path

private theorem dirname_stripped {path : Bytes} (notRoot : dirname path ≠ text "/") :
    stripTrailing (dirname path) = dirname path ∧ dirname path ≠ [] := by
  unfold dirname at notRoot ⊢
  dsimp only at notRoot ⊢
  split at notRoot
  · rename_i bare
    rw [if_pos bare]
    decide
  · rename_i dir
    rw [if_neg dir]
    split at notRoot
    · exact absurd rfl notRoot
    · rename_i rest
      rw [if_neg rest]
      exact ⟨stripTrailing_idem _, rest⟩

/-- `path` itself, or its parent directory when it is a file. -/
def baseDirectory (files : FileSystem) (path : Bytes) : Bytes :=
  if files.isFile (stripTrailing path) then dirname (stripTrailing path) else stripTrailing path

/-- The resolver for `path` is made, and knows the resource IDs of the base directory. -/
def KnowsBase (files : FileSystem) (path : Bytes) (scanSubFolders : Bool) : Prop :=
  ∃ self state, createResolver files path scanSubFolders = some (some (self, state)) ∧
    self.KnowsExactly files state.volumes
      (Yields files scanSubFolders (baseDirectory files path))

section Create

variable {files : FileSystem} {path : Bytes}

private theorem createWithin_directory {listing : Option (List Bytes)}
    (nonempty : stripTrailing path ≠ [])
    (directory : files.stat (stripTrailing path) = some (.directory listing)) (fuel : Nat)
    (deep : Bool) (self : LightResolver) (state : State) :
    createWithin files (fuel + 1) path deep = some (some (self, state)) ↔
      self = ⟨stripTrailing path, deep⟩ ∧ self.create files = some state := by
  have notFile := isFile_of_directory directory
  have present := fileExists_of_stat directory
  simp only [createWithin, if_neg nonempty, notFile, present]
  cases created : LightResolver.create ⟨stripTrailing path, deep⟩ files with
  | none =>
      constructor
      · intro impossible
        simp at impossible
      · rintro ⟨rfl, other⟩
        cases created.symm.trans other
  | some made =>
      constructor
      · intro same
        simp only [Bool.not_true, Bool.false_eq_true, if_false, Option.some.injEq,
          Prod.mk.injEq] at same
        obtain ⟨rfl, rfl⟩ := same
        exact ⟨rfl, created⟩
      · rintro ⟨rfl, other⟩
        cases created.symm.trans other
        rfl

private theorem createWithin_file {volume : Volume} (nonempty : stripTrailing path ≠ [])
    (file : files.stat (stripTrailing path) = some (.file volume)) (fuel : Nat) (deep : Bool) :
    createWithin files (fuel + 1) path deep =
      createWithin files fuel (dirname (stripTrailing path)) true := by
  have isFile := isFile_of_file file
  have present := fileExists_of_stat file
  simp [createWithin, nonempty, isFile, present]

theorem Within.mono {base : Bytes} {deep : Bool} {volume : Volume}
    (within : Within files deep base volume) : Within files true base volume := by
  induction within with
  | file listed member named found isContainer =>
      exact .file listed member named found isContainer
  | deeper _ listed member named found _ ih => exact .deeper rfl listed member named found ih

theorem Yields.mono {base resource : Bytes} {deep : Bool}
    (yields : Yields files deep base resource) : Yields files true base resource := by
  obtain ⟨named, volume, within, read⟩ := yields
  exact ⟨named, volume, within.mono, read⟩

/-- The scope of the resolver for a file is that of `scanSubFolders = true`, whatever was asked
for, and there is no resolver for a file in the root directory. -/
theorem knowsBase_iff (readable : files.Readable) (scanSubFolders : Bool)
    (notRoot : stripTrailing path ≠ [])
    (named : (∃ volume, files.stat (stripTrailing path) = some (.file volume)) ∨
      ∃ listing, files.stat (stripTrailing path) = some (.directory listing)) :
    KnowsBase files path scanSubFolders ↔
      (files.isFile (stripTrailing path) → dirname (stripTrailing path) ≠ text "/") ∧
      Returns files (scanSubFolders || files.isFile (stripTrailing path))
        (baseDirectory files path) ∧
      (files.isFile (stripTrailing path) → ∀ resource,
        Yields files true (baseDirectory files path) resource →
          Yields files scanSubFolders (baseDirectory files path) resource) := by
  unfold KnowsBase createResolver
  rcases named with ⟨volume, file⟩ | ⟨listing, directory⟩
  · have isFile := isFile_of_file file
    have base : baseDirectory files path = dirname (stripTrailing path) := if_pos isFile
    rw [base, isFile, Bool.or_true, createWithin_file notRoot file]
    simp only [true_implies]
    by_cases inRoot : dirname (stripTrailing path) = text "/"
    · constructor
      · rintro ⟨self, state, made, _⟩
        rw [inRoot] at made
        have null : createWithin files (path.length + 1) (text "/") true = some none := rfl
        rw [null] at made
        cases made
      · rintro ⟨elsewhere, _⟩
        exact absurd inRoot elsewhere
    · obtain ⟨stripped, nonempty⟩ := dirname_stripped inRoot
      obtain ⟨names, directory⟩ := readable.inDirectory file inRoot
      have made := @createWithin_directory files (dirname (stripTrailing path)) (some names)
        (by rwa [stripped]) (by rwa [stripped]) path.length true
      have knows := @LightResolver.create_knows_iff ⟨dirname (stripTrailing path), true⟩ files
        (some names) readable nonempty directory
        (Yields files scanSubFolders (dirname (stripTrailing path)))
      rw [stripped] at made
      constructor
      · rintro ⟨self, state, returned, known⟩
        obtain ⟨rfl, created⟩ := (made self state).mp returned
        obtain ⟨returns, same⟩ := knows.mp ⟨state, created, known⟩
        exact ⟨inRoot, returns, fun resource => (same resource).mp⟩
      · rintro ⟨_, returns, shallow⟩
        obtain ⟨state, created, known⟩ :=
          knows.mpr ⟨returns, fun resource => ⟨shallow resource, Yields.mono⟩⟩
        exact ⟨_, state, (made _ state).mpr ⟨rfl, created⟩, known⟩
  · have notFile := isFile_of_directory directory
    have base : baseDirectory files path = stripTrailing path :=
      if_neg (Bool.eq_false_iff.mp notFile)
    have made := createWithin_directory notRoot directory (path.length + 1) scanSubFolders
    have knows := @LightResolver.create_knows_iff ⟨stripTrailing path, scanSubFolders⟩ files
      listing readable notRoot directory (Yields files scanSubFolders (stripTrailing path))
    rw [base, notFile, Bool.or_false]
    simp only [Bool.false_eq_true, false_implies, true_and, and_true]
    constructor
    · rintro ⟨self, state, returned, known⟩
      obtain ⟨rfl, created⟩ := (made self state).mp returned
      exact (knows.mp ⟨state, created, known⟩).1
    · intro returns
      obtain ⟨state, created, known⟩ := knows.mpr ⟨returns, fun _ => Iff.rfl⟩
      exact ⟨_, state, (made _ state).mpr ⟨rfl, created⟩, known⟩

end Create

/-- A directory with the container `a`, and the container `b` in a subdirectory. -/
def nested : FileSystem :=
  ⟨[(text "d", .directory (some [text ".", text "a.aff4", text "s"])),
    (text "d/a.aff4", .file ⟨some (text "aff4://a"), some true, true⟩),
    (text "d/s", .directory (some [text "b.aff4"])),
    (text "d/s/b.aff4", .file ⟨some (text "aff4://b"), some true, true⟩)]⟩

private theorem nested_readable : nested.Readable where
  listed {path listing} stat := by
    obtain ⟨item, found, same⟩ := Option.map_eq_some_iff.mp stat
    have member := List.mem_of_find?_eq_some found
    simp only [nested, List.mem_cons, List.not_mem_nil, or_false] at member
    rcases member with rfl | rfl | rfl | rfl
    · exact ⟨_, Entity.directory.inj same.symm⟩
    · cases same
    · exact ⟨_, Entity.directory.inj same.symm⟩
    · cases same
  inDirectory {path volume} stat _ := by
    obtain ⟨item, found, same⟩ := Option.map_eq_some_iff.mp stat
    have member := List.mem_of_find?_eq_some found
    have named : item.1 = path := by simpa using List.find?_some found
    subst named
    simp only [nested, List.mem_cons, List.not_mem_nil, or_false] at member
    rcases member with rfl | rfl | rfl | rfl
    · cases same
    · exact ⟨[text ".", text "a.aff4", text "s"], by decide⟩
    · cases same
    · exact ⟨[text "b.aff4"], by decide⟩

/-- The folder `d`, with two slashes behind its name. -/
theorem knowsBase_nested :
    KnowsBase nested (text "d//") false ↔
      (nested.isFile (text "d") → dirname (text "d") ≠ text "/") ∧
      Returns nested (false || nested.isFile (text "d")) (baseDirectory nested (text "d//")) ∧
      (nested.isFile (text "d") → ∀ resource,
        Yields nested true (baseDirectory nested (text "d//")) resource →
          Yields nested false (baseDirectory nested (text "d//")) resource) :=
  knowsBase_iff nested_readable false (by decide) (.inr ⟨some [text ".", text "a.aff4", text "s"],
    by decide⟩)

/-- The resolver for the file `d/a.aff4` knows the container in the subdirectory. -/
theorem nested_file_deep :
    nested.Readable ∧ nested.stat (text "d/a.aff4") =
        some (.file ⟨some (text "aff4://a"), some true, true⟩) ∧
      (∃ self state known, createResolver nested (text "d/a.aff4") false =
          some (some (self, state)) ∧
        self.hasResource nested (text "aff4://b") state.volumes = some (true, known)) ∧
      ¬Yields nested false (baseDirectory nested (text "d/a.aff4")) (text "aff4://b") ∧
      ¬KnowsBase nested (text "d/a.aff4") false := by
  have unyielded :
      ¬Yields nested false (baseDirectory nested (text "d/a.aff4")) (text "aff4://b") := by
    have base : baseDirectory nested (text "d/a.aff4") = text "d" := by decide
    have listing : nested.stat (text "d") =
        some (.directory (some [text ".", text "a.aff4", text "s"])) := by decide
    rw [base]
    rintro ⟨_, volume, within, read⟩
    obtain ⟨filename, member, _, ⟨found, _⟩ | ⟨impossible, _⟩⟩ :=
      (within_iff listing volume).mp within
    · simp only [List.mem_cons, List.not_mem_nil, or_false] at member
      rcases member with rfl | rfl | rfl
      · cases found
      · cases found
        exact absurd read (by decide)
      · cases found
    · cases impossible
  refine ⟨nested_readable, by decide, ⟨_, _, _, rfl, rfl⟩, unyielded, ?_⟩
  rintro ⟨self, state, made, knows⟩
  obtain ⟨found, after, asked, known⟩ := knows state.volumes .refl (text "aff4://b")
  cases made
  cases asked
  exact unyielded (known.mp rfl)

end Aff4Lite.Resolver
