import Aff4Lite.Lib.Loop
import Aff4Lite.Resolver.LightResolver

/-!
# The table of volumes

A scan only adds filenames that the table does not hold, so that none is recorded under two
resource IDs. A file that is recorded is not looked at again: `open` hands out what the file
has become.
-/

set_option autoImplicit false

namespace Aff4Lite.Resolver

open Lib Aff4Lite.Stream

/-- No filename stands under two resource IDs, and no resource ID is empty. -/
structure Catalogued (volumes : Volumes) : Prop where
  unique : ∀ left ∈ volumes.entries, ∀ right ∈ volumes.entries, left.2 = right.2 → left = right
  named : ∀ entry ∈ volumes.entries, entry.1 ≠ []

theorem Catalogued.empty : Catalogued .empty := ⟨by simp, by simp⟩

theorem Catalogued.erase {volumes : Volumes} (catalogued : Catalogued volumes)
    (resource : Bytes) : Catalogued (volumes.erase resource) := by
  refine ⟨?_, ?_⟩
  · intro left leftMember right rightMember
    exact catalogued.unique left (OrderedMap.mem_erase.mp leftMember).1 right
      (OrderedMap.mem_erase.mp rightMember).1
  · exact fun entry member => catalogued.named entry (OrderedMap.mem_erase.mp member).1

private theorem not_recorded {volumes : Volumes} {filename : Bytes}
    (missing : ¬mapContains volumes filename) : ∀ entry ∈ volumes.entries, entry.2 ≠ filename := by
  intro entry member same
  exact missing (List.any_eq_true.mpr ⟨entry, member, by simpa using same⟩)

theorem Catalogued.insert {volumes : Volumes} (catalogued : Catalogued volumes)
    {resID filename : Bytes} (missing : ¬mapContains volumes filename) (nonempty : resID ≠ []) :
    Catalogued (volumes.insert resID filename) := by
  have elsewhere := not_recorded missing
  refine ⟨?_, ?_⟩
  · intro left leftMember right rightMember same
    rcases OrderedMap.mem_insert.mp leftMember with rfl | ⟨leftOld, _⟩
    · rcases OrderedMap.mem_insert.mp rightMember with rfl | ⟨rightOld, _⟩
      · rfl
      · exact absurd same.symm (elsewhere right rightOld)
    · rcases OrderedMap.mem_insert.mp rightMember with rfl | ⟨rightOld, _⟩
      · exact absurd same (elsewhere left leftOld)
      · exact catalogued.unique left leftOld right rightOld same
  · intro entry member
    rcases OrderedMap.mem_insert.mp member with rfl | ⟨old, _⟩
    · exact nonempty
    · exact catalogued.named entry old

namespace LightResolver

/-! ## Scans -/

section Scan

variable {self : LightResolver} {files : FileSystem} {holds : Volumes → Prop}

/-- What holds of a table after a file has been recorded that the table did not hold. -/
def KeptByAdding (files : FileSystem) (holds : Volumes → Prop) : Prop :=
  ∀ volumes filename volume resID, holds volumes → ¬mapContains volumes filename →
    files.stat filename = some (.file volume) → volume.resourceID = some resID → resID ≠ [] →
    holds (volumes.insert resID filename)

theorem addVolume_keeps (kept : KeptByAdding files holds) {volume : Volume} {filename : Bytes}
    (found : files.stat filename = some (.file volume)) {volumes result : Volumes}
    (before : holds volumes) (added : addVolume volume filename volumes = some result) :
    holds result := by
  unfold addVolume at added
  split at added
  · cases added
    exact before
  · rename_i missing
    cases read : volume.resourceID with
    | none => simp [read] at added
    | some resID =>
        cases resID with
        | nil =>
            simp only [read, Option.some.injEq] at added
            exact added ▸ before
        | cons byte rest =>
            simp only [read, Option.some.injEq] at added
            exact added ▸ kept _ _ _ _ before missing found read (List.cons_ne_nil byte rest)

private theorem visit_keeps (kept : KeptByAdding files holds)
    {descend : Bytes → Volumes → Option Volumes}
    (descends : ∀ path volumes result, holds volumes → descend path volumes = some result →
      holds result) {path filename : Bytes} {volumes result : Volumes} (before : holds volumes)
    (visited : self.visit files descend path volumes filename = some result) : holds result := by
  unfold visit at visited
  split at visited
  · cases visited
    exact before
  · dsimp only at visited
    split at visited
    · rename_i volume found
      split at visited
      · exact addVolume_keeps kept found before visited
      · cases visited
        exact before
    · split at visited
      · exact descends _ _ _ before visited
      · cases visited
        exact before
    · cases visited
      exact before

private theorem scanFolder_keeps (kept : KeptByAdding files holds) {fuel : Nat} {path : Bytes}
    {volumes result : Volumes} (before : holds volumes)
    (scanned : self.scanFolder files fuel path volumes = some result) : holds result := by
  induction fuel generalizing path volumes result with
  | zero => simp [scanFolder] at scanned
  | succ fuel ih =>
      unfold scanFolder at scanned
      split at scanned
      · cases scanned
        exact before
      · split at scanned
        · refine foldlM_keeps ?_ before scanned
          intro volumes filename result before visited
          exact visit_keeps kept (fun _ _ _ => ih) before visited
        · cases scanned

private theorem scan_catalogued {volumes result : Volumes} (catalogued : Catalogued volumes)
    (scanned : self.scanForAFF4Volumes files volumes = some result) : Catalogued result :=
  scanFolder_keeps (fun _ _ _ _ before missing _ _ nonempty => before.insert missing nonempty)
    catalogued scanned

/-- Every entry beside those of `old` is recorded under the resource ID that its file has. -/
def ReadFrom (files : FileSystem) (old volumes : Volumes) : Prop :=
  ∀ entry ∈ volumes.entries, entry ∈ old.entries ∨
    ∃ volume, files.stat entry.2 = some (.file volume) ∧ volume.resourceID = some entry.1

end Scan

/-! ## Calls -/

section Calls

variable {self : LightResolver} {files : FileSystem} {resource : Bytes} {volumes known : Volumes}

private theorem hasResource_catalogued {found : Bool} (catalogued : Catalogued volumes)
    (asked : self.hasResource files resource volumes = some (found, known)) :
    Catalogued known := by
  unfold hasResource at asked
  split at asked
  · cases asked
    exact catalogued
  · split at asked
    · cases asked
      exact catalogued
    · cases scanned : self.scanForAFF4Volumes files volumes with
      | none => simp [scanned] at asked
      | some rescanned =>
          simp only [scanned, Option.some.injEq, Prod.mk.injEq] at asked
          exact asked.2 ▸ scan_catalogued catalogued scanned

theorem hasResource_true (asked : self.hasResource files resource volumes = some (true, known)) :
    resource ≠ [] ∧ ∃ filename, known.find? resource = some filename := by
  unfold hasResource at asked
  split at asked
  · cases asked
  · rename_i nonempty
    refine ⟨nonempty, ?_⟩
    split at asked
    · rename_i recorded
      cases asked
      exact Option.isSome_iff_exists.mp recorded
    · cases scanned : self.scanForAFF4Volumes files volumes with
      | none => simp [scanned] at asked
      | some rescanned =>
          simp only [scanned, Option.some.injEq, Prod.mk.injEq] at asked
          obtain ⟨recorded, rfl⟩ := asked
          exact Option.isSome_iff_exists.mp recorded

theorem openContainer_of_model {filename resID : Bytes} {volume : Volume}
    (found : files.stat filename = some (.file volume)) (isContainer : isAFF4Container filename)
    (read : volume.resourceID = some resID) (nonempty : resID ≠ [])
    (entries : volume.hasEntries = some true) (model : volume.hasModel = true) :
    openContainer files filename = some (some ⟨filename, resID⟩) := by
  unfold openContainer
  rw [found]
  cases resID with
  | nil => exact absurd rfl nonempty
  | cons byte rest => simp only [isContainer, read, entries, model, if_true]

/-- A container file that loads: its resource ID and its entries are read, and if it has both
there is a model, and the ID is `resource`. -/
def LoadsAs (files : FileSystem) (filename resource : Bytes) : Prop :=
  ∀ volume, files.stat filename = some (.file volume) → isAFF4Container filename →
    ∃ resID, volume.resourceID = some resID ∧ (resID ≠ [] →
      ∃ found, volume.hasEntries = some found ∧
        (found = true → volume.hasModel = true ∧ resID = resource))

private theorem openContainer_loads_iff {filename : Bytes} :
    (∃ container, openContainer files filename = some container ∧
      ∀ found ∈ container, found.resourceID = resource) ↔ LoadsAs files filename resource := by
  unfold openContainer LoadsAs
  cases stat : files.stat filename with
  | none => simp
  | some entity =>
      cases entity with
      | directory listing => simp
      | special => simp
      | file volume =>
          obtain ⟨resourceID, hasEntries, hasModel⟩ := volume
          by_cases isContainer : isAFF4Container filename
          · cases resourceID with
            | none => simp [isContainer]
            | some resID =>
                cases resID with
                | nil => simp [isContainer]
                | cons byte rest =>
                    rcases hasEntries with _ | _ | _ <;> cases hasModel <;> simp [isContainer]
          · simp [isContainer]

/-- The files as an `open(resource)` needs them: a file that was recorded for `resource` before
loads, with that ID; where none was, the rescan comes back, and so does the loading of the file
that it records. -/
structure Current (resolver : LightResolver) (files : FileSystem) (volumes : Volumes)
    (resource : Bytes) : Prop where
  recorded : ∀ filename, volumes.find? resource = some filename →
    LoadsAs files filename resource
  unrecorded : resource ≠ [] → volumes.find? resource = none →
    ∃ rescanned, resolver.scanForAFF4Volumes files volumes = some rescanned ∧
      ∀ filename, rescanned.find? resource = some filename → LoadsAs files filename resource

private theorem openResource_catalogued {container : Option Container}
    (catalogued : Catalogued volumes)
    (opened : self.openResource files resource volumes = some (container, known)) :
    Catalogued known := by
  unfold openResource at opened
  cases asked : self.hasResource files resource volumes with
  | none => simp [asked] at opened
  | some answer =>
      obtain ⟨found, after⟩ := answer
      have kept := hasResource_catalogued catalogued asked
      cases found with
      | false =>
          simp only [asked, Option.some.injEq, Prod.mk.injEq] at opened
          exact opened.2 ▸ kept
      | true =>
          simp only [asked] at opened
          split at opened
          · split at opened
            · cases opened
            · simp only [Option.some.injEq, Prod.mk.injEq] at opened
              exact opened.2 ▸ kept
          · simp only [Option.some.injEq, Prod.mk.injEq] at opened
            exact opened.2 ▸ kept.erase resource

/-- `open` comes back, with null or with a container of the resource ID. -/
def Delivers (self : LightResolver) (files : FileSystem) (volumes : Volumes)
    (resource : Bytes) : Prop :=
  ∃ container known, self.openResource files resource volumes = some (container, known) ∧
    ∀ found ∈ container, found.resourceID = resource

/-- What `open` hands out is the container that the recorded file is now. -/
theorem delivers_of_known {filename : Bytes}
    (asked : self.hasResource files resource volumes = some (true, known))
    (recorded : known.find? resource = some filename) :
    self.Delivers files volumes resource ↔ LoadsAs files filename resource := by
  rw [← openContainer_loads_iff]
  unfold Delivers openResource
  simp only [asked, recorded, Option.getD_some]
  cases stat : files.stat filename with
  | none =>
      have missing : files.fileExists filename = false := by
        rw [FileSystem.fileExists, stat]
        rfl
      have nothing : openContainer files filename = some none := by
        rw [openContainer, stat]
      simp [missing, nothing]
  | some entity =>
      have present : files.fileExists filename = true := by
        rw [FileSystem.fileExists, stat]
        rfl
      cases openContainer files filename <;> simp [present]

private theorem delivers_of_unknown
    (asked : self.hasResource files resource volumes = some (false, known)) :
    self.Delivers files volumes resource :=
  ⟨none, known, by rw [openResource, asked], by simp⟩

private theorem delivers_iff (catalogued : Catalogued volumes) :
    self.Delivers files volumes resource ↔ self.Current files volumes resource := by
  by_cases empty : resource = []
  · have asked : self.hasResource files resource volumes = some (false, volumes) := if_pos empty
    refine ⟨fun _ => ⟨?_, fun named => absurd empty named⟩, fun _ => delivers_of_unknown asked⟩
    intro filename recorded
    exact absurd empty (catalogued.named _ (OrderedMap.find?_eq_some_iff.mp recorded))
  · cases held : volumes.find? resource with
    | some filename =>
        have asked : self.hasResource files resource volumes = some (true, volumes) := by
          simp [hasResource, empty, held]
        rw [delivers_of_known asked held]
        constructor
        · intro loads
          refine ⟨fun other recorded => ?_, fun _ missing => ?_⟩
          · cases held.symm.trans recorded
            exact loads
          · cases held.symm.trans missing
        · exact fun current => current.recorded filename held
    | none =>
        cases scanned : self.scanForAFF4Volumes files volumes with
        | none =>
            have asked : self.hasResource files resource volumes = none := by
              simp [hasResource, empty, held, scanned]
            constructor
            · rintro ⟨container, known, opened, _⟩
              simp [openResource, asked] at opened
            · intro current
              obtain ⟨rescanned, returned, _⟩ := current.unrecorded empty held
              cases scanned.symm.trans returned
        | some rescanned =>
            have asked : self.hasResource files resource volumes =
                some ((rescanned.find? resource).isSome, rescanned) := by
              simp [hasResource, empty, held, scanned]
            have current_iff : self.Current files volumes resource ↔
                ∀ filename, rescanned.find? resource = some filename →
                  LoadsAs files filename resource := by
              constructor
              · intro current
                obtain ⟨again, returned, loads⟩ := current.unrecorded empty held
                cases scanned.symm.trans returned
                exact loads
              · intro loads
                refine ⟨fun filename recorded => ?_, fun _ _ => ⟨rescanned, scanned, loads⟩⟩
                cases held.symm.trans recorded
            rw [current_iff]
            cases found : rescanned.find? resource with
            | none =>
                rw [found] at asked
                exact ⟨fun _ filename recorded => (by cases recorded),
                  fun _ => delivers_of_unknown asked⟩
            | some filename =>
                rw [found] at asked
                rw [delivers_of_known asked found]
                simp

end Calls

/-! ## Runs -/

section Runs

variable {self : LightResolver} {files : FileSystem} {state : State}

@[simp] theorem step_before (event : Event) : (self.step state event).before = state := by
  cases event <;> unfold step
  · rfl
  · dsimp only
    split <;> rfl
  · dsimp only
    split <;> rfl

@[simp] theorem step_event (event : Event) : (self.step state event).event = event := by
  cases event <;> unfold step
  · rfl
  · dsimp only
    split <;> rfl
  · dsimp only
    split <;> rfl

private theorem step_catalogued (catalogued : Catalogued state.volumes) (event : Event) :
    Catalogued (self.step state event).after.volumes := by
  cases event with
  | change changed => exact catalogued
  | hasResource resource =>
      unfold step
      dsimp only
      split
      · exact catalogued
      · rename_i asked
        exact hasResource_catalogued catalogued asked
  | openResource resource =>
      unfold step
      dsimp only
      split
      · exact catalogued
      · rename_i opened
        exact openResource_catalogued catalogued opened

private theorem step_delivers_iff (resource : Bytes) :
    (∃ container, (self.step state (.openResource resource)).answer = .opened container ∧
      ∀ found ∈ container, found.resourceID = resource) ↔
      self.Delivers state.files state.volumes resource := by
  unfold step Delivers
  cases opened : self.openResource state.files resource state.volumes with
  | none => simp [opened]
  | some outcome =>
      obtain ⟨container, known⟩ := outcome
      simp [opened]

private theorem run_moments {events : List Event} (catalogued : Catalogued state.volumes)
    {moment : Moment} (member : moment ∈ self.run state events) :
    Catalogued moment.before.volumes ∧ self.step moment.before moment.event = moment := by
  induction events generalizing state with
  | nil => simp [run] at member
  | cons event events ih =>
      have first : Catalogued (self.step state event).before.volumes ∧
          self.step (self.step state event).before (self.step state event).event =
            self.step state event := by
        rw [step_before, step_event]
        exact ⟨catalogued, rfl⟩
      unfold run at member
      dsimp only at member
      split at member
      · rw [List.mem_singleton.mp member]
        exact first
      · rcases List.mem_cons.mp member with rfl | later
        · exact first
        · exact ih (step_catalogued catalogued event) later

private theorem create_catalogued (created : self.create files = some state) :
    Catalogued state.volumes := by
  cases scanned : self.scanForAFF4Volumes files .empty with
  | none => simp [create, scanned] at created
  | some volumes =>
      simp only [create, scanned, Option.some.injEq] at created
      exact created ▸ scan_catalogued .empty scanned

/-- Over every history of the files, no filename is recorded under two resource IDs. An `open(r)`
comes back, with null or with a container of the ID `r`, exactly when the files are as it needs
them; above all the file that was recorded for `r` must not have become another container. -/
theorem run_opens_iff (created : self.create files = some state) (events : List Event) :
    Catalogued state.volumes ∧
      ∀ moment ∈ self.run state events, Catalogued moment.after.volumes ∧
        ∀ resource, moment.event = .openResource resource →
          ((∃ container, moment.answer = .opened container ∧
              ∀ found ∈ container, found.resourceID = resource) ↔
            self.Current moment.before.files moment.before.volumes resource) := by
  have start := create_catalogued created
  refine ⟨start, ?_⟩
  intro moment member
  obtain ⟨catalogued, stepped⟩ := run_moments start member
  refine ⟨?_, ?_⟩
  · have kept := @step_catalogued self moment.before catalogued moment.event
    rwa [stepped] at kept
  · intro resource event
    have delivers := @step_delivers_iff self moment.before resource
    rw [← event, stepped] at delivers
    exact delivers.trans (delivers_iff catalogued)

end Runs

def evidence : LightResolver := ⟨text "d", true⟩

/-- A directory with one container, whose resource ID is `resID`. -/
def oneContainer (resID : Bytes) : FileSystem :=
  ⟨[(text "d", .directory (some [text "a.aff4"])),
    (text "d/a.aff4", .file ⟨some resID, some true, true⟩)]⟩

/-- The file was replaced by another container. -/
theorem replaced_container_opened :
    ∃ state, evidence.create (oneContainer (text "aff4://a")) = some state ∧
      (evidence.run state [.change (oneContainer (text "aff4://b")),
          .openResource (text "aff4://a")]).map (·.answer) =
        [.nothing, .opened (some ⟨text "d/a.aff4", text "aff4://b"⟩)] ∧
      text "aff4://b" ≠ text "aff4://a" :=
  ⟨_, rfl, rfl, by decide⟩

private theorem evidence_created :
    ∃ state, evidence.create (oneContainer (text "aff4://a")) = some state := ⟨_, rfl⟩

theorem run_opens_iff_evidence :
    ∃ state, evidence.create (oneContainer (text "aff4://a")) = some state ∧
      Catalogued state.volumes ∧
        ∀ moment ∈ evidence.run state [.openResource (text "aff4://a"),
            .change (oneContainer (text "aff4://b")), .openResource (text "aff4://a")],
          Catalogued moment.after.volumes ∧
          ∀ resource, moment.event = .openResource resource →
            ((∃ container, moment.answer = .opened container ∧
                ∀ found ∈ container, found.resourceID = resource) ↔
              evidence.Current moment.before.files moment.before.volumes resource) := by
  obtain ⟨state, created⟩ := evidence_created
  exact ⟨state, created, run_opens_iff created _⟩

end LightResolver

end Aff4Lite.Resolver
