import Kurdistan.Selfhost.Store

/-!
# Atomicity of the state store

Up to the rename every step leaves the old state in place, and after it the new one. This needs
the sync of the temporary file before the rename, and a single rename: on Windows, where the old
state is first moved away, a crash may leave no state at all.
-/

namespace Kurdistan.Selfhost

open Support

/-! ## What an ending says about the state file -/

/-- The state file before a transaction and after it. -/
structure Transition where
  old : Option File → Prop
  new : Option File → Prop
  found : ¬ (old none ∨ new none)

def Transition.Either (t : Transition) (file : Option File) : Prop := t.old file ∨ t.new file

/-- What a load finds afterwards: the new state after a success, which is durable where the
directory is synced, the old one after every error but `commitUncertain`, and after a crash one
of the two. -/
def Saved (t : Transition) (platform : Platform) : Ending StoreError × Disk StateFile → Prop
  | (.done, disk) =>
    t.new (disk.current .state) ∧ (platform = .unix → disk.Durably .state t.new)
  | (.failed err, disk) =>
    t.Either (disk.current .state) ∧ (err ≠ .commitUncertain → t.old (disk.current .state))
  | (.crashed, disk) => disk.Durably .state t.Either

/-- A later crash can lose both states exactly if `lost`, and then the program has done so exactly
if it `breaks`. -/
structure Ends (t : Transition) (platform : Platform) (lost breaks : Prop)
    (result : Ending StoreError × Disk StateFile) : Prop where
  kept : result.2.Durably .state t.Either ↔ ¬ lost
  saved : Saved t platform result ↔ ¬ (lost ∧ breaks)

variable {t : Transition} {platform : Platform} {faults : Faults} {disk : Disk StateFile}
  {lost breaks : Prop} {result : Ending StoreError × Disk StateFile}

theorem ends_kept (hlost : ¬ lost) (hkept : result.2.Durably .state t.Either)
    (hsaved : Saved t platform result) : Ends t platform lost breaks result :=
  ⟨iff_of_true hkept hlost, iff_of_true hsaved fun h => hlost h.1⟩

/-- A program which is not done and leaves the old state. -/
theorem ends_old (hlost : ¬ lost) (h : result.2.Durably .state t.old) (hending : result.1 ≠ .done) :
    Ends t platform lost breaks result := by
  have hkept : result.2.Durably .state t.Either := h.mono fun _ => .inl
  refine ends_kept hlost hkept ?_
  rcases result with ⟨_ | err | _, disk⟩
  · exact absurd rfl hending
  · exact ⟨hkept.current, fun _ => h.current⟩
  · exact hkept

theorem ends_attempt {fault : Fault} {err : StoreError} {effect : Disk StateFile → Disk StateFile}
    {next : StoreProgram} (h : disk.Durably .state t.old)
    (hnext : Ends t platform lost breaks (next (effect disk))) :
    Ends t platform (fault = .works ∧ lost) breaks (attempt fault err effect next disk) := by
  cases fault with
  | works => simpa [attempt, branch] using hnext
  | fails => exact ends_old (by simp) h (by simp [attempt, branch])
  | crashes => exact ends_old (by simp) h (by simp [attempt, branch])

/-! ## Files next to the state -/

theorem put_apply (name other : StateFile) (file : Option File) (dir : Directory StateFile) :
    put name file dir other = if other = name then file else dir other :=
  Function.update_apply ..

variable {name : StateFile}

theorem put_state (hname : name ≠ .state) (file : Option File) (dir : Directory StateFile) :
    put name file dir .state = dir .state := by
  rw [put_apply, if_neg hname.symm]

theorem durably_put (hname : name ≠ .state) {file : Directory StateFile → Option File}
    {P : Option File → Prop} :
    (disk.change fun dir => put name (file dir) dir).Durably .state P ↔ disk.Durably .state P := by
  simp [Disk.Durably, Disk.change, put_state hname]

/-- The removal of another file at the end. -/
theorem ends_deferring (hname : name ≠ .state) (fault : Fault) {program : StoreProgram}
    (h : Ends t platform lost breaks (program disk)) :
    Ends t platform lost (breaks ∨ fault = .crashes)
      (deferring fault (Disk.change (put name none)) program disk) := by
  unfold deferring
  generalize program disk = result at h
  rcases result with ⟨ending, after⟩
  have hcurrent : (after.change (put name none)).current .state = after.current .state :=
    put_state hname none _
  have hput {P : Option File → Prop} :
      (after.change (put name none)).Durably .state P ↔ after.Durably .state P := durably_put hname
  have hcrashed (hbreaks : lost → breaks ∨ fault = .crashes) :
      Ends t platform lost (breaks ∨ fault = .crashes) (.crashed, after) :=
    ⟨h.kept, h.kept.trans (not_congr ⟨fun hlost => ⟨hlost, hbreaks hlost⟩, And.left⟩)⟩
  cases ending with
  | crashed =>
    refine hcrashed fun hlost => .inl ?_
    by_contra hbreaks
    exact h.kept.mp (h.saved.mpr fun hboth => hbreaks hboth.2) hlost
  | _ =>
    cases fault with
    | works =>
      refine ⟨hput.trans h.kept, Iff.trans ?_ (h.saved.trans (by simp))⟩
      simp only [ignoring, branch, Saved, hcurrent, hput]
    | fails => exact ⟨h.kept, h.saved.trans (by simp)⟩
    | crashes => exact hcrashed fun _ => .inr rfl

/-! ## The rename into place -/

variable {raw : List UInt8}

/-- The old state is everywhere, and the temporary file is durable. -/
structure Staged (t : Transition) (raw : List UInt8) (disk : Disk StateFile) : Prop where
  old : disk.Durably .state t.old
  temporary : disk.current .temporary = some ⟨raw, true⟩

theorem rename_state {dir : Directory StateFile} {file : File} (h : dir name = some file)
    (hname : name ≠ .state) : rename name .state dir .state = some file := by
  rw [rename, if_pos (by simp [h]), put_state hname, put_apply, if_pos rfl, h]

theorem ends_replaceState_unix (hraw : t.new (some ⟨raw, true⟩)) (h : Staged t raw disk) :
    Ends t .unix False breaks (replaceState faults .unix disk) := by
  have hstate := rename_state h.temporary (by decide)
  have hnew : t.new (rename .temporary .state disk.current .state) := by rwa [hstate]
  have hkept : (disk.change (rename .temporary .state)).Durably .state t.Either :=
    Disk.durably_change.mpr ⟨by simpa [hstate] using .inr hraw, h.old.mono fun _ => .inl⟩
  have hsync : (disk.change (rename .temporary .state)).sync.Durably .state t.new := by
    simpa [Disk.Durably, Disk.sync, Disk.change, hstate] using hraw
  simp only [replaceState, alter, check, attempt, branch]
  cases faults .rename with
  | works =>
    cases faults .openDirectory with
    | works =>
      cases faults .syncDirectory with
      | works => exact ends_kept id (hsync.mono fun _ => .inr) ⟨hnew, fun _ => hsync⟩
      | fails => exact ends_kept id hkept ⟨.inr hnew, by simp⟩
      | crashes => exact ends_kept id hkept hkept
    | fails => exact ends_kept id hkept ⟨.inr hnew, by simp⟩
    | crashes => exact ends_kept id hkept hkept
  | _ => exact ends_old id h.old (by simp)

/-! ## Windows -/

/-- The old state is moved away. -/
def Moves (faults : Faults) : Prop :=
  faults .dropPrevious ≠ .crashes ∧ faults .statState = .works ∧ faults .keepPrevious = .works

/-- Then a crash follows, or the old state is not brought back. -/
def Breaks (faults : Faults) : Prop :=
  match faults .rename with
  | .works => faults .dropBackup = .crashes ∨ faults .openDirectory = .crashes
  | .fails => faults .restorePrevious ≠ .works
  | .crashes => True

theorem ends_crashed (h : breaks) :
    Ends t platform (¬ disk.Durably .state t.Either) breaks (.crashed, disk) :=
  ⟨not_not.symm, by simp [Saved, h]⟩

theorem ends_openDirectory (faults : Faults) (disk : Disk StateFile)
    (hnew : t.new (disk.current .state)) :
    Ends t .windows (¬ disk.Durably .state t.Either) (faults .openDirectory = .crashes)
      (check faults .openDirectory .commitUncertain (Prod.mk .done) disk) := by
  simp only [check, attempt, branch]
  cases faults .openDirectory with
  | works => exact ⟨not_not.symm, iff_of_true ⟨hnew, by simp⟩ (by simp)⟩
  | fails => exact ⟨not_not.symm, iff_of_true ⟨.inr hnew, by simp⟩ (by simp)⟩
  | crashes => exact ends_crashed rfl

/-- The end of `installState`: only a crash can lose what is not durable. -/
theorem ends_confirm (faults : Faults) (disk : Disk StateFile)
    (hnew : t.new (disk.current .state)) :
    Ends t .windows (¬ disk.Durably .state t.Either)
      (faults .dropBackup = .crashes ∨ faults .openDirectory = .crashes)
      (remove faults .dropBackup .previous
        (check faults .openDirectory .commitUncertain (Prod.mk .done)) disk) := by
  simp only [remove, ignoring, branch]
  cases faults .dropBackup with
  | works =>
    have hput : (disk.change (put .previous none)).Durably .state t.Either ↔
        disk.Durably .state t.Either := durably_put (by decide)
    simpa [hput] using ends_openDirectory faults (disk.change (put .previous none)) hnew
  | fails => simpa using ends_openDirectory faults disk hnew
  | crashes => exact ends_crashed (.inl rfl)

/-- The old state is in place, or it is the backup and there is no other one. -/
theorem ends_installState (faults : Faults) (disk : Disk StateFile)
    (hraw : t.new (some ⟨raw, true⟩))
    (htemporary : disk.current .temporary = some ⟨raw, true⟩)
    (hback : ∀ after, Leaves (rename .previous .state disk.current .state) after → t.old after)
    (hstate : disk.Durably .state t.old ∨ disk.current .state = none) :
    Ends t .windows (¬ disk.Durably .state t.Either) (Breaks faults)
      (installState faults disk) := by
  simp only [installState, ignoring, branch, Breaks]
  cases faults .rename with
  | works =>
    have hrenamed := rename_state htemporary (by decide)
    have hkept : (disk.change (rename .temporary .state)).Durably .state t.Either ↔
        disk.Durably .state t.Either :=
      Disk.durably_change.trans (and_iff_right (by simpa [hrenamed] using .inr hraw))
    have hnew : t.new (rename .temporary .state disk.current .state) := by rwa [hrenamed]
    simpa [hkept] using ends_confirm faults (disk.change (rename .temporary .state)) hnew
  | fails =>
    cases faults .restorePrevious with
    | works =>
      have hold := hback _ (leaves_refl _)
      have hkept : (disk.change (rename .previous .state)).Durably .state t.Either ↔
          disk.Durably .state t.Either :=
        Disk.durably_change.trans (and_iff_right fun after hafter => .inl (hback after hafter))
      exact ⟨hkept.trans not_not.symm, iff_of_true ⟨.inl hold, fun _ => hold⟩ (by simp)⟩
    | fails =>
      rcases hstate with hold | hnone
      · have hkept : disk.Durably .state t.Either := hold.mono fun _ => .inl
        exact ends_kept (not_not.mpr hkept) hkept ⟨hkept.current, fun _ => hold.current⟩
      · have hmissing : ¬ t.Either (disk.current .state) := by
          rw [hnone]
          exact t.found
        exact ⟨not_not.symm, iff_of_false (fun h => hmissing h.1)
          (not_not.mpr ⟨fun h => hmissing h.current, by simp⟩)⟩
    | crashes => exact ends_crashed (by simp)
  | crashes => exact ends_crashed trivial

/-- The old state is moved away, and put back if the rename fails. -/
theorem Staged.installState_moved (hraw : t.new (some ⟨raw, true⟩)) (h : Staged t raw disk) :
    Ends t .windows True (Breaks faults)
      (installState faults (disk.change (rename .state .previous))) := by
  obtain ⟨file, hfile⟩ : ∃ file, disk.current .state = some file := by
    cases hfile : disk.current .state with
    | none => exact absurd (.inl (hfile ▸ h.old.current)) t.found
    | some file => exact ⟨file, rfl⟩
  have hmissing : rename .state .previous disk.current .state = none := by
    simp [rename, hfile, put_apply]
  have htemporary : rename .state .previous disk.current .temporary = some ⟨raw, true⟩ := by
    simpa [rename, hfile, put_apply] using h.temporary
  have hbackup : rename .state .previous disk.current .previous = some file := by
    simp [rename, hfile, put_apply]
  have hlost : ¬ (disk.change (rename .state .previous)).Durably .state t.Either := fun hkept =>
    t.found (hmissing ▸ hkept.current)
  have hends := ends_installState faults (disk.change (rename .state .previous)) hraw htemporary
    (fun after hafter => ?_) (.inr hmissing)
  · simpa [hlost] using hends
  · rw [Disk.change, rename_state hbackup (by decide), ← hfile] at hafter
    exact h.old _ List.mem_cons_self _ hafter

theorem Staged.installState_kept (hraw : t.new (some ⟨raw, true⟩)) (h : Staged t raw disk)
    (hprevious : disk.current .previous = none) :
    Ends t .windows False (Breaks faults) (installState faults disk) := by
  have hkept : disk.Durably .state t.Either := h.old.mono fun _ => .inl
  have hsame : rename .previous .state disk.current = disk.current := by simp [rename, hprevious]
  have hends : Ends t .windows _ (Breaks faults) (installState faults disk) :=
    ends_installState faults disk hraw h.temporary
      (fun after hafter => h.old _ List.mem_cons_self _ (hsame ▸ hafter)) (.inl h.old)
  simpa [hkept] using hends

theorem ends_replaceState (hraw : t.new (some ⟨raw, true⟩)) (h : Staged t raw disk)
    (hprevious : platform = .windows → faults .dropPrevious = .fails →
      disk.current .previous = none) :
    Ends t platform (platform = .windows ∧ Moves faults) (Breaks faults)
      (replaceState faults platform disk) := by
  cases platform with
  | unix => simpa using ends_replaceState_unix hraw h
  | windows =>
    have hstat (disk : Disk StateFile) (h : Staged t raw disk)
        (hprevious : disk.current .previous = none) :
        Ends t .windows (faults .statState = .works ∧ faults .keepPrevious = .works)
          (Breaks faults) (branch (faults .statState) id
            (alter faults .keepPrevious (rename .state .previous) (installState faults))
            (installState faults) disk) := by
      have hkeep : Ends t .windows (faults .keepPrevious = .works ∧ True) (Breaks faults)
          (alter faults .keepPrevious (rename .state .previous) (installState faults) disk) :=
        ends_attempt h.old (h.installState_moved hraw)
      simp only [branch]
      cases faults .statState with
      | works => simpa using hkeep
      | fails => simpa using h.installState_kept hraw hprevious
      | crashes => exact ends_old (by simp) h.old (by simp)
    simp only [replaceState, remove, ignoring, branch, Moves]
    cases hdrop : faults .dropPrevious with
    | works =>
      have hdropped : Staged t raw (disk.change (put .previous none)) :=
        ⟨(durably_put (by decide)).mpr h.old, h.temporary⟩
      simpa [branch] using hstat _ hdropped rfl
    | fails => simpa [branch] using hstat disk h (hprevious rfl hdrop)
    | crashes => exact ends_old (by simp) h.old (by simp)

/-! ## Transactions -/

/-- The phases up to the replacement of the state file. -/
def savePhases : List Phase :=
  [.create, .chmod, .stat, .ownership, .write, .sync, .close]

theorem ends_writeState (hraw : t.new (some ⟨raw, true⟩)) (h : disk.Durably .state t.old)
    (hprevious : platform = .windows → faults .dropPrevious = .fails →
      disk.current .previous = none) :
    Ends t platform
      ((∀ phase ∈ savePhases, faults phase = .works) ∧ platform = .windows ∧ Moves faults)
      (Breaks faults ∨ faults .dropTemporary = .crashes) (writeState faults platform raw disk) := by
  have hother : StateFile.temporary ≠ .state := by decide
  have hput (disk : Disk StateFile) (file : Directory StateFile → Option File)
      (h : disk.Durably .state t.old) :
      (disk.change fun dir => put .temporary (file dir) dir).Durably .state t.old :=
    (durably_put hother).mpr h
  have hcreated := hput disk (fun _ => some { content := [] }) h
  have hwritten := hput _ (fun _ => some { content := raw }) hcreated
  have hsynced := hput _ (fun dir =>
    (dir .temporary).map fun file => { file with synced := true }) hwritten
  have hstaged : Staged t raw _ := ⟨hsynced, by simp [Disk.change, put_apply]⟩
  have hreplaced : Ends t platform _ _ (replaceState faults platform _) :=
    ends_replaceState hraw hstaged (by simpa [Disk.change, put_apply] using hprevious)
  simp only [savePhases, List.forall_mem_cons, List.not_mem_nil, false_imp_iff, implies_true,
    true_and, and_assoc]
  exact ends_attempt h (ends_deferring hother _ (ends_attempt hcreated (ends_attempt hcreated
    (ends_attempt hcreated (ends_attempt hcreated (ends_attempt hwritten
      (ends_attempt hsynced hreplaced)))))))

variable {σ : Type} {f : Format σ} {action : Action σ} {state : σ}

/-- What is written for a state is loaded as this state. -/
theorem loadState_of_encodeStateFile (hf : f.Lawful) (h : f.encodeStateFile state = .ok raw)
    {synced : Bool} : f.loadState (some ⟨raw, synced⟩) = .ok state := by
  simp only [Format.encodeStateFile, bind_ok_iff, ensure_ok_iff, exists_const] at h
  obtain ⟨-, _, hvalid, encoded, hencoded, hlength, ⟨⟩⟩ := h
  obtain ⟨hne, hdecode⟩ := hf _ _ hvalid hencoded hlength
  simp [Format.loadState, Format.decodeStateFile, hne, hlength, hdecode, hvalid, Except.mapError]

/-- An action may leave the state as it is. -/
def Format.transition (f : Format σ) (action : Action σ) (state : σ) : Transition where
  old file := f.loadState file = .ok state
  new file := ∃ changed, f.nextState action state = .ok changed ∧
    f.loadState file = .ok (changed.getD state)
  found := by simp [Format.loadState]

/-- A transaction has a state to save. -/
def Format.Saves (f : Format σ) (action : Action σ) (state : σ) : Prop :=
  ∃ next raw, f.nextState action state = .ok (some next) ∧ f.encodeStateFile next = .ok raw

/-- What follows the load of the state. -/
theorem ends_nextState (hf : f.Lawful)
    (h : disk.Durably .state fun file => f.loadState file = .ok state)
    (hprevious : platform = .windows → faults .dropPrevious = .fails →
      disk.current .previous = none) :
    Ends (f.transition action state) platform
      (f.Saves action state ∧ (∀ phase ∈ savePhases, faults phase = .works) ∧
        platform = .windows ∧ Moves faults)
      (Breaks faults ∨ faults .dropTemporary = .crashes)
      (match f.loadState (disk.current .state) >>= f.nextState action with
        | .error err => (.failed err, disk)
        | .ok none => (.done, disk)
        | .ok (some next) => f.saveState platform faults next disk) := by
  rw [h.current, ok_bind]
  rcases hnext : f.nextState action state with err | _ | next
  · exact ends_old (by simp [Format.Saves, hnext]) h (by simp)
  · have hnew : disk.Durably .state (f.transition action state).new := h.mono fun _ hload =>
      ⟨none, hnext, hload⟩
    exact ends_kept (by simp [Format.Saves, hnext]) (h.mono fun _ => .inl)
      ⟨hnew.current, fun _ => hnew⟩
  · simp only [Format.saveState]
    rcases hencode : f.encodeStateFile next with err | raw
    · exact ends_old (by simp [Format.Saves, hnext, hencode]) h (by simp)
    · have hraw : (f.transition action state).new (some ⟨raw, true⟩) :=
        ⟨some next, hnext, loadState_of_encodeStateFile hf hencode⟩
      have hwrite : Ends (f.transition action state) platform _ _
          (writeState faults platform raw disk) := ends_writeState hraw h hprevious
      simpa [Format.Saves, hnext, hencode] using hwrite

/-- A transaction reaches the replacement of the state file. -/
def Format.Replaces (f : Format σ) (action : Action σ) (faults : Faults) (state : σ)
    (dir : Directory StateFile) : Prop :=
  0 < action.now ∧ dir .lock = none ∧ faults .lock = .works ∧ faults .load = .works ∧
    f.Saves action state ∧ ∀ phase ∈ savePhases, faults phase = .works

/-- The machine crashes before the temporary file is renamed. -/
def crashBeforeRename : Faults := fun phase => if phase = .rename then .crashes else .works

/-- States of one byte. -/
def sampleFormat : Format UInt8 where
  assignments _ := 0
  audit _ := 0
  lastObservedAt _ := 1
  validateState _ := .ok ()
  finish _ state := .ok state
  encodeEnvelope state := .ok [state]
  decodeEnvelope | [state] => .ok state | _ => .error .stateCorrupt

theorem sampleFormat_lawful : sampleFormat.Lawful := by
  rintro state raw - ⟨⟩ -
  exact ⟨by simp, rfl⟩

/-- The directory of a deployment in the state 1. -/
def sampleDirectory : Directory StateFile :=
  fun name => if name = .state then some ⟨[1], true⟩ else none

/-- From the state 1 to the state 2. -/
def sampleAction : Action UInt8 := ⟨1, true, fun _ => .ok (some 2)⟩

def sampleTransaction (platform : Platform) (faults : Faults) :=
  sampleFormat.withStateTransactionClock platform faults sampleAction { current := sampleDirectory }

end Kurdistan.Selfhost
